import X402Nockchain.Facilitator.Bazaar

/-! The `EXTENSION-RESPONSES` header, as the client decodes what the facilitator
encoded. -/

namespace X402Nockchain.Client

open Foundation Foundation.Serde X402Types Facilitator

variable [JsonText] [Base64]

def decodeExtensionHeader (value : String) : Option ExtensionResponsesHeader := do
  let bytes ← (Base64.decode value).toOption
  fromText (← ofBytes bytes)

/-- The document that the facilitator encodes for a response. -/
def envelopeOf (response : BazaarExtensionResponse) : ExtensionResponsesHeader where
  bazaar := some response
  other := ⟨[], List.nodup_nil⟩

omit [JsonText] [Base64] in
@[simp] theorem fromValue_envelopeOf (response : BazaarExtensionResponse) :
    fromValue (toValue (envelopeOf response)) = some (envelopeOf response) :=
  ExtensionResponsesHeader.fromValue_toValue (List.not_mem_nil)

/-- The JSON text of a response reads back as it was written. -/
def Legible (response : BazaarExtensionResponse) : Prop :=
  JsonText.parse (JsonText.print (toValue (envelopeOf response))) = some (toValue (envelopeOf response))

/-- The client sees the response that the facilitator encoded. -/
theorem decodeExtensionHeader_encode [LawfulBase64] {response : BazaarExtensionResponse}
    (legible : Legible response) :
    decodeExtensionHeader (encodeHeaderValue response) = some (envelopeOf response) := by
  have written : encodeHeaderValue response = Base64.encode (asBytes (toText (envelopeOf response))) := rfl
  have read : JsonText.parse (JsonText.print (toValue (envelopeOf response))) = _ := legible
  simp [decodeExtensionHeader, written, Except.toOption, fromText, toText, read]

/-- What the client makes of the header that an answer came with, if it came with one. -/
def Reports (header : Option String) (response : BazaarExtensionResponse) : Prop :=
  ∃ value decoded, header = some value ∧ decodeExtensionHeader value = some decoded ∧
    decoded.bazaar = some response

/-- The client reads out of an answer what the facilitator put in. -/
theorem reports_iff [LawfulBase64] {outcome : Option BazaarExtensionResponse}
    (legible : ∀ response, outcome = some response → Legible response) :
    Reports (outcome.map encodeHeaderValue) response ↔ outcome = some response := by
  cases outcome with
  | none => simp [Reports]
  | some produced =>
    have decoded := decodeExtensionHeader_encode (legible produced rfl)
    simp [Reports, decoded, envelopeOf]

end X402Nockchain.Client
