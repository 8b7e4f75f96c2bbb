import X402Nockchain.X402Types.Payment

/-! The request and response bodies of the facilitator API. -/

namespace X402Nockchain.X402Types

open Foundation.Serde

structure VerifyRequest where
  payload : PaymentPayload Value
  requirements : PaymentRequirements

abbrev SettleRequest := VerifyRequest

structure FacilitatorError where
  code : String
  message : String
  deriving DecidableEq

structure VerifyResponse where
  valid : Bool
  error : Option FacilitatorError := none
  deriving DecidableEq

structure TransactionStatus where
  txId : String
  blockHeight : Option UInt64 := none
  status : String
  deriving DecidableEq

structure SettleResponse where
  success : Bool
  transaction : Option TransactionStatus := none
  error : Option FacilitatorError := none
  deriving DecidableEq

/-! ### JSON forms -/

instance : Struct VerifyRequest where
  width := 2
  fields request := [("payload", some (toValue request.payload)),
    ("requirements", some (toValue request.requirements))]
  read source := do
    return {
      payload := ← source.required 0 "payload"
      requirements := ← source.required 1 "requirements" }

/-- The request as the facilitator reads it from the wire. -/
def VerifyRequest.withoutNulls (request : VerifyRequest) : VerifyRequest :=
  { request with requirements := request.requirements.withoutNulls }

@[simp] theorem VerifyRequest.fromValue_toValue_withoutNulls (request : VerifyRequest) :
    fromValue (toValue request) = some request.withoutNulls := by
  change Struct.read (.map (present (Struct.fields request))) = some request.withoutNulls
  simp (disch := simp) [Struct.read, Struct.fields, List.lookup_cons, withoutNulls]

theorem VerifyRequest.explicit_of_fromValue {request : VerifyRequest}
    (read : fromValue value = some request) : request.requirements.Explicit := by
  obtain ⟨source, _, read⟩ := Option.bind_eq_some_iff.mp read
  obtain ⟨payload, _, read⟩ := Option.bind_eq_some_iff.mp read
  obtain ⟨requirements, found, read⟩ := Option.bind_eq_some_iff.mp read
  obtain rfl := Option.some.inj read
  obtain ⟨inner, _, decoded⟩ := Option.bind_eq_some_iff.mp found
  exact PaymentRequirements.explicit_of_fromValue decoded

instance : Struct FacilitatorError where
  width := 2
  fields error := [("code", some (toValue error.code)), ("message", some (toValue error.message))]
  read source := do
    return { code := ← source.required 0 "code", message := ← source.required 1 "message" }

instance : RoundTrips FacilitatorError := Struct.roundTrips fun error => by
  simp (disch := simp) [Struct.read, Struct.fields, List.lookup_cons]

instance : Struct VerifyResponse where
  width := 2
  fields response := [("valid", some (toValue response.valid)), ("error", skipNone response.error)]
  read source := do
    return { valid := ← source.required 0 "valid", error := ← source.defaulted 1 "error" none }

instance : RoundTrips VerifyResponse := Struct.roundTrips fun response => by
  simp (disch := simp) [Struct.read, Struct.fields, List.lookup_cons, elim_skipNone]

end X402Nockchain.X402Types
