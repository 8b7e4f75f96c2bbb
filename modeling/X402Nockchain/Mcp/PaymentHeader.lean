import X402Nockchain.Mcp.AdvertisedOptions

/-! The payment header as `x402-client` attaches it and as `x402-mcp` looks it up. -/

namespace X402Nockchain.Mcp

open Foundation Foundation.Serde X402Types Facilitator Crypto
open Client (decodePaymentHeader decodePaymentHeader_encode encodePaymentSignatureHeader retryHeader)

section Header

variable {World : Type} [JsonText] [Base64] {registry : McpToolRegistry World}
  {payload : PaymentPayload Value}

/-- The verifier is asked about this payment. -/
def HandsOver (registry : McpToolRegistry World) (request : CallRequest) (payload : PaymentPayload Value) :
    Prop :=
  ∃ registered requirements, gate registry request = .check registered { payload, requirements }

/-- The first header of the gate's own name spells the payment. -/
def Spelled (headers : HeaderMap) (payload : PaymentPayload Value) : Prop :=
  ∃ value text, headers.lookup paymentSignatureHeader = some value ∧ headerText value = some text ∧
    decodePaymentHeader text = some payload

theorem spelled_iff {request : CallRequest} :
    Spelled request.headers payload ↔ request.payload = some payload := by
  simp only [Spelled, CallRequest.payload, Option.bind_eq_some_iff]
  constructor
  · rintro ⟨value, text, carried, visible, decoded⟩
    exact ⟨text, ⟨value, carried, visible⟩, decoded⟩
  · rintro ⟨text, ⟨value, carried, visible⟩, decoded⟩
    exact ⟨value, text, carried, visible, decoded⟩

theorem handsOver_iff {request : CallRequest} (found : registry.get request.tool = some registered) :
    HandsOver registry request payload ↔ registry.accepts ≠ [] ∧ Spelled request.headers payload := by
  simp only [HandsOver, gate_check_iff, spelled_iff, found]
  constructor
  · rintro ⟨_, requirements, _, offered, carried⟩
    refine ⟨?_, carried⟩
    intro empty
    simp [empty] at offered
  · rintro ⟨offers, carried⟩
    exact ⟨registered, registry.accepts.head offers, rfl, List.head?_eq_some_head offers, carried⟩

/-- The client's header is none that the gate looks at. -/
theorem lookup_retryHeader (payload : PaymentPayload Value) (before after : HeaderMap) :
    (before ++ retryHeader payload :: after).lookup paymentSignatureHeader =
      (before ++ after).lookup paymentSignatureHeader := by
  have other : (paymentSignatureHeader == "payment-signature") = false := by decide
  rw [List.lookup_append, List.lookup_append, retryHeader, List.lookup_cons, other]

/-- Under the gate's own name, the client's text is read as the payment. -/
theorem spelled_encode [LawfulBase64] (after : HeaderMap)
    (faithful : JsonText.parse (JsonText.print (toValue payload)) = some (toValue payload))
    (visible : headerText (asBytes (encodePaymentSignatureHeader payload)) =
      some (encodePaymentSignatureHeader payload)) :
    Spelled ((paymentSignatureHeader, (retryHeader payload).2) :: after) payload := by
  refine ⟨_, _, ?_, visible, decodePaymentHeader_encode faithful⟩
  rw [List.lookup_cons, beq_self_eq_true]
  rfl

/-- A request without a payment that the gate can read is a 402. -/
theorem callTool_unpaid (found : registry.get request.tool = some registered) (offers : registry.accepts ≠ [])
    (unread : request.payload = none) (verifier : PaymentVerifier World) (world : World) :
    (callTool registry verifier request world).1.reply.status = 402 ∧
      (callTool registry verifier request world).1.ran = none ∧
      (callTool registry verifier request world).2 = world := by
  have refused : gate registry request = .respond (paymentRequired registry request.tool) := by
    simp only [gate, found, List.head?_eq_some_head offers, unread]
  obtain ⟨body, built, _⟩ := McpToolRegistry.paymentRequired_of_get found
  simp [callTool, refused, paymentRequired, built]

/-- A call with the client's header hands the payment over exactly if another header,
of the gate's own name, spells it. Without one, as the client sends it, the
call is a 402 whatever the verifier would say. -/
theorem client_header_read_iff (found : registry.get tool = some registered) (before after : HeaderMap)
    (args : Value) (payload : PaymentPayload Value) :
    let request : CallRequest := { tool, headers := before ++ retryHeader payload :: after, args }
    (HandsOver registry request payload ↔ registry.accepts ≠ [] ∧ Spelled (before ++ after) payload) ∧
    (registry.accepts ≠ [] → (∀ header ∈ before ++ after, header.1 ≠ paymentSignatureHeader) →
      ∀ verifier world, (callTool registry verifier request world).1.reply.status = 402 ∧
        (callTool registry verifier request world).1.ran = none ∧
        (callTool registry verifier request world).2 = world) := by
  intro request
  have same := lookup_retryHeader payload before after
  constructor
  · rw [handsOver_iff found]
    simp only [request, Spelled, same]
  · intro offers absent
    have missing : (before ++ after).lookup paymentSignatureHeader = none := by
      apply List.lookup_eq_none_iff.mpr
      intro header member
      simpa using (absent header member).symm
    apply callTool_unpaid found offers
    simp [CallRequest.payload, request, same, missing]

end Header

/-! ### The client's request, and one that says it twice -/

namespace Transparent

open Crypto.Transparent Facilitator.Transparent

attribute [local instance] transparent transparent_lawful plainErrors Wallet.spelledBase64
  Wallet.spelledBase64_lawful oneDocument

theorem client_header_read_twice :
    HandsOver (stall [requirements]) {
      tool := "echo"
      headers := [retryHeader original.payload, (paymentSignatureHeader, [])]
      args := .null } original.payload ∧
    (callTool (stall [requirements]) (remoteFacilitatorVerifier facilitator 1100) {
      tool := "echo"
      headers := [retryHeader original.payload]
      args := .null } {}).1.reply.status = 402 := by
  have twice := client_header_read_iff (stall_get [requirements]) [] [(paymentSignatureHeader, [])] .null
    original.payload
  have once := client_header_read_iff (stall_get [requirements]) [] [] .null original.payload
  constructor
  · exact twice.1.mpr ⟨List.cons_ne_nil _ _, spelled_iff.mpr paidCall_payload⟩
  · exact (once.2 (List.cons_ne_nil _ _) nofun _ _).1

/-- The gate does not see the client's payment. -/
theorem client_header_unread : ¬ ∀ (registry : McpToolRegistry RecordLog) registered tool args payload,
    registry.get tool = some registered → registry.accepts ≠ [] →
      HandsOver registry { tool, headers := [retryHeader payload], args } payload := by
  intro claim
  obtain ⟨_, _, asked⟩ := claim (stall [requirements]) echo "echo" .null original.payload (stall_get _)
    (List.cons_ne_nil _ _)
  obtain ⟨_, _, carried⟩ := gate_check_iff.mp asked
  cases carried

end Transparent

end X402Nockchain.Mcp
