import X402Nockchain.Foundation.Base64
import X402Nockchain.Client.Builder
import X402Nockchain.X402Types.Facilitator

/-! The two ends of the 402 flow: `fetch_with_payment`, between its awaits, and a
resource server that admits what its facilitator verifies. -/

namespace X402Nockchain.Client

open Foundation Foundation.Serde X402Types

inductive Response where
  | paymentRequired (body : PaymentRequired)
  | served (resource : Value)
  /-- No payment option is configured. -/
  | misconfigured

def Response.status : Response → Nat
  | paymentRequired _ => 402
  | served _ => 200
  | misconfigured => 500

/-- The response, its body as a reader of JSON has it. -/
def Response.withoutNulls : Response → Response
  | paymentRequired body => .paymentRequired body.withoutNulls
  | served resource => .served resource
  | misconfigured => .misconfigured

section Header

variable [JsonText] [Base64]

def encodePaymentSignatureHeader (payload : PaymentPayload Value) : String :=
  Base64.encode (asBytes (toText payload))

/-- The header that the retry carries: its name and its raw value. -/
def retryHeader (payload : PaymentPayload Value) : String × List UInt8 :=
  ("payment-signature", asBytes (encodePaymentSignatureHeader payload))

def decodePaymentHeader (header : String) : Option (PaymentPayload Value) := do
  let bytes ← (Base64.decode header).toOption
  fromText (← ofBytes bytes)

theorem decodePaymentHeader_encode [LawfulBase64] {payload : PaymentPayload Value}
    (faithful : JsonText.parse (JsonText.print (toValue payload)) = some (toValue payload)) :
    decodePaymentHeader (encodePaymentSignatureHeader payload) = some payload := by
  simp [decodePaymentHeader, encodePaymentSignatureHeader, Except.toOption, fromText, toText, faithful]

end Header

/-! ### The resource server -/

inductive VerifyFailure where
  | rejected (message : String)
  | transport (message : String)
  deriving DecidableEq

/-- What `RemoteFacilitatorVerifier::verify` makes of an answer of the facilitator. -/
def remoteVerdict (resp : VerifyResponse) : Except VerifyFailure Unit :=
  if resp.valid then .ok ()
  else .error (.rejected (match resp.error with
    | some e => s!"{e.code}: {e.message}"
    | none => "verifier returned valid=false with no error"))

structure ResourceServer where
  offer : PaymentRequired
  resource : Value

/-- What the server does with a request: it responds, or asks its facilitator first. -/
inductive Gated where
  | respond (response : Response)
  | check (req : VerifyRequest)

namespace ResourceServer

/-- `call_tool` up to the verifier. -/
def receive [JsonText] [Base64] (server : ResourceServer) (paymentHeader : Option String) : Gated :=
  match server.offer.accepts.head? with
  | none => .respond .misconfigured
  | some requirements =>
    match paymentHeader.bind decodePaymentHeader with
    | none => .respond (.paymentRequired server.offer)
    | some payload => .check { payload, requirements }

/-- `call_tool` after the verifier. -/
def conclude (server : ResourceServer) (resp : VerifyResponse) : Response :=
  match remoteVerdict resp with
  | .ok () => .served server.resource
  | .error _ => .paymentRequired server.offer

theorem receive_respond [JsonText] [Base64] {server : ResourceServer}
    (responds : server.receive paymentHeader = .respond response) :
    response = .paymentRequired server.offer ∨
      response = .misconfigured ∧ server.offer.accepts.head? = none := by
  unfold receive at responds
  split at responds
  · rename_i empty
    exact .inr ⟨(Gated.respond.inj responds).symm, empty⟩
  · split at responds
    · exact .inl (Gated.respond.inj responds).symm
    · cases responds

theorem receive_check [JsonText] [Base64] {server : ResourceServer} {req : VerifyRequest}
    (checks : server.receive paymentHeader = .check req) :
    server.offer.accepts.head? = some req.requirements ∧ ∃ text, paymentHeader = some text ∧
      decodePaymentHeader text = some req.payload := by
  unfold receive at checks
  split at checks
  · cases checks
  · split at checks
    · cases checks
    · rename_i requirements offered _ payload decoded
      obtain rfl := Gated.check.inj checks
      exact ⟨offered, Option.bind_eq_some_iff.mp decoded⟩

theorem conclude_eq (server : ResourceServer) (resp : VerifyResponse) : server.conclude resp =
    if resp.valid then .served server.resource else .paymentRequired server.offer := by
  by_cases valid : resp.valid = true <;> simp [conclude, remoteVerdict, valid]

end ResourceServer

/-! ### The client -/

inductive FetchError where
  | notPaymentRequired (status : Nat)
  | acceptsEmpty
  | build (message : String)
  | rejected (error : Option FacilitatorError)

def getPaymentRequired : Response → Except FetchError PaymentRequired
  | .paymentRequired body => .ok body
  | response => .error (.notPaymentRequired response.status)

/-- The arguments of a `fetch_with_payment`, with the clock and the random bytes
that its payload is built from. -/
structure Fetch where
  signer : Signer
  now : UInt64
  drawn : Draws

/-- From the first response to the request for `/verify`. -/
def Fetch.prepare (fetch : Fetch) (response : Response) : Except FetchError VerifyRequest := do
  let envelope ← getPaymentRequired response
  let requirements ← okOr .acceptsEmpty envelope.accepts.head?
  let payload ← (buildExactNockchainPayload requirements fetch.signer envelope.extensions fetch.now
    fetch.drawn).mapError .build
  return { payload, requirements }

theorem Fetch.prepare_ok_iff {fetch : Fetch} {req : VerifyRequest} :
    fetch.prepare response = .ok req ↔ ∃ envelope, response = .paymentRequired envelope ∧
      envelope.accepts.head? = some req.requirements ∧
      buildExactNockchainPayload req.requirements fetch.signer envelope.extensions fetch.now
        fetch.drawn = .ok req.payload := by
  have asked : ∀ envelope, getPaymentRequired response = .ok envelope ↔
      response = .paymentRequired envelope := by
    cases response <;> simp [getPaymentRequired]
  simp only [prepare, Outcome.bind_ok, Outcome.okOr_ok, Outcome.mapError_ok, Outcome.pure_ok, asked]
  constructor
  · rintro ⟨envelope, challenged, requirements, offered, payload, built, rfl⟩
    exact ⟨envelope, challenged, offered, built⟩
  · rintro ⟨envelope, challenged, offered, built⟩
    exact ⟨envelope, challenged, req.requirements, offered, req.payload, built, rfl⟩

/-- Where a `fetch_with_payment` waits, and what it has asked `/verify`. -/
inductive ClientPhase where
  | start
  | asking
  | verifying (req : VerifyRequest)
  | retrying (req : VerifyRequest)
  | finished (req : Option VerifyRequest) (result : Except FetchError Response)

/-- The request that the client has asked `/verify` about. -/
def ClientPhase.request : ClientPhase → Option VerifyRequest
  | start | asking => none
  | verifying req | retrying req => some req
  | finished req _ => req

end X402Nockchain.Client
