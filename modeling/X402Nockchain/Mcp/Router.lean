import X402Nockchain.Client.Fetch
import X402Nockchain.Mcp.Registry

/-! `x402-mcp::router` and `::verifier`: a call of a tool up to the payment check,
and what becomes of it afterwards. -/

namespace X402Nockchain.Mcp

open Foundation Foundation.Serde X402Types
open Client (VerifyFailure decodePaymentHeader remoteVerdict)

variable {World : Type}

/-! ### Requests and replies -/

/-- Lowercase names and raw values, in the order of arrival. -/
abbrev HeaderMap := List (String × List UInt8)

def isVisibleAscii (byte : UInt8) : Bool := 32 ≤ byte && byte < 127 || byte = 9

/-- `HeaderValue::to_str`. -/
def headerText (value : List UInt8) : Option String :=
  if value.all isVisibleAscii then ofBytes value else none

def paymentSignatureHeader : String := "x-payment-signature"

/-- A `POST /mcp/call/:tool` whose body is JSON. -/
structure CallRequest where
  tool : String
  headers : HeaderMap
  args : Value

structure Reply where
  status : Nat
  body : Value

def notFound (tool : String) : Reply where
  status := 404
  body := .object [("error", .string s!"unknown tool '{tool}'")]

def internalServerError (message : String) : Reply where
  status := 500
  body := .object [("error", .string message)]

def paymentRequired (registry : McpToolRegistry World) (tool : String) : Reply :=
  match registry.paymentRequired tool with
  | some body => { status := 402, body := toValue body }
  | none => notFound tool

/-- What an invocation is answered with. -/
def invocationReply : Except CallError CallOutcome → Reply
  | .ok (.success v) => { status := 200, body := v }
  | .ok (.toolFailed e) => internalServerError e.message
  | .error (.unknownTool t) => notFound t
  | .error (.tool e) => internalServerError e.message

theorem notFound_status (tool : String) : (notFound tool).status ≠ 200 := Nat.ne_of_beq_eq_false rfl

theorem internalServerError_status (message : String) : (internalServerError message).status ≠ 200 :=
  Nat.ne_of_beq_eq_false rfl

/-- A refused payment is never answered 200. -/
theorem paymentRequired_status (registry : McpToolRegistry World) (tool : String) :
    (paymentRequired registry tool).status ≠ 200 := by
  unfold paymentRequired
  split
  · exact Nat.ne_of_beq_eq_false rfl
  · exact notFound_status tool

/-- An invocation is not answered as unpaid. -/
theorem invocationReply_status (outcome : Except CallError CallOutcome) :
    (invocationReply outcome).status ≠ 402 := by
  rcases outcome with (⟨name⟩ | ⟨error⟩) | (⟨value⟩ | ⟨error⟩) <;> exact Nat.ne_of_beq_eq_false rfl

/-! ### The payment check -/

/-- `trait PaymentVerifier`, over the world that it acts on. -/
structure PaymentVerifier (World : Type) where
  verify : World → PaymentPayload Value → PaymentRequirements → Except VerifyFailure Unit × World

/-- What `RemoteFacilitatorVerifier` makes of the body of a reply. -/
def readReply [ErrorText] (body : Value) : Except VerifyFailure Unit := do
  let resp : VerifyResponse ← okOr (.transport (ErrorText.decodeFailure body)) (fromValue body)
  remoteVerdict resp

/-- The reply of a facilitator is read as its verdict. -/
theorem readReply_ok_iff [ErrorText] {resp : VerifyResponse} {done : Unit} :
    readReply (toValue resp) = .ok done ↔ resp.valid = true := by
  cases valid : resp.valid <;> simp [readReply, remoteVerdict, valid]

section Calls

variable [JsonText] [Base64]

/-- The payment that a request carries, if its header is there and decodes. -/
def CallRequest.payload (request : CallRequest) : Option (PaymentPayload Value) :=
  ((request.headers.lookup paymentSignatureHeader).bind headerText).bind decodePaymentHeader

/-- `call_tool` up to the verifier: a reply, or what the verifier is asked. -/
inductive Gated (World : Type) where
  | respond (reply : Reply)
  | check (registered : RegisteredTool World) (req : VerifyRequest)

def gate (registry : McpToolRegistry World) (request : CallRequest) : Gated World :=
  match registry.get request.tool with
  | none => .respond (notFound request.tool)
  | some registered =>
    match registry.accepts.head? with
    | none => .respond (internalServerError "registry has no PaymentRequirements configured")
    | some requirements =>
      match request.payload with
      | none => .respond (paymentRequired registry request.tool)
      | some payload => .check registered { payload, requirements }

/-- What came of a call: the reply, and the handler that ran with its arguments. -/
structure CallResult where
  reply : Reply
  ran : Option (String × Value) := none

/-- `call_tool` with nothing in between. -/
def callTool (registry : McpToolRegistry World) (verifier : PaymentVerifier World)
    (request : CallRequest) (world : World) : CallResult × World :=
  match gate registry request with
  | .respond reply => ({ reply }, world)
  | .check registered req =>
    match verifier.verify world req.payload req.requirements with
    | (.error _, world) => ({ reply := paymentRequired registry request.tool }, world)
    | (.ok (), world) =>
      let (outcome, world) := registry.invoke registered.tool request.args world
      let ran := (registry.get registered.tool).map fun found => (found.tool, request.args)
      ({ reply := invocationReply outcome, ran }, world)

theorem gate_check_iff {registry : McpToolRegistry World} {request : CallRequest} {req : VerifyRequest} :
    gate registry request = .check registered req ↔ registry.get request.tool = some registered ∧
      registry.accepts.head? = some req.requirements ∧ request.payload = some req.payload := by
  unfold gate
  cases registry.get request.tool with
  | none => simp
  | some found =>
    cases registry.accepts.head? with
    | none => simp
    | some requirements =>
      cases request.payload with
      | none => simp
      | some payload =>
        obtain ⟨payload', requirements'⟩ := req
        simp only [Gated.check.injEq, VerifyRequest.mk.injEq, Option.some.injEq]
        tauto

/-- A refusal before the verifier is never a 200. -/
theorem gate_respond_status {registry : McpToolRegistry World} {request : CallRequest}
    (responds : gate registry request = .respond reply) : reply.status ≠ 200 := by
  unfold gate at responds
  split at responds
  · obtain rfl := Gated.respond.inj responds
    exact notFound_status _
  · split at responds
    · obtain rfl := Gated.respond.inj responds
      exact internalServerError_status _
    · split at responds
      · obtain rfl := Gated.respond.inj responds
        exact paymentRequired_status _ _
      · cases responds

end Calls

end X402Nockchain.Mcp
