import X402Nockchain.Facilitator.Acceptance
import X402Nockchain.Facilitator.Rejections
import X402Nockchain.Mcp.Router
import X402Nockchain.Wallet.Nockchain

/-! The options that a 402 body advertises, and the one that a call is checked against. -/

namespace X402Nockchain.Mcp

open Foundation Foundation.Serde X402Types Facilitator Crypto
open Client (decodePaymentHeader decodePaymentHeader_encode encodePaymentSignatureHeader)

/-- `RemoteFacilitatorVerifier`, over a facilitator that serves nobody else
meanwhile. Its world is the replay cache. -/
def remoteFacilitatorVerifier [Vesl] [ErrorText] [ReplayCache Cache] (state : AppState Chain) (now : UInt64) :
    PaymentVerifier Cache where
  verify cache payload requirements :=
    let req : VerifyRequest := { payload, requirements }
    let (outcome, cache) := verifyEnvelope state now cache req.withoutNulls
    (readReply (toValue (verifyResponse outcome)), cache)

section Options

variable {World : Type} [JsonText] [Base64] {registry : McpToolRegistry World}
  {verifier : PaymentVerifier World} {request : CallRequest} {world : World}

/-- The 402 body of a tool lists the entry. -/
def Advertised (registry : McpToolRegistry World) (tool : String) (requirements : PaymentRequirements) :
    Prop :=
  ∃ body, registry.paymentRequired tool = some body ∧ requirements ∈ body.accepts

/-- The verifier accepts a payload against an entry, the world being as it is. -/
def Accepts (verifier : PaymentVerifier World) (world : World) (payload : PaymentPayload Value)
    (requirements : PaymentRequirements) : Prop :=
  (verifier.verify world payload requirements).1 = .ok ()

/-- The handler of the tool runs, and the caller does not get another 402. -/
def Admitted (registry : McpToolRegistry World) (verifier : PaymentVerifier World)
    (request : CallRequest) (world : World) : Prop :=
  let result := (callTool registry verifier request world).1
  result.ran = some (request.tool, request.args) ∧ result.reply.status ≠ 402

/-- The verifier accepts the payload against the first entry. -/
def AcceptedFirst (registry : McpToolRegistry World) (verifier : PaymentVerifier World) (world : World)
    (payload : PaymentPayload Value) : Prop :=
  ∃ first, registry.accepts.head? = some first ∧ Accepts verifier world payload first

omit [JsonText] [Base64] in
theorem advertised_iff (found : registry.get tool = some registered) :
    Advertised registry tool requirements ↔ requirements ∈ registry.accepts := by
  obtain ⟨body, built, accepts⟩ := McpToolRegistry.paymentRequired_of_get found
  constructor
  · rintro ⟨body', built', listed⟩
    obtain rfl := Option.some.inj (built.symm.trans built')
    rwa [accepts] at listed
  · intro listed
    exact ⟨body, built, accepts ▸ listed⟩

omit [JsonText] [Base64] in
/-- The remote verifier accepts what the facilitator accepts. -/
theorem accepts_remote_iff [Vesl] [ErrorText] [ReplayCache Cache] {state : AppState Chain} {cache : Cache}
    {payload : PaymentPayload Value} : Accepts (remoteFacilitatorVerifier state now) cache payload requirements ↔
      (verifyEnvelope state now cache (VerifyRequest.withoutNulls { payload, requirements })).1 = .ok () := by
  simp only [Accepts, remoteFacilitatorVerifier, readReply_ok_iff, verifyResponse_valid]

/-- A paid call of a registered tool is admitted exactly if the verifier accepts it
against the first entry. -/
theorem admitted_iff (found : registry.get request.tool = some registered)
    (carried : request.payload = some payload) :
    Admitted registry verifier request world ↔ AcceptedFirst registry verifier world payload := by
  have named : registered.tool = request.tool := McpToolRegistry.tool_of_get found
  cases offered : registry.accepts.head? with
  | none =>
    have refused : gate registry request =
        .respond (internalServerError "registry has no PaymentRequirements configured") := by
      simp [gate, found, offered]
    simp [Admitted, AcceptedFirst, callTool, refused, offered]
  | some first =>
    have checks : gate registry request = .check registered { payload, requirements := first } :=
      gate_check_iff.mpr ⟨found, offered, carried⟩
    rcases verdict : verifier.verify world payload first with ⟨error | done, after⟩
    · simp [Admitted, AcceptedFirst, Accepts, callTool, checks, offered, verdict]
    · simp [Admitted, AcceptedFirst, Accepts, callTool, checks, offered, verdict, named, found,
        invocationReply_status]

/-- Every advertised option that a payload is accepted against admits its call,
exactly if what is accepted against any entry is accepted against the first. -/
theorem any_option_usable_iff (found : registry.get request.tool = some registered)
    (carried : request.payload = some payload) :
    (∀ requirements, Advertised registry request.tool requirements →
        Accepts verifier world payload requirements → Admitted registry verifier request world) ↔
      ∀ requirements ∈ registry.accepts, Accepts verifier world payload requirements →
        AcceptedFirst registry verifier world payload := by
  simp only [advertised_iff found, admitted_iff found carried]

end Options

/-! ### What the facilitator holds against an entry -/

/-- An entry that a payment may be made for: of its scheme and network, payee, cap and asset. -/
structure MadeFor (payload : PaymentPayload Value) (auth : Authorization) (requirements : PaymentRequirements) :
    Prop where
  scheme : payload.scheme = requirements.scheme
  network : payload.network = requirements.network
  recipient : auth.to = requirements.payTo
  capped : ∃ value cap, Decimal.parseU128 auth.value = some value ∧
    Decimal.parseU128 requirements.maxAmountRequired = some cap ∧ value ≤ cap
  native : requirements.asset = nockchainNativeAsset

theorem MadeFor.withoutNulls_iff : MadeFor payload auth requirements.withoutNulls ↔
    MadeFor payload auth requirements := by
  constructor <;> rintro ⟨scheme, network, recipient, capped, native⟩ <;>
    exact ⟨scheme, network, recipient, capped, native⟩

section Entries

variable [Vesl] [ErrorText] [LawfulReplayCache Cache] {Chain : Type} {state : AppState Chain} {cache : Cache}
  {payload : PaymentPayload Value} {requirements other : PaymentRequirements}

omit [ErrorText] in
/-- A payment that is acceptable for one entry is so for exactly those that it may be made for. -/
theorem acceptable_iff_madeFor (acceptable : Acceptable state now cache { payload, requirements } nock) :
    Acceptable state now cache { payload, requirements := other } nock ↔
      MadeFor payload nock.authorization other := by
  constructor
  · intro found
    exact ⟨found.scheme, found.network, found.admissible.recipient, found.admissible.capped,
      found.admissible.native⟩
  · rintro ⟨scheme, network, recipient, capped, native⟩
    obtain ⟨version, scheme', network', ⟨named, prefixed⟩, carried, running, fresh, admissible⟩ := acceptable
    have named' : requirements.scheme = other.scheme := scheme'.symm.trans scheme
    have prefixed' : requirements.network = other.network := network'.symm.trans network
    exact ⟨version, scheme, network, ⟨named' ▸ named, prefixed' ▸ prefixed⟩, carried, running, fresh,
      recipient, admissible.attested, capped, native⟩

/-- A payment that the remote verifier accepts for some entry is accepted for the first
exactly if it may be made for the first. -/
theorem acceptedFirst_remote_iff {registry : McpToolRegistry Cache}
    (schemes : state.schemeRegistry = .withDefaultHandlers)
    (accepts : Accepts (remoteFacilitatorVerifier state now) cache payload requirements) :
    AcceptedFirst registry (remoteFacilitatorVerifier state now) cache payload ↔
      ∃ (first : PaymentRequirements) (nock : ExactNockchainPayload), registry.accepts.head? = some first ∧
        fromValue payload.payload = some nock ∧ MadeFor payload nock.authorization first := by
  have accepted (entry : PaymentRequirements) : Accepts (remoteFacilitatorVerifier state now) cache payload entry ↔
      ∃ nock, Acceptable state now cache { payload, requirements := entry.withoutNulls } nock :=
    accepts_remote_iff.trans (accepted_iff schemes)
  obtain ⟨nock, acceptable⟩ := (accepted requirements).mp accepts
  constructor
  · rintro ⟨first, offered, accepts'⟩
    obtain ⟨nock', acceptable'⟩ := (accepted first).mp accepts'
    have madeFor := (acceptable_iff_madeFor acceptable').mp acceptable'
    exact ⟨first, nock', offered, acceptable'.carried, MadeFor.withoutNulls_iff.mp madeFor⟩
  · rintro ⟨first, nock', offered, carried, madeFor⟩
    obtain rfl := Option.some.inj (acceptable.carried.symm.trans carried)
    have acceptable' := (acceptable_iff_madeFor acceptable).mpr (MadeFor.withoutNulls_iff.mpr madeFor)
    exact ⟨first, offered, (accepted first).mpr ⟨nock, acceptable'⟩⟩

end Entries

/-! ### A payment for the second option -/

namespace Transparent

open Crypto.Transparent Facilitator.Transparent

attribute [local instance] transparent transparent_lawful plainErrors Wallet.spelledBase64
  Wallet.spelledBase64_lawful

/-- A text for one document, the payload of `original`. -/
@[reducible] def oneDocument : JsonText where
  print _ := ""
  parse _ := some (toValue original.payload)

attribute [local instance] oneDocument

def echo : RegisteredTool RecordLog where
  tool := "echo"
  description := none
  inputSchema := .object []
  transport := none
  bazaar := Advertiser.declareMcp "echo" none (.object []) none none none
  handler args log := (.ok args, log)

/-- One tool, for these options. -/
def stall (accepts : List PaymentRequirements) : McpToolRegistry RecordLog where
  resource := { url := "https://example.test/mcp" }
  accepts
  tools := [echo]
  sorted := List.pairwise_singleton _ _

def paidCall : CallRequest where
  tool := "echo"
  headers := [(paymentSignatureHeader, [])]
  args := .null

theorem stall_get (accepts : List PaymentRequirements) : (stall accepts).get paidCall.tool = some echo := rfl

theorem paidCall_payload : paidCall.payload = some original.payload := by
  have header : paidCall.payload = decodePaymentHeader (encodePaymentSignatureHeader original.payload) := rfl
  rw [header, decodePaymentHeader_encode rfl]

/-- The options of a payee that nobody pays, and of the payee of `original`. -/
def options : List PaymentRequirements := [(misdirected authorization).requirements, requirements]

theorem requirements_accept : Accepts (remoteFacilitatorVerifier facilitator 1100) ({} : RecordLog)
    original.payload requirements :=
  accepts_remote_iff.mpr original_accepted

/-- The option that `original` is made for, and one with a higher cap. -/
def lenient : List PaymentRequirements := [requirements, { requirements with maxAmountRequired := "9" }]

theorem nine_nicks : Decimal.parseU128 "9" = some 9 := by decide

/-- Both are accepted by the facilitator, so the second admits the call as well. -/
theorem any_option_usable_second :
    Accepts (remoteFacilitatorVerifier facilitator 1100) ({} : RecordLog) original.payload
      { requirements with maxAmountRequired := "9" } ∧
    Admitted (stall lenient) (remoteFacilitatorVerifier facilitator 1100) paidCall {} := by
  have acceptable : Acceptable facilitator 1100 ({} : RecordLog) { payload := original.payload, requirements }
      (payment authorization) := original_acceptable
  have accepts : Accepts (remoteFacilitatorVerifier facilitator 1100) ({} : RecordLog) original.payload
      { requirements with maxAmountRequired := "9" } := by
    refine accepts_remote_iff.mpr ((accepted_iff rfl).mpr ⟨payment authorization, ?_⟩)
    exact (acceptable_iff_madeFor acceptable).mpr
      ⟨rfl, rfl, rfl, ⟨5, 9, five_nicks, nine_nicks, by decide⟩, rfl⟩
  refine ⟨accepts, (any_option_usable_iff (stall_get lenient) paidCall_payload).mpr ?_ _ ?_ accepts⟩
  · intro offered _ _
    exact ⟨requirements, rfl, requirements_accept⟩
  · exact (advertised_iff (stall_get lenient)).mpr (List.mem_cons_of_mem _ (List.mem_singleton_self _))

/-- The second option is accepted by the facilitator, and its payment refused. -/
theorem second_option_refused : ¬ ∀ (registry : McpToolRegistry RecordLog)
    (verifier : PaymentVerifier RecordLog) (request : CallRequest) (log : RecordLog) registered payload
    requirements, registry.get request.tool = some registered → request.payload = some payload →
    Advertised registry request.tool requirements → Accepts verifier log payload requirements →
    Admitted registry verifier request log := by
  intro claim
  have admitted := claim (stall options) (remoteFacilitatorVerifier facilitator 1100) paidCall {} echo
    original.payload requirements (stall_get _) paidCall_payload
    ((advertised_iff (stall_get _)).mpr (List.mem_cons_of_mem _ (List.mem_singleton_self _)))
    requirements_accept
  obtain ⟨first, offered, accepts⟩ := (admitted_iff (stall_get _) paidCall_payload).mp admitted
  obtain rfl := Option.some.inj offered
  cases misdirected_rejected.1.symm.trans (accepts_remote_iff.mp accepts)

end Transparent

end X402Nockchain.Mcp
