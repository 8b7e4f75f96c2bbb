import X402Nockchain.Client.Flow
import X402Nockchain.Facilitator.Honest

/-! How the 402 flow ends. The client's own `/verify` consumes the nonce, so the
resource server's check of the same payment finds a replay. -/

namespace X402Nockchain.Client

open Foundation Foundation.Serde X402Types Crypto Facilitator

section Challenge

variable {Chain Cache : Type} [Vesl] [LawfulReplayCache Cache]

/-- Where the client's own check was answered as valid, so is the server's. -/
def Completes (flow : Flow Chain Cache) : Prop :=
  (∃ exchange ∈ flow.exchanges, exchange.asker = .client ∧
    ∃ resp, exchange.answer = some resp ∧ resp.valid = true) →
  ∀ exchange ∈ flow.exchanges, exchange.asker = .resourceServer →
    ∀ resp, exchange.answer = some resp → resp.valid = true

/-- The server's check of the retried request has its answer. -/
def Rechecked (flow : Flow Chain Cache) : Prop :=
  ∃ exchange ∈ flow.exchanges, exchange.asker = .resourceServer ∧
    ∃ resp, exchange.answer = some resp

/-- The replay TTL since the client's own check is not over. -/
def RetriedInTtl (parties : Parties Chain) (flow : Flow Chain Cache) : Prop :=
  ∀ exchange ∈ flow.exchanges, exchange.asker = .client →
    ∀ record, flow.facilitator.recordAt exchange.index = some record →
      flow.facilitator.clock.toNat ≤
        record.storedAt.toNat + parties.facilitator.replayTtl.asSecs.toNat

variable [JsonText] [Base64] {parties : Parties Chain} {flow final : Flow Chain Cache}

/-- Within the TTL the server's check is never answered as valid. -/
theorem not_answeredOk (tracked : Tracked parties flow) (recent : RetriedInTtl parties flow) :
    ¬ AnsweredOk flow .resourceServer := by
  rintro ⟨exchange, member, server, _, call, found, finished⟩
  have justified := tracked.exchanges exchange member
  obtain ⟨call', found', asked⟩ := justified.request
  obtain rfl := Option.some.inj (found.symm.trans found')
  obtain ⟨other, member', client, _, precedes⟩ := justified.precedes server
  obtain ⟨first, found'', asked'⟩ := (tracked.exchanges other member').request
  have same : first.request = call.request := Option.some.inj (asked'.symm.trans asked)
  exact precedes.not_accepted tracked.valid found'' found same (recent other member' client) finished

theorem not_completes (tracked : Tracked parties flow) (recent : RetriedInTtl parties flow)
    (rechecked : Rechecked flow) : ¬ Completes flow := by
  intro completes
  obtain ⟨exchange, member, server, resp, answer⟩ := rechecked
  have justified := tracked.exchanges exchange member
  obtain ⟨other, member', client, answered, _⟩ := justified.precedes server
  have valid := completes ⟨other, member', client, answered⟩ exchange member server resp answer
  obtain ⟨call, outcome, found, finished, rfl⟩ := justified.answered resp answer
  obtain rfl := verifyResponse_valid.mp valid
  exact not_answeredOk tracked recent ⟨exchange, member, server, ⟨_, answer, valid⟩, call, found, finished⟩

/-- In no order of messages does the flow complete: the server's check is never
answered as the client's was, and what the client gets is a second 402. -/
theorem never_completes [LawfulBase64] (readsBack : ReadsBack parties) (initial : flow.Initial)
    (reached : Machine.run parties.flowStep flow labels = some final)
    (recent : RetriedInTtl parties final) :
    (Rechecked final → ¬ Completes final) ∧
    ∀ req response, final.client = .finished req (.ok response) →
      response = .paymentRequired parties.server.offer := by
  have tracked := tracked_run readsBack initial reached
  refine ⟨not_completes tracked recent, fun req response fetched => ?_⟩
  obtain ⟨asked, justified⟩ := tracked.fetched req response fetched
  cases response with
  | paymentRequired body => exact congrArg Response.paymentRequired justified
  | served resource => exact absurd justified (not_answeredOk tracked recent)
  | misconfigured =>
    -- the client has found a payment option in the same offer
    obtain ⟨req, rfl⟩ := Option.ne_none_iff_exists'.mp asked
    have prepared := tracked.prepared req (by rw [fetched]; rfl)
    obtain ⟨_, offered, _⟩ := requirements_of_prepared prepared
    have empty : parties.server.offer.accepts.head? = none := justified
    rw [empty] at offered
    cases offered

/-! ### The flow with nobody else around -/

omit [LawfulReplayCache Cache] in
theorem run_facilitator [ReplayCache Cache] {flow : Flow Chain Cache} {server : Server Chain Cache}
    (reached : Machine.run (step parties.facilitator) flow.facilitator labels = some server) :
    Machine.run parties.flowStep flow (labels.map .facilitator) =
      some { flow with facilitator := server } := by
  refine Machine.run_within (fun server => { flow with facilitator := server }) FlowLabel.facilitator ?_
    reached
  intro server label next taken
  simp only [Parties.flowStep, taken, Option.map_some]

/-- A `/verify` request that is served at once is one `verify_envelope`. -/
theorem run_served (parties : Parties Chain) (flow : Flow Chain Cache) (asker : Party)
    (req : VerifyRequest) (only : flow.wire = [.verify asker req]) :
    ∃ labels call,
      (∀ record, call.record = some record → record.storedAt = flow.facilitator.clock) ∧
      Machine.run parties.flowStep flow labels = some { flow with
        facilitator := { flow.facilitator with
          cache := (verifyEnvelope parties.facilitator flow.facilitator.clock flow.facilitator.cache
            req.withoutNulls).2
          calls := flow.facilitator.calls ++ [call] }
        wire := [.verdict asker (verifyResponse (verifyEnvelope parties.facilitator
          flow.facilitator.clock flow.facilitator.cache req.withoutNulls).1)]
        exchanges := flow.exchanges ++ [{
          asker
          index := flow.facilitator.calls.length
          answer := some (verifyResponse (verifyEnvelope parties.facilitator
            flow.facilitator.clock flow.facilitator.cache req.withoutNulls).1) }] } := by
  obtain ⟨count, call, served, _, finished, stored⟩ :=
    run_alone parties.facilitator flow.facilitator req.withoutNulls
  refine ⟨.deliver 0 :: ((List.replicate count (.advance flow.facilitator.calls.length)).map .facilitator ++
    [.answer flow.exchanges.length]), call, stored, ?_⟩
  obtain ⟨arrived, taken, advanced⟩ := Machine.run_cons served
  have delivered : parties.flowStep flow (.deliver 0) = some { flow with
      facilitator := arrived
      wire := []
      exchanges := flow.exchanges ++ [{ asker, index := flow.facilitator.calls.length }] } := by
    simp [Parties.flowStep, only, Parties.receive, taken]
  have checked : Machine.run parties.flowStep { flow with
      facilitator := arrived
      wire := []
      exchanges := flow.exchanges ++ [{ asker, index := flow.facilitator.calls.length }] }
      ((List.replicate count (.advance flow.facilitator.calls.length)).map .facilitator) = _ :=
    run_facilitator advanced
  rw [Machine.run, delivered, Option.bind_some, Machine.run_append, checked, Option.bind_some]
  simp [Machine.run, Parties.flowStep, finished, Flow.send]

section Legs

variable {server : Server Chain Cache} {exchanges : List Exchange} {req : VerifyRequest}

/-- From the first request to the client's own check. -/
theorem run_challenged (offered : parties.server.offer.accepts.head? = some requirements)
    (prepared : parties.fetch.prepare (.paymentRequired parties.server.offer.withoutNulls) = .ok req) :
    Machine.run parties.flowStep { facilitator := server } [.fetch, .deliver 0, .deliver 0] = some {
      facilitator := server
      client := .verifying req
      wire := [.verify .client req] } := by
  simp [Machine.run, Parties.flowStep, Parties.receive, Flow.send, ResourceServer.receive, offered,
    Response.withoutNulls, prepared]

/-- From a valid verdict to the server's check. -/
theorem run_retried
    (checks : parties.server.receive (some (encodePaymentSignatureHeader req.payload)) = .check asked) :
    Machine.run parties.flowStep {
        facilitator := server
        client := .verifying req
        wire := [.verdict .client (verifyResponse (.ok ()))]
        exchanges }
      [.deliver 0, .deliver 0] = some {
        facilitator := server
        client := .retrying req
        wire := [.verify .resourceServer asked]
        exchanges } := by
  simp [Machine.run, Parties.flowStep, Parties.receive, Flow.send, verifyResponse, checks]

/-- From the server's verdict to what the client gets. -/
theorem run_refused (error : Facilitator.VerifyError) :
    Machine.run parties.flowStep {
        facilitator := server
        client := .retrying req
        wire := [.verdict .resourceServer (verifyResponse (.error error))]
        exchanges }
      [.deliver 0, .deliver 0] = some {
        facilitator := server
        client := .finished (some req) (.ok (.paymentRequired parties.server.offer))
        exchanges } := by
  simp [Machine.run, Parties.flowStep, Parties.receive, Flow.send, verifyResponse,
    ResourceServer.conclude_eq]

end Legs

/-- Whenever the facilitator would accept the payment, the flow runs to its second 402. -/
theorem undisturbed_flow [LawfulBase64] (readsBack : ReadsBack parties) (initial : flow.Initial)
    (prepared : parties.fetch.prepare (.paymentRequired parties.server.offer.withoutNulls) = .ok req)
    (accepted : (verifyEnvelope parties.facilitator flow.facilitator.clock flow.facilitator.cache req).1 =
      .ok ()) :
    ∃ labels final, Machine.run parties.flowStep flow labels = some final ∧
      RetriedInTtl parties final ∧ Rechecked final ∧
      final.facilitator.clock = flow.facilitator.clock ∧
      final.client = .finished (some req) (.ok (.paymentRequired parties.server.offer)) := by
  obtain ⟨⟨clock, cache, calls⟩, client, wire, exchanges⟩ := flow
  obtain ⟨idle, start, quiet, unasked⟩ := initial
  obtain rfl : calls = [] := idle
  obtain rfl : client = .start := start
  obtain rfl : wire = [] := quiet
  obtain rfl : exchanges = [] := unasked
  obtain ⟨requirements, offered, read⟩ := requirements_of_prepared prepared
  obtain ⟨nonce, again⟩ := verifyEnvelope_again accepted
  have checks : parties.server.receive (some (encodePaymentSignatureHeader req.payload)) =
      .check { payload := req.payload, requirements } := by
    simp [ResourceServer.receive, offered, decodePaymentHeader_encode (readsBack req prepared)]
  have own : req.withoutNulls = req := withoutNulls_of_prepared prepared
  have servers : VerifyRequest.withoutNulls { payload := req.payload, requirements } = req := by
    rw [VerifyRequest.withoutNulls, ← read]
  -- the client's own check, then the server's, each served at once
  obtain ⟨labels, call, stored, first⟩ := run_served parties {
    facilitator := ⟨clock, cache, []⟩
    client := .verifying req
    wire := [.verify .client req] } .client req rfl
  simp only [own, accepted, List.nil_append, List.length_nil] at first
  let asked : Exchange := ⟨.client, 0, some (verifyResponse (.ok ()))⟩
  obtain ⟨labels', call', _, checked⟩ := run_served parties {
    facilitator := ⟨clock, (verifyEnvelope parties.facilitator clock cache req).2, [call]⟩
    client := .retrying req
    wire := [.verify .resourceServer { payload := req.payload, requirements }]
    exchanges := [asked] } .resourceServer { payload := req.payload, requirements } rfl
  simp only [servers, again, List.cons_append, List.nil_append, List.length_cons, List.length_nil] at checked
  let final : Flow Chain Cache := {
    facilitator := ⟨clock, (verifyEnvelope parties.facilitator clock
      (verifyEnvelope parties.facilitator clock cache req).2 req).2, [call, call']⟩
    client := .finished (some req) (.ok (.paymentRequired parties.server.offer))
    exchanges := [asked, ⟨.resourceServer, 1, some (verifyResponse (.error (.nonceReplayed nonce)))⟩] }
  refine ⟨[.fetch, .deliver 0, .deliver 0] ++ (labels ++ ([.deliver 0, .deliver 0] ++
    (labels' ++ [.deliver 0, .deliver 0]))), final, ?_, ?_, ?_, rfl, rfl⟩
  · rw [Machine.run_append, run_challenged offered prepared, Option.bind_some, Machine.run_append,
      first, Option.bind_some, Machine.run_append, run_retried checks, Option.bind_some,
      Machine.run_append, checked, Option.bind_some]
    exact run_refused (.nonceReplayed nonce)
  · intro exchange member asker record found
    simp only [final, List.mem_cons, List.not_mem_nil, or_false] at member
    obtain rfl | rfl := member
    · have time : record.storedAt = clock := stored record found
      rw [time]
      exact Nat.le_add_right _ _
    · cases asker
  · exact ⟨_, List.mem_cons_of_mem _ List.mem_cons_self, rfl, _, rfl⟩

end Challenge

/-! ### A client with a real key -/

/-- Its payloads for the native asset are honest payments. -/
theorem honest_of_built [Vesl] {signer : NockchainSigner} {requirements : PaymentRequirements}
    (built : buildExactNockchainPayload requirements (ofNockchain signer) echoExtensions now drawn =
      .ok payload)
    (scheme : requirements.scheme = "exact")
    (network : startsWith requirements.network "nockchain:" = true)
    (native : requirements.asset = nockchainNativeAsset)
    (amount : Decimal.parseU128 requirements.maxAmountRequired = some value) :
    ∃ nock, Honest signer nock { payload, requirements } ∧
      nock.authorization = drawn.authorization requirements signer.fromIdentifier now := by
  obtain ⟨signature, signed, rfl⟩ := buildExactNockchainPayload_ok_iff.mp built
  exact ⟨{ signature, authorization := drawn.authorization requirements signer.fromIdentifier now }, {
    version := rfl
    scheme := scheme
    offered := scheme
    network := rfl
    nockchain := network
    carried := fromValue_toValue _
    own := rfl
    signed := ⟨requirements, signed⟩
    recipient := rfl
    capped := ⟨value, value, amount, amount, Nat.le_refl _⟩
    native := native }, rfl⟩

namespace Transparent

open Crypto.Transparent Facilitator.Transparent

attribute [local instance] transparent transparent_lawful plainErrors Wallet.spelledBase64
  Wallet.spelledBase64_lawful

def drawn : Draws := { nonce := .replicate 32 1, first := .replicate 32 2, last := .replicate 32 3 }

def purchase : Authorization := drawn.authorization requirements payer.fromIdentifier 1000

def purchaseRequest : VerifyRequest where
  payload := payloadFor requirements (payment purchase) none
  requirements

/-- Compact text, read back for `purchaseRequest`. -/
@[reducible] def text : JsonText where
  print := compact
  parse text := [toValue purchaseRequest.payload].find? fun value => compact value = text

attribute [local instance] text

def parties : Parties Unit where
  facilitator := facilitator
  server := {
    offer := {
      x402Version := 2
      error := "Payment required"
      resource := { url := "https://example.test/weather" }
      accepts := [requirements] }
    resource := .string "sunny" }
  fetch := { signer := ofNockchain payer, now := 1000, drawn }

def beginning : Flow Unit RecordLog := { facilitator := { clock := 1000, cache := {} } }

theorem beginning_initial : beginning.Initial := ⟨rfl, rfl, rfl, rfl⟩

theorem purchase_signable : Signable purchase where
  sender := payer.spells_fromIdentifier
  recipient := authorization_signable.recipient
  value := authorization_signable.value
  fee := ⟨0, Decimal.parseU64_zero⟩
  nonce := spells_random _
  notes := by
    intro note member
    obtain rfl := List.mem_singleton.mp member
    exact ⟨spells_random _, spells_random _⟩
  changeAddress := payer.spells_fromIdentifier

theorem payment_parts (auth : Authorization) :
    { signature := (payment auth).signature, authorization := auth } = payment auth := rfl

theorem purchase_built : buildExactNockchainPayload requirements (ofNockchain payer) none 1000 drawn =
    .ok purchaseRequest.payload := by
  have own : drawn.authorization requirements (ofNockchain payer).fromIdentifier 1000 = purchase := rfl
  refine buildExactNockchainPayload_ok_iff.mpr ⟨(payment purchase).signature, ?_, ?_⟩ <;> rw [own]
  · exact payment_signed purchase_signable none
  · rw [payment_parts, purchaseRequest]

theorem purchase_prepared :
    parties.fetch.prepare (.paymentRequired parties.server.offer.withoutNulls) = .ok purchaseRequest :=
  Fetch.prepare_ok_iff.mpr ⟨_, rfl, rfl, purchase_built⟩

theorem purchase_readsBack : ReadsBack parties := by
  intro req' prepared'
  obtain rfl := Except.ok.inj (purchase_prepared.symm.trans prepared')
  simp [JsonText.parse, JsonText.print]

theorem purchase_accepted : (verifyEnvelope parties.facilitator 1000
    beginning.facilitator.cache purchaseRequest).1 = .ok () := by
  obtain ⟨nock, honest, same⟩ := honest_of_built purchase_built rfl
    fakenet_nockchain rfl five_nicks
  refine (honest.accepted_iff rfl).mpr ⟨?_, empty_fresh _ _ _⟩
  rw [same, checkTimeWindow_ok_iff]
  decide

/-- The flow from start to end, with nobody else around. -/
theorem never_completes_alone : ∃ labels final,
    Machine.run parties.flowStep beginning labels = some final ∧ Rechecked final ∧ ¬ Completes final := by
  obtain ⟨labels, final, reached, recent, rechecked, _⟩ :=
    undisturbed_flow purchase_readsBack beginning_initial purchase_prepared purchase_accepted
  have never := never_completes purchase_readsBack beginning_initial reached recent
  exact ⟨labels, final, reached, rechecked, never.1 rechecked⟩

/-- An honest client pays, and is asked to pay again. -/
theorem honest_client_gets_second_402 : ∃ labels final,
    Machine.run parties.flowStep beginning labels = some final ∧
    checkTimeWindow parties.facilitator final.facilitator.clock purchase = .ok () ∧
    RetriedInTtl parties final ∧ ¬ Completes final ∧
    final.client = .finished (some purchaseRequest) (.ok (.paymentRequired parties.server.offer)) := by
  obtain ⟨labels, final, reached, recent, rechecked, clock, fetched⟩ :=
    undisturbed_flow purchase_readsBack beginning_initial purchase_prepared purchase_accepted
  have tracked := tracked_run purchase_readsBack beginning_initial reached
  refine ⟨labels, final, reached, ?_, recent, not_completes tracked recent rechecked, fetched⟩
  rw [clock, checkTimeWindow_ok_iff]
  decide

end Transparent

end X402Nockchain.Client
