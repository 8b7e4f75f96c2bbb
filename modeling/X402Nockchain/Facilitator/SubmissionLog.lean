import X402Nockchain.Client.Builder
import X402Nockchain.Facilitator.Handlers
import X402Nockchain.Facilitator.SettlementBinding

/-! What the node behind `GrpcChainClient` is handed while the handlers run concurrently. -/

namespace X402Nockchain.Facilitator

open Foundation Foundation.Serde X402Types Crypto Wallet
open Storage (CatalogStore InMemoryCatalogStore)

variable {Chain Cache Store : Type}

/-- The node, and how `/settle` answers for it. -/
def nodeOf [Nockchain] (inner : NockChainClient Chain) : Component Chain (RawTx × String) SettleResponse :=
  fun chain (raw, txId) => submittedAnswer txId (inner.submitAndWait chain raw txId)

section Submissions

variable [Vesl] [ErrorText] [Nockchain] [Base64] {state : AppState Chain} {inner : NockChainClient Chain}
  {req : SettleRequest}

/-- The transaction that a settlement hands to the node. -/
def handedOver (state : AppState Chain) (req : SettleRequest) : Option (RawTx × String) :=
  (state.schemeRegistry.handlerFor req.requirements.scheme req.requirements.network).bind fun _ =>
    (submission req).toOption

omit [Vesl] in
theorem handedOver_eq_some : handedOver state req = some call ↔
    (∃ handler, state.schemeRegistry.handlerFor req.requirements.scheme req.requirements.network = some handler) ∧
      submission req = .ok call := by
  rw [handedOver, Option.bind_eq_some_iff]
  cases submission req <;> simp [Except.toOption]

/-- A settlement with a transaction is answered by the node. -/
theorem submit_made (schemes : state.schemeRegistry = .withDefaultHandlers)
    (client : state.chain = grpcChainClient inner) (chain : Chain) (made : handedOver state req = some call) :
    submit state chain req = nodeOf inner chain call := by
  obtain ⟨⟨handler, found⟩, submitted⟩ := handedOver_eq_some.mp made
  obtain ⟨_, _, settles⟩ := shared_methods (schemes ▸ found)
  obtain ⟨raw, txId⟩ := call
  simp only [submit, found, settles, client, grpcChainClient, submitted, nodeOf]
  rcases inner.submitAndWait chain raw txId with ⟨e | accepted, after⟩ <;> rfl

/-- One without a transaction fails and leaves the node alone. -/
theorem submit_failed (schemes : state.schemeRegistry = .withDefaultHandlers)
    (client : state.chain = grpcChainClient inner)
    (found : state.schemeRegistry.handlerFor req.requirements.scheme req.requirements.network = some handler)
    (failed : submission req = .error error) (chain : Chain) :
    submit state chain req = (failure (chainErrorToFacilitator error), chain) := by
  obtain ⟨_, _, settles⟩ := shared_methods (schemes ▸ found)
  simp only [submit, found, settles, client, grpcChainClient, failed, chainAnswer]

theorem submit_kept (schemes : state.schemeRegistry = .withDefaultHandlers)
    (client : state.chain = grpcChainClient inner) (chain : Chain) (nothing : handedOver state req = none) :
    (submit state chain req).2 = chain := by
  cases found : state.schemeRegistry.handlerFor req.requirements.scheme req.requirements.network with
  | none => simp only [submit, found]
  | some handler =>
    cases submitted : submission req with
    | error error => rw [submit_failed schemes client found submitted]
    | ok call =>
      rw [handedOver_eq_some.mpr ⟨⟨handler, found⟩, submitted⟩] at nothing
      cases nothing

omit [Vesl] in
/-- A payment that is an envelope alone has no transaction for the node. -/
theorem submission_envelope {signer : Client.Signer} {drawn : Client.Draws}
    (built : Client.buildExactNockchainPayload requirements signer echoExtensions now drawn = .ok req.payload) :
    ∃ message, submission req = .error (.txConstructionUnavailable message) := by
  obtain ⟨signature, _, same⟩ := Client.buildExactNockchainPayload_ok_iff.mp built
  let envelope : ExactNockchainPayload := {
    signature
    authorization := drawn.authorization requirements signer.fromIdentifier now }
  have absent : req.payload.payload.get "signedRawTx" = none := by
    rw [same]
    change (present (Struct.fields envelope)).lookup "signedRawTx" = none
    rw [lookup_present (by simp [Struct.fields])]
    simp [Struct.fields, List.lookup_cons, envelope, skipNone]
  simp only [submission, extractSignedRawTx, absent]
  exact ⟨_, rfl⟩

end Submissions

section Logs

variable [Vesl] [ErrorText] [JsonSchema] [Nockchain] [Base64] [LawfulReplayCache Cache] [CatalogStore Store]
  {state : AppState Chain} {inner : NockChainClient Chain} {start final : Facility Chain Cache Store}

/-- A log of the node: the calls that lead from its start to its end, one for each handler
that had a transaction to hand over, which its request carried beside a verified envelope. -/
structure SubmissionLog (state : AppState Chain) (inner : NockChainClient Chain)
    (start final : Facility Chain Cache Store) (log : List (Commit Nat (RawTx × String) SettleResponse)) : Prop where
  sequential : (nodeOf inner).Explains start.chain log final.chain
  once : (log.map Commit.caller).Nodup
  authorized : ∀ commit ∈ log, ∃ req lastUpdated outcome nock,
    final.tasks[commit.caller]? = some (.settle req (.submitted lastUpdated outcome commit.answer)) ∧
    Relays req nock commit.call.1 commit.call.2 ∧ Admissible nock req.requirements ∧
    ∃ now ≤ final.server.clock, checkTimeWindow state now nock.authorization = .ok ()
  told : ∀ index req lastUpdated outcome body,
    final.tasks[index]? = some (.settle req (.submitted lastUpdated outcome body)) →
    match submission req with
    | .ok call => ⟨index, call, body⟩ ∈ log
    | .error error => body = failure (chainErrorToFacilitator error) ∧ index ∉ log.map Commit.caller

omit [JsonSchema] [Nockchain] [Base64] [CatalogStore Store] in
/-- A handler that has come to its settlement had its request verified. -/
theorem passed_of_submitted {req : SettleRequest} {index : Nat}
    (schemes : state.schemeRegistry = .withDefaultHandlers) (inStep : InStep state final)
    (found : final.tasks[index]? = some (.settle req (.submitted lastUpdated outcome body))) :
    (∃ handler, state.schemeRegistry.handlerFor req.requirements.scheme req.requirements.network = some handler) ∧
    ∃ nock, fromValue req.payload.payload = some nock ∧ Admissible nock req.requirements ∧
      ∃ now ≤ final.server.clock, checkTimeWindow state now nock.authorization = .ok () := by
  obtain ⟨now, past, checked⟩ := inStep.follows _ (List.mem_of_getElem? found)
  obtain ⟨nock, carried, admissible, ⟨handler, dispatched⟩, window⟩ :=
    verifyEnvelopeForSettle_ok schemes (checked final.server.cache)
  obtain ⟨_, _, _, registered, _⟩ := preDispatch_ok_iff.mp dispatched
  exact ⟨⟨handler, registered⟩, nock, carried, admissible, now, past, window⟩

omit [Vesl] [ErrorText] [JsonSchema] [Nockchain] [Base64] in
theorem submitted_iff {task : Task} : task.submitted = some (req, body) ↔
    ∃ lastUpdated outcome, task = .settle req (.submitted lastUpdated outcome body) := by
  constructor
  · intro has
    cases task with
    | settle req stage =>
      cases stage with
      | submitted lastUpdated outcome body =>
        cases has
        exact ⟨lastUpdated, outcome, rfl⟩
      | arrived | refused | passed | cataloged => cases has
    | verify | list => cases has
  · rintro ⟨lastUpdated, outcome, rfl⟩
    rfl

/-- The log of a run. -/
def nodeLog (state : AppState Chain) (start : Facility Chain Cache Store) (labels : List Event) :
    List (Commit Nat (RawTx × String) SettleResponse) :=
  hostedCalls (handedOver state) (historiesOf state start labels).settlements

theorem submissionLog_run [JsonText] (schemes : state.schemeRegistry = .withDefaultHandlers)
    (client : state.chain = grpcChainClient inner) (idle : start.Idle)
    (reached : Machine.run (work state) start labels = some final) :
    SubmissionLog state inner start final (nodeLog state start labels) := by
  have serializes := serializes_run idle reached
  have told := serializes.submitted
  refine ⟨?_, (callers_hostedCalls _ _).nodup told.once, ?_, ?_⟩
  · exact serializes.settled.hosted (fun chain _ => submit_kept schemes client chain)
      fun chain _ _ => submit_made schemes client chain
  · intro commit member
    obtain ⟨req, made, present⟩ := mem_hostedCalls.mp member
    obtain ⟨task, found, has⟩ := Option.bind_eq_some_iff.mp (told.committed _ present)
    obtain ⟨lastUpdated, outcome, rfl⟩ := submitted_iff.mp has
    obtain ⟨_, nock, carried, admissible, window⟩ := passed_of_submitted schemes serializes.inStep found
    obtain ⟨signed, extracted, decoded, same⟩ := submission_ok_iff.mp (handedOver_eq_some.mp made).2
    have own := extractSignedRawTx_ok extracted carried
    exact ⟨req, lastUpdated, outcome, nock, found, ⟨carried, signed, own, decoded, same⟩, admissible, window⟩
  · intro index req lastUpdated outcome body found
    have present : ⟨index, req, body⟩ ∈ (historiesOf state start labels).settlements :=
      told.present (by rw [Resource.hadBy, found]; rfl)
    obtain ⟨⟨handler, registered⟩, _⟩ := passed_of_submitted schemes serializes.inStep found
    cases submitted : submission req with
    | ok call =>
      have made : handedOver state req = some call :=
        handedOver_eq_some.mpr ⟨⟨handler, registered⟩, submitted⟩
      exact mem_hostedCalls.mpr ⟨req, made, present⟩
    | error error =>
      constructor
      · obtain ⟨before, after, split⟩ := List.append_of_mem present
        have explains := serializes.settled
        rw [split] at explains
        have answer := explains.answer
        rw [submit_failed schemes client registered submitted] at answer
        exact answer
      · intro inside
        obtain ⟨commit, member, rfl⟩ := List.mem_map.mp inside
        obtain ⟨req', made, present'⟩ := mem_hostedCalls.mp member
        have first := told.committed _ present
        have second := told.committed _ present'
        obtain rfl : req = req' := congrArg Prod.fst (Option.some.inj (first.symm.trans second))
        rw [(handedOver_eq_some.mp made).2] at submitted
        cases submitted

/-- In whatever order the handlers go on, the node is handed the transactions of the
settlements one after another, each once: it is the one that the handler's request carries
beside a verified envelope, and the handler answers what the node did with it. A
settlement that was over before another handler started comes first, and a payment
without a transaction gets nowhere near the node. -/
theorem submissions_serialize [JsonText] (schemes : state.schemeRegistry = .withDefaultHandlers)
    (client : state.chain = grpcChainClient inner) (idle : start.Idle)
    (reached : Machine.run (work state) start labels = some final) :
    ∃ log, SubmissionLog state inner start final log ∧
      (∀ front back middle, labels = front ++ back → Machine.run (work state) start front = some middle →
        ∀ i j req lastUpdated outcome body call, submission req = .ok call →
          middle.tasks[i]? = some (.settle req (.submitted lastUpdated outcome body)) → middle.tasks.length ≤ j →
            Machine.Precedes log ⟨i, call, body⟩ j) ∧
      ∀ index req lastUpdated outcome body,
        final.tasks[index]? = some (.settle req (.submitted lastUpdated outcome body)) →
        ∀ requirements signer echoExtensions now drawn,
          Client.buildExactNockchainPayload requirements signer echoExtensions now drawn = .ok req.payload →
          index ∉ log.map Commit.caller ∧
            ∃ message, body = failure { code := "chain_unimplemented", message } := by
  have logged := submissionLog_run schemes client idle reached
  refine ⟨_, logged, ?_, ?_⟩
  · rintro front back middle rfl passing i j req lastUpdated outcome body call submitted found absent
    obtain ⟨registered, _⟩ := passed_of_submitted schemes (inStep_run idle passing) found
    have precedes := (precedes_run idle passing back found absent).2 req body rfl
    exact precedes.hosted (handedOver_eq_some.mpr ⟨registered, submitted⟩)
  · intro index req lastUpdated outcome body found requirements signer echoExtensions now drawn built
    obtain ⟨message, missing⟩ := submission_envelope built
    have told := logged.told index req lastUpdated outcome body found
    rw [missing] at told
    exact ⟨told.2, message, told.1⟩

end Logs

/-! ### A payment of the stand-in's wallet -/

namespace Transparent

open Crypto.Transparent Wallet.Transparent

attribute [local instance] transparent transparent_lawful plainErrors plainSchemas plainText transparentChain
  transparentChain_lawful spelledBase64 spelledBase64_lawful spelledSeeds

def idleNode : Facility (List String) RecordLog InMemoryCatalogStore where
  server := { clock := 1000, cache := {} }
  chain := []
  catalog := .new

def relayed : List Event :=
  [.settle (carrying spending), .advance 0 "now", .advance 0 "now", .advance 0 "now"]

theorem relayed_reached (submitted : submission (carrying spending) = .ok (raw, txId)) :
    ∃ final, Machine.run (work chainFacilitator) idleNode relayed = some final ∧
      final.tasks = [.settle (carrying spending) (.submitted "now" none (settled txId true))] := by
  have verified : (verifyEnvelopeForSettle chainFacilitator 1000 ({} : RecordLog) (carrying spending)).1 = .ok () :=
    carrying_verified spending
  have unread (catalog : InMemoryCatalogStore) : process catalog "now" (carrying spending) = (none, catalog) := rfl
  have found : chainFacilitator.schemeRegistry.handlerFor (carrying spending).requirements.scheme
      (carrying spending).requirements.network = some exactNockchainHandler := handlerFor_exact fakenet_nockchain
  have submits : submit chainFacilitator [] (carrying spending) = (settled txId true, [txId]) := by
    rw [submit_made rfl chainFacilitator_chain [] (handedOver_eq_some.mpr ⟨⟨_, found⟩, submitted⟩)]
    rfl
  refine ⟨{ idleNode with
    chain := [txId]
    tasks := [.settle (carrying spending) (.submitted "now" none (settled txId true))] }, ?_, rfl⟩
  simp [Machine.run, relayed, work, idleNode, advanceTask, verified, unread, submits]

theorem submissions_serialize_wallet : ∃ final log raw,
    Machine.run (work chainFacilitator) idleNode relayed = some final ∧
    SubmissionLog chainFacilitator ledger idleNode final log ∧
    ⟨0, (raw, (walletPayment spending).signedRawTx.txId),
      settled (walletPayment spending).signedRawTx.txId true⟩ ∈ log := by
  obtain ⟨raw, submitted⟩ := spending_submitted
  obtain ⟨final, reached, tasks⟩ := relayed_reached submitted
  have idle : idleNode.Idle := ⟨rfl, rfl⟩
  obtain ⟨log, logged, _⟩ := submissions_serialize rfl chainFacilitator_chain idle reached
  have told := logged.told 0 (carrying spending) "now" none _ (by rw [tasks]; rfl)
  rw [submitted] at told
  exact ⟨final, log, raw, reached, logged, told⟩

end Transparent

end X402Nockchain.Facilitator
