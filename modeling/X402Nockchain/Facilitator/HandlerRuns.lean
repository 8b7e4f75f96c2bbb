import X402Nockchain.Facilitator.Handlers

/-! A router that serves one request at a time is one of the runs of the handlers. -/

namespace X402Nockchain.Facilitator

open Foundation Foundation.Serde X402Types Crypto
open Storage (CatalogStore)

variable {Chain Cache Store : Type}

/-! ### One request after another -/

/-- What the facilitator has beside its handlers. -/
def Facility.service (facility : Facility Chain Cache Store) : Service Chain Cache Store where
  cache := facility.server.cache
  chain := facility.chain
  catalog := facility.catalog

/-- The clock readings of a sequence of requests never go back. -/
def InOrder (clock : UInt64) : List Incoming → Prop
  | [] => True
  | .pay arrival :: rest => clock ≤ arrival.now ∧ InOrder arrival.now rest
  | .list _ :: rest => InOrder clock rest

section Alone

variable [Vesl] [ErrorText] [JsonSchema] [JsonText] [Base64] [LawfulReplayCache Cache] [CatalogStore Store]
  {state : AppState Chain} {facility : Facility Chain Cache Store}

omit [JsonText] [Base64] in
theorem work_checks (facility : Facility Chain Cache Store) (call : Nat)
    (reached : Machine.run (step state) facility.server (List.replicate count (.advance call)) = some server) :
    Machine.run (work state) facility (List.replicate count (.check call)) = some { facility with server } := by
  induction count generalizing facility with
  | zero =>
    obtain rfl := Option.some.inj reached
    rfl
  | succ count ih =>
    obtain ⟨middle, taken, later⟩ := Machine.run_cons reached
    have checked : work state facility (.check call) = some { facility with server := middle } :=
      Option.map_eq_some_iff.mpr ⟨middle, taken, rfl⟩
    rw [List.replicate_succ, Machine.run, checked, Option.bind_some]
    exact ih { facility with server := middle } later

omit [JsonText] [Base64] in
/-- The last handler goes on. -/
theorem work_last (shape : facility.tasks = front ++ [task])
    (taken : advanceTask state facility lastUpdated task = some (task', chain, catalog)) :
    work state facility (.advance front.length lastUpdated) =
      some { facility with chain, catalog, tasks := front ++ [task'] } := by
  simp [work, shape, taken]

/-- A run of the handlers that serves one request as the router does. -/
structure ServesAlone (state : AppState Chain) (facility : Facility Chain Cache Store) (incoming : Incoming)
    (labels : List Event) (final : Facility Chain Cache Store) : Prop where
  reached : Machine.run (work state) facility labels = some final
  service : final.service = (router state facility.service incoming).2
  answered : ∃ task, final.tasks = facility.tasks ++ [task] ∧
    task.answer = some (router state facility.service incoming).1
  clock : final.server.clock = match incoming with
    | .pay arrival => arrival.now
    | .list _ => facility.server.clock

theorem verify_alone (state : AppState Chain) (facility : Facility Chain Cache Store) {now : UInt64}
    (order : facility.server.clock ≤ now) (lastUpdated : String) (req : VerifyRequest) :
    ∃ labels final, ServesAlone state facility (.pay ⟨.verify, now, lastUpdated, req⟩) labels final := by
  let timed : Facility Chain Cache Store := { facility with server := { facility.server with clock := now } }
  have ticked : work state facility (.tick now) = some timed :=
    Option.map_eq_some_iff.mpr ⟨{ facility.server with clock := now }, if_pos order, rfl⟩
  obtain ⟨count, call, served, _, outcome, _⟩ := run_alone state timed.server req
  obtain ⟨arrived, arrives, later⟩ := Machine.run_cons served
  let waiting : Task := .verify req timed.server.calls.length .checking
  let started : Facility Chain Cache Store := { timed with
    server := arrived
    tasks := facility.tasks ++ [waiting] }
  have starts : work state timed (.verify req) = some started := by
    rw [work, arrives]
    rfl
  let checked : Facility Chain Cache Store := { started with server := { timed.server with
    cache := (verifyEnvelope state now facility.server.cache req).2
    calls := timed.server.calls ++ [call] } }
  have checks : Machine.run (work state) started (List.replicate count (.check timed.server.calls.length)) =
      some checked := work_checks started timed.server.calls.length later
  have told : checked.server.calls[timed.server.calls.length]?.bind Call.outcome =
      some (verifyEnvelope state now facility.server.cache req).1 := by
    rw [List.getElem?_concat_length, Option.bind_some]
    exact outcome
  -- the handler goes on once its checks are over
  suffices ∃ final, work state checked (.advance facility.tasks.length lastUpdated) = some final ∧
      final.service = (router state facility.service (.pay ⟨.verify, now, lastUpdated, req⟩)).2 ∧
      (∃ task, final.tasks = facility.tasks ++ [task] ∧
        task.answer = some (router state facility.service (.pay ⟨.verify, now, lastUpdated, req⟩)).1) ∧
      final.server.clock = now by
    obtain ⟨final, last, service, answered, clock⟩ := this
    refine ⟨.tick now :: .verify req :: (List.replicate count (.check timed.server.calls.length) ++
      [.advance facility.tasks.length lastUpdated]), final, ?_, service, answered, clock⟩
    rw [Machine.run_step ticked, Machine.run_step starts, Machine.run_append, checks, Option.bind_some,
      Machine.run_step last]
    rfl
  have served : (router state facility.service (.pay ⟨.verify, now, lastUpdated, req⟩)) =
      (.paid (.verified (verifyHandler state now lastUpdated facility.service req).1.1
        (verifyHandler state now lastUpdated facility.service req).1.2),
        (verifyHandler state now lastUpdated facility.service req).2) := rfl
  rw [served, verifyHandler_eq]
  have cache : facility.service.cache = facility.server.cache := rfl
  cases verdict : (verifyEnvelope state now facility.server.cache req).1 with
  | error error =>
    rw [verdict] at told
    have taken : advanceTask state checked lastUpdated waiting =
        some (.verify req timed.server.calls.length (.refused error), facility.chain, facility.catalog) := by
      simp only [advanceTask, waiting, told]
      rfl
    refine ⟨_, work_last rfl taken, ?_, ⟨_, rfl, ?_⟩, rfl⟩
    · simp only [cache, verdict]
      rfl
    · simp only [cache, verdict]
      rfl
  | ok done =>
    rw [verdict] at told
    have taken : advanceTask state checked lastUpdated waiting =
        some (.verify req timed.server.calls.length
          (.cataloged lastUpdated (process facility.catalog lastUpdated req).1), facility.chain,
          (process facility.catalog lastUpdated req).2) := by
      simp only [advanceTask, waiting, told]
      rfl
    refine ⟨_, work_last rfl taken, ?_, ⟨_, rfl, ?_⟩, rfl⟩
    · simp only [cache, verdict]
      rfl
    · simp only [cache, verdict]
      rfl

theorem settle_alone (state : AppState Chain) (facility : Facility Chain Cache Store) {now : UInt64}
    (order : facility.server.clock ≤ now) (lastUpdated : String) (req : SettleRequest) :
    ∃ labels final, ServesAlone state facility (.pay ⟨.settle, now, lastUpdated, req⟩) labels final := by
  let timed : Facility Chain Cache Store := { facility with server := { facility.server with clock := now } }
  have ticked : work state facility (.tick now) = some timed :=
    Option.map_eq_some_iff.mpr ⟨{ facility.server with clock := now }, if_pos order, rfl⟩
  let started : Facility Chain Cache Store := { timed with tasks := facility.tasks ++ [.settle req .arrived] }
  have starts : work state timed (.settle req) = some started := rfl
  have served : (router state facility.service (.pay ⟨.settle, now, lastUpdated, req⟩)) =
      (.paid (.settled (settleHandler state now lastUpdated facility.service req).1.1
        (settleHandler state now lastUpdated facility.service req).1.2),
        (settleHandler state now lastUpdated facility.service req).2) := rfl
  have cache : facility.service.cache = facility.server.cache := rfl
  cases verdict : (verifyEnvelopeForSettle state now facility.server.cache req).1 with
  | error error =>
    have taken : advanceTask state started lastUpdated (.settle req .arrived) =
        some (.settle req (.refused error), facility.chain, facility.catalog) := by
      have checked : (verifyEnvelopeForSettle state started.server.clock started.server.cache req).1 =
        .error error := verdict
      simp only [advanceTask, checked]
      rfl
    let refused : Facility Chain Cache Store := { timed with tasks := facility.tasks ++ [.settle req (.refused error)] }
    have last : work state started (.advance facility.tasks.length lastUpdated) = some refused := work_last rfl taken
    refine ⟨[.tick now, .settle req, .advance facility.tasks.length lastUpdated], refused, ?_, ?_, ⟨_, rfl, ?_⟩, rfl⟩
    · rw [Machine.run_step ticked, Machine.run_step starts, Machine.run_step last]
      rfl
    · rw [served, settleHandler_eq]
      simp only [cache, verdict]
      rfl
    · rw [served, settleHandler_eq]
      simp only [cache, verdict, settleBody]
      rfl
  | ok done =>
    let advanced (stage : SettleStage) (chain : Chain) (catalog : Store) : Facility Chain Cache Store :=
      { timed with chain, catalog, tasks := facility.tasks ++ [.settle req stage] }
    let outcome := (process facility.catalog lastUpdated req).1
    let catalog := (process facility.catalog lastUpdated req).2
    let body := submit state facility.chain req
    have passed : work state started (.advance facility.tasks.length lastUpdated) =
        some (advanced .passed facility.chain facility.catalog) := by
      have checked : (verifyEnvelopeForSettle state started.server.clock started.server.cache req).1 = .ok () := verdict
      exact work_last rfl (by simp only [advanceTask, checked]; rfl)
    have cataloged : work state (advanced .passed facility.chain facility.catalog)
        (.advance facility.tasks.length lastUpdated) =
          some (advanced (.cataloged lastUpdated outcome) facility.chain catalog) := work_last rfl rfl
    have submitted : work state (advanced (.cataloged lastUpdated outcome) facility.chain catalog)
        (.advance facility.tasks.length lastUpdated) =
          some (advanced (.submitted lastUpdated outcome body.1) body.2 catalog) := work_last rfl rfl
    have settled : settleBody state now facility.server.cache facility.service.chain req = body := by
      simp only [settleBody, verdict]
      rfl
    refine ⟨.tick now :: .settle req :: List.replicate 3 (.advance facility.tasks.length lastUpdated),
      advanced (.submitted lastUpdated outcome body.1) body.2 catalog, ?_, ?_, ⟨_, rfl, ?_⟩, rfl⟩
    · rw [Machine.run_step ticked, Machine.run_step starts, List.replicate, Machine.run_step passed, List.replicate,
        Machine.run_step cataloged, List.replicate, Machine.run_step submitted]
      rfl
    · rw [served, settleHandler_eq]
      simp only [cache, verdict, settled]
      rfl
    · rw [served, settleHandler_eq]
      simp only [cache, verdict, settled]
      rfl

theorem list_alone (state : AppState Chain) (facility : Facility Chain Cache Store) (params : ListParams) :
    ∃ labels final, ServesAlone state facility (.list params) labels final := by
  let listed : Facility Chain Cache Store := { facility with
    tasks := facility.tasks ++ [.list params (some (listResources facility.catalog params))] }
  have last : work state { facility with tasks := facility.tasks ++ [.list params none] }
      (.advance facility.tasks.length "") = some listed := work_last rfl rfl
  refine ⟨[.list params, .advance facility.tasks.length ""], listed, ?_, rfl, ⟨_, rfl, rfl⟩, rfl⟩
  have starts : work state facility (.list params) =
      some { facility with tasks := facility.tasks ++ [.list params none] } := rfl
  rw [Machine.run_step starts, Machine.run_step last]
  rfl

/-- Every sequence of requests to the router is a run of the handlers, with its answers. -/
theorem router_works (state : AppState Chain) (facility : Facility Chain Cache Store) (requests : List Incoming)
    (inOrder : InOrder facility.server.clock requests) :
    ∃ labels final, Machine.run (work state) facility labels = some final ∧
      final.service = (router state).after facility.service requests ∧
      final.tasks.map Task.answer =
        facility.tasks.map Task.answer ++ ((router state).answers facility.service requests).map some := by
  induction requests generalizing facility with
  | nil => exact ⟨[], facility, rfl, rfl, (List.append_nil _).symm⟩
  | cons incoming rest ih =>
    obtain ⟨labels, middle, alone⟩ : ∃ labels middle, ServesAlone state facility incoming labels middle := by
      cases incoming with
      | list params => exact list_alone state facility params
      | pay arrival =>
        obtain ⟨endpoint, now, lastUpdated, req⟩ := arrival
        cases endpoint with
        | verify => exact verify_alone state facility inOrder.1 lastUpdated req
        | settle => exact settle_alone state facility inOrder.1 lastUpdated req
    have inOrder' : InOrder middle.server.clock rest := by
      rw [alone.clock]
      cases incoming with
      | list params => exact inOrder
      | pay arrival => exact inOrder.2
    obtain ⟨task, tasks, answer⟩ := alone.answered
    obtain ⟨labels', final, reached, service, answers⟩ := ih middle inOrder'
    refine ⟨labels ++ labels', final, ?_, ?_, ?_⟩
    · rw [Machine.run_append, alone.reached, Option.bind_some]
      exact reached
    · rw [service, alone.service]
      rfl
    · rw [answers, tasks, alone.service, List.map_append, List.append_assoc, Component.answers, List.map_cons,
        List.map_cons, answer]
      rfl

end Alone

namespace Transparent

open Crypto.Transparent Wallet

attribute [local instance] transparent transparent_lawful plainErrors plainSchemas plainText spelledBase64

/-- A payment, and a listing after it. -/
def paidThenListed : List Incoming := [.pay ⟨.verify, 1100, "now", listing⟩, .list {}]

theorem router_works_listed : ∃ labels final, Machine.run (work facilitator) idleFacility labels = some final ∧
    final.service = (router facilitator).after opened paidThenListed ∧
    final.tasks.map Task.answer = ((router facilitator).answers opened paidThenListed).map some := by
  have inOrder : InOrder idleFacility.server.clock paidThenListed := ⟨UInt64.le_refl _, trivial⟩
  exact router_works facilitator idleFacility paidThenListed inOrder

end Transparent

end X402Nockchain.Facilitator
