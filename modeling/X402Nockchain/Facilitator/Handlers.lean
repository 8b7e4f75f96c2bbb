import X402Nockchain.Facilitator.CatalogProvenance
import X402Nockchain.Facilitator.Linearization
import X402Nockchain.Facilitator.Router

/-! The three handlers, run concurrently: between any two of its awaits, a handler may
be overtaken by any other. They share the replay cache, the catalog and the chain. -/

namespace X402Nockchain.Facilitator

open Foundation Foundation.Serde X402Types Crypto
open Storage (CatalogStore InMemoryCatalogStore)

/-! ### What handlers ask of the catalog and of the chain -/

inductive Access where
  | process (lastUpdated : String) (req : VerifyRequest)
  | list (params : ListParams)

inductive Accessed where
  | processed (outcome : Option BazaarExtensionResponse)
  | listed (result : Except AppError DiscoveryResourcesResponse)

/-- The catalog, as the handlers use it. -/
def access [JsonSchema] [ErrorText] [CatalogStore Store] : Component Store Access Accessed
  | catalog, .process lastUpdated req =>
    let (outcome, catalog) := process catalog lastUpdated req
    (.processed outcome, catalog)
  | catalog, .list params => (.listed (listResources catalog params), catalog)

/-- The end of `settle::handler`. -/
def submit (state : AppState Chain) : Component Chain SettleRequest SettleResponse := fun chain req =>
  match state.schemeRegistry.handlerFor req.requirements.scheme req.requirements.network with
  | none =>
    (failure {
      code := "unknown_scheme"
      message := "scheme handler unavailable for settle" }, chain)
  | some handler => chainAnswer (handler.settle state.chain chain req)

/-! ### Handlers at work -/

/-- A `/verify`, once its checks are over. -/
inductive VerifyStage where
  | checking
  | refused (error : VerifyError)
  | cataloged (lastUpdated : String) (outcome : Option BazaarExtensionResponse)

inductive SettleStage where
  | arrived
  | refused (error : VerifyError)
  | passed
  | cataloged (lastUpdated : String) (outcome : Option BazaarExtensionResponse)
  | submitted (lastUpdated : String) (outcome : Option BazaarExtensionResponse) (body : SettleResponse)

/-- A handler, and how far it has come. The checks of a `/verify` are those of a call. -/
inductive Task where
  | verify (req : VerifyRequest) (call : Nat) (stage : VerifyStage)
  | settle (req : SettleRequest) (stage : SettleStage)
  | list (params : ListParams) (result : Option (Except AppError DiscoveryResourcesResponse))

/-- A facilitator at work. Whatever else happens on the chain is part of `Chain`. -/
structure Facility (Chain Cache Store : Type) where
  server : Server Chain Cache
  chain : Chain
  catalog : Store
  tasks : List Task := []

inductive Event where
  | tick (now : UInt64)
  | verify (req : VerifyRequest)
  | settle (req : SettleRequest)
  | list (params : ListParams)
  /-- The next check of a `/verify`. -/
  | check (call : Nat)
  /-- A handler goes on to its next await, while the wall clock reads `lastUpdated`. -/
  | advance (task : Nat) (lastUpdated : String)

/-- What the caller is answered, once the handler is over. -/
def Task.answer [JsonText] [Base64] : Task → Option Outgoing
  | .verify _ _ (.refused error) => some (.paid (.verified none (verifyResponse (.error error))))
  | .verify _ _ (.cataloged _ outcome) =>
    some (.paid (.verified (outcome.map encodeHeaderValue) (verifyResponse (.ok ()))))
  | .settle _ (.refused error) => some (.paid (.settled none (failure error.toFacilitatorError)))
  | .settle _ (.submitted _ outcome body) => some (.paid (.settled (outcome.map encodeHeaderValue) body))
  | .list _ (some result) => some (.listed result)
  | _ => none

section Machine

variable {Chain Cache Store : Type} [Vesl] [ErrorText] [JsonSchema] [ReplayCache Cache] [CatalogStore Store]

/-- A handler up to its next await. A `/verify` waits for its checks. -/
def advanceTask (state : AppState Chain) (facility : Facility Chain Cache Store) (lastUpdated : String) :
    Task → Option (Task × Chain × Store)
  | .verify req call .checking =>
    match facility.server.calls[call]?.bind Call.outcome with
    | none => none
    | some (.error error) => some (.verify req call (.refused error), facility.chain, facility.catalog)
    | some (.ok ()) =>
      let (outcome, catalog) := process facility.catalog lastUpdated req
      some (.verify req call (.cataloged lastUpdated outcome), facility.chain, catalog)
  | .settle req .arrived =>
    match (verifyEnvelopeForSettle state facility.server.clock facility.server.cache req).1 with
    | .error error => some (.settle req (.refused error), facility.chain, facility.catalog)
    | .ok () => some (.settle req .passed, facility.chain, facility.catalog)
  | .settle req .passed =>
    let (outcome, catalog) := process facility.catalog lastUpdated req
    some (.settle req (.cataloged lastUpdated outcome), facility.chain, catalog)
  | .settle req (.cataloged lastUpdated outcome) =>
    let (body, chain) := submit state facility.chain req
    some (.settle req (.submitted lastUpdated outcome body), chain, facility.catalog)
  | .list params none =>
    some (.list params (some (listResources facility.catalog params)), facility.chain, facility.catalog)
  | _ => none

/-- One step of the facilitator. -/
def work (state : AppState Chain) : Machine (Facility Chain Cache Store) Event
  | facility, .tick now =>
    (step state facility.server (.tick now)).map fun server => { facility with server }
  | facility, .verify req =>
    (step state facility.server (.arrive req)).map fun server => { facility with
      server
      tasks := facility.tasks ++ [.verify req facility.server.calls.length .checking] }
  | facility, .settle req => some { facility with tasks := facility.tasks ++ [.settle req .arrived] }
  | facility, .list params => some { facility with tasks := facility.tasks ++ [.list params none] }
  | facility, .check call =>
    (step state facility.server (.advance call)).map fun server => { facility with server }
  | facility, .advance index lastUpdated => do
    let task ← facility.tasks[index]?
    let (task, chain, catalog) ← advanceTask state facility lastUpdated task
    return { facility with chain, catalog, tasks := facility.tasks.set index task }

end Machine

/-! ### What a step of the facilitator does -/

/-- The steps that an event takes in the checks of the `/verify` calls. -/
def Event.labels : Event → List Label
  | .tick now => [.tick now]
  | .verify req => [.arrive req]
  | .check call => [.advance call]
  | .settle _ | .list _ | .advance _ _ => []

/-- The handler that an event starts. -/
def Event.joins (calls : Nat) : Event → List Task
  | .verify req => [.verify req calls .checking]
  | .settle req => [.settle req .arrived]
  | .list params => [.list params none]
  | .tick _ | .check _ | .advance _ _ => []

/-- What a handler has had of the catalog. -/
def Task.accessed : Task → Option (Access × Accessed)
  | .verify req _ (.cataloged lastUpdated outcome) => some (.process lastUpdated req, .processed outcome)
  | .settle req (.cataloged lastUpdated outcome) => some (.process lastUpdated req, .processed outcome)
  | .settle req (.submitted lastUpdated outcome _) => some (.process lastUpdated req, .processed outcome)
  | .list params (some result) => some (.list params, .listed result)
  | _ => none

/-- What a handler has had of the chain. -/
def Task.submitted : Task → Option (SettleRequest × SettleResponse)
  | .settle req (.submitted _ _ body) => some (req, body)
  | _ => none

section Steps

variable {Chain Cache Store : Type} [Vesl] [ErrorText] [JsonSchema] [ReplayCache Cache] [CatalogStore Store]
  {state : AppState Chain} {facility next : Facility Chain Cache Store} {event : Event}

/-- Everything that a step can do. -/
theorem work_cases (taken : work state facility event = some next) :
    ((∀ index lastUpdated, event ≠ .advance index lastUpdated) ∧
      ∃ server, Machine.run (step state) facility.server event.labels = some server ∧
        next = { facility with server, tasks := facility.tasks ++ event.joins facility.server.calls.length }) ∨
    ∃ index lastUpdated task task' chain catalog, event = .advance index lastUpdated ∧
      facility.tasks[index]? = some task ∧
      advanceTask state facility lastUpdated task = some (task', chain, catalog) ∧
      next = { facility with chain, catalog, tasks := facility.tasks.set index task' } := by
  cases event with
  | tick now =>
    obtain ⟨server, stepped, rfl⟩ := Option.map_eq_some_iff.mp taken
    refine .inl ⟨by simp, server, by simp [Event.labels, Machine.run, stepped], ?_⟩
    simp only [Event.joins, List.append_nil]
  | verify req =>
    simp only [work, Option.map_eq_some_iff] at taken
    obtain ⟨server, stepped, rfl⟩ := taken
    exact .inl ⟨by simp, server, by simp [Event.labels, Machine.run, stepped], rfl⟩
  | settle req =>
    obtain rfl := Option.some.inj taken
    exact .inl ⟨by simp, facility.server, rfl, rfl⟩
  | list params =>
    obtain rfl := Option.some.inj taken
    exact .inl ⟨by simp, facility.server, rfl, rfl⟩
  | check call =>
    obtain ⟨server, stepped, rfl⟩ := Option.map_eq_some_iff.mp taken
    refine .inl ⟨by simp, server, by simp [Event.labels, Machine.run, stepped], ?_⟩
    simp only [Event.joins, List.append_nil]
  | advance index lastUpdated =>
    simp only [work, Option.bind_eq_bind, Option.bind_eq_some_iff] at taken
    obtain ⟨task, found, ⟨task', chain, catalog⟩, advanced, same⟩ := taken
    exact .inr ⟨index, lastUpdated, task, task', chain, catalog, rfl, found, advanced, (Option.some.inj same).symm⟩

end Steps

/-! ### Shared resources -/

/-- A part of the facilitator that handlers call on: what a handler asks of it next, and
what it has had of it. -/
structure Resource (Chain Cache Store τ ι ο : Type) where
  component : Component τ ι ο
  view : Facility Chain Cache Store → τ
  asks : Facility Chain Cache Store → (lastUpdated : String) → Task → Option ι
  had : Task → Option (ι × ο)

namespace Resource

variable {Chain Cache Store τ ι ο : Type} (resource : Resource Chain Cache Store τ ι ο)

def hadBy (facility : Facility Chain Cache Store) (index : Nat) : Option (ι × ο) :=
  facility.tasks[index]?.bind resource.had

/-- What takes effect on the resource in a step. -/
def commits (facility : Facility Chain Cache Store) : Event → List (Commit Nat ι ο)
  | .advance index lastUpdated =>
    ((facility.tasks[index]?.bind (resource.asks facility lastUpdated)).map fun call =>
      ⟨index, call, (resource.component (resource.view facility) call).1⟩).toList
  | _ => []

variable [Vesl] [ErrorText] [JsonSchema] [ReplayCache Cache] [CatalogStore Store]

/-- A handler that goes on uses the resource by one call, its first, or not at all. -/
structure Serves (state : AppState Chain) : Prop where
  steady : ∀ facility server tasks, resource.view { facility with server, tasks } = resource.view facility
  fresh : ∀ calls event, ∀ task ∈ Event.joins calls event, resource.had task = none
  used : ∀ {facility lastUpdated task task' chain catalog},
    advanceTask state facility lastUpdated task = some (task', chain, catalog) →
      resource.asks facility lastUpdated task = none ∧
        resource.view { facility with chain, catalog } = resource.view facility ∧
        resource.had task' = resource.had task ∨
      ∃ call, resource.asks facility lastUpdated task = some call ∧ resource.had task = none ∧
        resource.view { facility with chain, catalog } = (resource.component (resource.view facility) call).2 ∧
        resource.had task' = some (call, (resource.component (resource.view facility) call).1)

variable {resource} {state : AppState Chain} {facility next : Facility Chain Cache Store} {event : Event}

omit [Vesl] [ErrorText] [JsonSchema] [ReplayCache Cache] [CatalogStore Store] in
theorem commits_of_ne (other : ∀ index lastUpdated, event ≠ .advance index lastUpdated) :
    resource.commits facility event = [] := by
  cases event with
  | advance index lastUpdated => exact absurd rfl (other index lastUpdated)
  | tick | verify | settle | list | check => rfl

/-- The calls on a resource take effect one after another. -/
theorem Serves.linearizes (serves : resource.Serves state) :
    Machine.Linearizes (work state) resource.commits resource.component resource.view fun _ => True where
  preserved _ _ := trivial
  explained := by
    intro facility event next _ taken
    obtain ⟨other, server, _, rfl⟩ |
      ⟨index, lastUpdated, task, task', chain, catalog, rfl, found, advanced, rfl⟩ := work_cases taken
    · rw [commits_of_ne other, serves.steady facility server]
      exact Component.explains_nil _
    · have moved := serves.steady { facility with chain, catalog } facility.server (facility.tasks.set index task')
      obtain ⟨silent, same, _⟩ | ⟨call, asks, _, view, _⟩ := serves.used advanced
      · simp only [commits, found, Option.bind_some, silent]
        rw [moved, same]
        exact Component.explains_nil _
      · simp only [commits, found, Option.bind_some, asks]
        rw [moved, view]
        exact Component.explains_singleton _ _ _

/-- In a step, at most one handler has something of a resource, and for the first time. -/
theorem Serves.answers (serves : resource.Serves state) (taken : work state facility event = some next) :
    Machine.Answers (resource.hadBy facility) (resource.hadBy next) (resource.commits facility event) := by
  obtain ⟨other, server, _, rfl⟩ |
    ⟨index, lastUpdated, task, task', chain, catalog, rfl, found, advanced, rfl⟩ := work_cases taken
  · rw [commits_of_ne other]
    exact .nobody (Machine.held_append (serves.fresh _ event))
  · obtain ⟨silent, _, same⟩ | ⟨call, asks, waiting, _, has⟩ := serves.used advanced
    · simp only [commits, found, Option.bind_some, silent]
      refine .nobody fun caller => ?_
      rw [hadBy, Machine.held_set found, same]
      by_cases here : caller = index
      · rw [if_pos here, hadBy, here, found, Option.bind_some]
      · rw [if_neg here, hadBy]
    · simp only [commits, found, Option.bind_some, asks]
      refine .one _ ?_ fun caller => ?_
      · rw [hadBy, found, Option.bind_some, waiting]
      · rw [hadBy, Machine.held_set found, has]
        rfl

end Resource

section Resources

variable {Chain Cache Store : Type} [Vesl] [ErrorText] [JsonSchema] [ReplayCache Cache] [CatalogStore Store]

/-- The catalog, which a handler calls on once its request has passed. -/
def catalogResource : Resource Chain Cache Store Store Access Accessed where
  component := access
  view facility := facility.catalog
  asks facility lastUpdated
    | .verify req call .checking =>
      match facility.server.calls[call]?.bind Call.outcome with
      | some (.ok ()) => some (.process lastUpdated req)
      | _ => none
    | .settle req .passed => some (.process lastUpdated req)
    | .list params none => some (.list params)
    | _ => none
  had := Task.accessed

/-- The chain, which a `/settle` calls on at its end. -/
def chainResource (state : AppState Chain) : Resource Chain Cache Store Chain SettleRequest SettleResponse where
  component := submit state
  view facility := facility.chain
  asks _ _
    | .settle req (.cataloged _ _) => some req
    | _ => none
  had := Task.submitted

theorem catalog_serves (state : AppState Chain) :
    (catalogResource : Resource Chain Cache Store Store Access Accessed).Serves state where
  steady _ _ _ := rfl
  fresh := by
    intro calls event task member
    cases event with
    | tick | check | advance => cases member
    | verify | settle | list => rw [List.mem_singleton.mp member]; rfl
  used := by
    intro facility lastUpdated task task' chain catalog advanced
    cases task with
    | verify req call stage =>
      cases stage with
      | checking =>
        simp only [advanceTask] at advanced
        simp only [catalogResource]
        split at advanced
        · cases advanced
        · rename_i error finished
          cases advanced
          exact .inl ⟨by simp only [finished], rfl, rfl⟩
        · rename_i finished
          cases advanced
          exact .inr ⟨_, by simp only [finished], rfl, rfl, rfl⟩
      | refused | cataloged => cases advanced
    | settle req stage =>
      cases stage with
      | arrived =>
        simp only [advanceTask] at advanced
        split at advanced <;> cases advanced <;> exact .inl ⟨rfl, rfl, rfl⟩
      | passed =>
        cases advanced
        exact .inr ⟨_, rfl, rfl, rfl, rfl⟩
      | cataloged updated outcome =>
        cases advanced
        exact .inl ⟨rfl, rfl, rfl⟩
      | refused | submitted => cases advanced
    | list params result =>
      cases result with
      | none =>
        cases advanced
        exact .inr ⟨_, rfl, rfl, rfl, rfl⟩
      | some result => cases advanced

theorem chain_serves (state : AppState Chain) :
    (chainResource state : Resource Chain Cache Store Chain SettleRequest SettleResponse).Serves state where
  steady _ _ _ := rfl
  fresh := by
    intro calls event task member
    cases event with
    | tick | check | advance => cases member
    | verify | settle | list => rw [List.mem_singleton.mp member]; rfl
  used := by
    intro facility lastUpdated task task' chain catalog advanced
    cases task with
    | verify req call stage =>
      cases stage with
      | checking =>
        simp only [advanceTask] at advanced
        split at advanced <;> cases advanced <;> exact .inl ⟨rfl, rfl, rfl⟩
      | refused | cataloged => cases advanced
    | settle req stage =>
      cases stage with
      | arrived =>
        simp only [advanceTask] at advanced
        split at advanced <;> cases advanced <;> exact .inl ⟨rfl, rfl, rfl⟩
      | passed =>
        cases advanced
        exact .inl ⟨rfl, rfl, rfl⟩
      | cataloged updated outcome =>
        cases advanced
        exact .inr ⟨_, rfl, rfl, rfl, rfl⟩
      | refused | submitted => cases advanced
    | list params result =>
      cases result with
      | none =>
        cases advanced
        exact .inl ⟨rfl, rfl, rfl⟩
      | some result => cases advanced

end Resources

/-! ### Answers, put together -/

section Runs

variable {Chain Cache Store : Type} [Vesl] [ErrorText] [JsonSchema] [LawfulReplayCache Cache] [CatalogStore Store]
  {state : AppState Chain} {facility next start final : Facility Chain Cache Store} {event : Event}
  {server server' : Server Chain Cache}

/-- How far a handler has come tells what its checks have found. -/
def Follows (state : AppState Chain) (server : Server Chain Cache) : Task → Prop
  | .verify req call stage => ∃ found, server.calls[call]? = some found ∧ found.request = req ∧
      match stage with
      | .checking => True
      | .refused error => found.outcome = some (.error error)
      | .cataloged _ _ => found.outcome = some (.ok ())
  | .settle _ .arrived => True
  | .settle req (.refused error) => ∃ now ≤ server.clock, ∀ cache : Cache,
      (verifyEnvelopeForSettle state now cache req).1 = .error error
  | .settle req _ => ∃ now ≤ server.clock, ∀ cache : Cache, (verifyEnvelopeForSettle state now cache req).1 = .ok ()
  | .list _ _ => True

omit [ErrorText] [JsonSchema] in
/-- Calls keep their requests and their outcomes, and the clock goes on. -/
theorem follows_step (taken : step state server label = some server') (follows : Follows state server task) :
    Follows state server' task := by
  have order : server.clock ≤ server'.clock := by
    obtain ⟨now, rfl, order, rfl⟩ | ⟨req, rfl, rfl⟩ | ⟨index, call, call', cache', rfl, _, _, rfl⟩ :=
      step_cases taken
    · exact order
    · exact UInt64.le_refl _
    · exact UInt64.le_refl _
  cases task with
  | verify req call stage =>
    obtain ⟨found, here, asked, told⟩ := follows
    obtain ⟨found', here', same, finished⟩ := calls_step taken here
    refine ⟨found', here', same.trans asked, ?_⟩
    cases stage with
    | checking => trivial
    | refused error =>
      have told : found.outcome = some (.error error) := told
      rwa [finished (by simp [told])]
    | cataloged lastUpdated outcome =>
      have told : found.outcome = some (.ok ()) := told
      rwa [finished (by simp [told])]
  | settle req stage =>
    cases stage with
    | arrived => trivial
    | refused | passed | cataloged | submitted =>
      obtain ⟨now, before, checked⟩ := follows
      exact ⟨now, UInt64.le_trans before order, checked⟩
  | list params result => trivial

theorem follows_advance (follows : Follows state facility.server task)
    (taken : advanceTask state facility lastUpdated task = some (task', chain, catalog)) :
    Follows state facility.server task' := by
  cases task with
  | verify req call stage =>
    cases stage with
    | checking =>
      obtain ⟨found, here, asked, _⟩ := follows
      simp only [advanceTask, here, Option.bind_some] at taken
      split at taken
      · cases taken
      · rename_i error finished
        cases taken
        exact ⟨found, here, asked, finished⟩
      · rename_i finished
        cases taken
        exact ⟨found, here, asked, finished⟩
    | refused | cataloged => cases taken
  | settle req stage =>
    cases stage with
    | arrived =>
      simp only [advanceTask] at taken
      split at taken
      all_goals
        rename_i checked
        cases taken
        refine ⟨facility.server.clock, UInt64.le_refl _, fun cache => ?_⟩
        rw [verifyEnvelopeForSettle_eq] at checked ⊢
        exact checked
    | passed | cataloged =>
      cases taken
      exact follows
    | refused | submitted => cases taken
  | list params result =>
    cases result with
    | none =>
      cases taken
      trivial
    | some result => cases taken

/-- The call that makes the checks of a handler. -/
def Task.call : Task → Option Nat
  | .verify _ call _ => some call
  | .settle _ _ | .list _ _ => none

/-- The call whose checks a handler is through with. -/
def Task.checked : Task → Option Nat
  | .verify _ call (.refused _) => some call
  | .verify _ call (.cataloged _ _) => some call
  | _ => none

omit [ErrorText] [JsonSchema] [CatalogStore Store] in
theorem outcome_of_checked (follows : Follows state server task) (through : task.checked = some call) :
    ∃ found outcome, server.calls[call]? = some found ∧ found.outcome = some outcome := by
  cases task with
  | verify req call' stage =>
    obtain ⟨found, here, _, told⟩ := follows
    cases stage with
    | checking => cases through
    | refused | cataloged =>
      obtain rfl := Option.some.inj through
      exact ⟨found, _, here, told⟩
  | settle | list => cases through

/-- The invariant of the handlers. -/
structure InStep (state : AppState Chain) (facility : Facility Chain Cache Store) : Prop where
  follows : ∀ task ∈ facility.tasks, Follows state facility.server task
  own : facility.tasks.filterMap Task.call = List.range facility.server.calls.length

theorem advanceTask_call (taken : advanceTask state facility lastUpdated task = some (task', chain, catalog)) :
    task'.call = task.call := by
  cases task with
  | verify req call stage =>
    cases stage with
    | checking =>
      simp only [advanceTask] at taken
      split at taken <;> cases taken <;> rfl
    | refused | cataloged => cases taken
  | settle req stage =>
    cases stage with
    | arrived =>
      simp only [advanceTask] at taken
      split at taken <;> cases taken <;> rfl
    | passed | cataloged => cases taken; rfl
    | refused | submitted => cases taken
  | list params result =>
    cases result with
    | none => cases taken; rfl
    | some result => cases taken

theorem calls_set (found : facility.tasks[index]? = some task)
    (taken : advanceTask state facility lastUpdated task = some (task', chain, catalog)) :
    (facility.tasks.set index task').map Task.call = facility.tasks.map Task.call := by
  obtain ⟨bound, here⟩ := List.getElem?_eq_some_iff.mp found
  rw [List.map_set, advanceTask_call taken, ← here, ← List.getElem_map Task.call (h := by simpa using bound),
    List.set_getElem_self]

theorem inStep_work (inStep : InStep state facility) (taken : work state facility event = some next) :
    InStep state next := by
  obtain ⟨follows, own⟩ := inStep
  cases event with
  | tick now =>
    obtain ⟨server, stepped, rfl⟩ := Option.map_eq_some_iff.mp taken
    refine ⟨fun task member => follows_step stepped (follows task member), ?_⟩
    simp only [step, Option.ite_none_right_eq_some, Option.some.injEq] at stepped
    rw [← stepped.2]
    exact own
  | verify req =>
    simp only [work, step, Option.map_some, Option.some.injEq] at taken
    have stepped : step state facility.server (.arrive req) =
        some { facility.server with calls := facility.server.calls ++ [⟨req, .arrived⟩] } := rfl
    subst taken
    refine ⟨fun task member => ?_, ?_⟩
    · obtain old | new := List.mem_append.mp member
      · exact follows_step stepped (follows task old)
      · rw [List.mem_singleton.mp new]
        exact ⟨⟨req, .arrived⟩, by simp, rfl, trivial⟩
    · rw [List.filterMap_append, own, List.length_append, List.range_add]
      rfl
  | settle req =>
    obtain rfl := Option.some.inj taken
    refine ⟨fun task member => ?_, ?_⟩
    · obtain old | new := List.mem_append.mp member
      · exact follows task old
      · rw [List.mem_singleton.mp new]
        trivial
    · rw [List.filterMap_append, own]
      exact List.append_nil _
  | list params =>
    obtain rfl := Option.some.inj taken
    refine ⟨fun task member => ?_, ?_⟩
    · obtain old | new := List.mem_append.mp member
      · exact follows task old
      · rw [List.mem_singleton.mp new]
        trivial
    · rw [List.filterMap_append, own]
      exact List.append_nil _
  | check call =>
    obtain ⟨server, stepped, rfl⟩ := Option.map_eq_some_iff.mp taken
    refine ⟨fun task member => follows_step stepped (follows task member), ?_⟩
    obtain ⟨_, same, _⟩ | ⟨_, same, _⟩ | ⟨_, _, _, _, _, _, _, rfl⟩ := step_cases stepped
    · cases same
    · cases same
    · rw [List.length_set]
      exact own
  | advance index lastUpdated =>
    obtain ⟨other, _⟩ | ⟨_, _, task, task', chain, catalog, same, found, advanced, rfl⟩ := work_cases taken
    · exact absurd rfl (other index lastUpdated)
    cases same
    refine ⟨fun one member => ?_, ?_⟩
    · obtain old | rfl := List.mem_or_eq_of_mem_set member
      · exact follows one old
      · have moved := follows_advance (follows task (List.mem_of_getElem? found)) advanced
        exact moved
    · have kept := congrArg (List.filterMap id) (calls_set found advanced)
      rw [List.filterMap_map, List.filterMap_map] at kept
      exact kept.trans own

/-- Nothing is under way. -/
structure Facility.Idle (facility : Facility Chain Cache Store) : Prop where
  tasks : facility.tasks = []
  server : facility.server.Idle

theorem inStep_run (idle : start.Idle) (reached : Machine.run (work state) start labels = some final) :
    InStep state final := by
  have within : Machine.Within (work state) (fun _ _ => True) start labels :=
    Machine.within_of_labels (fun _ _ => trivial) _
  refine Machine.invariant (fun _ inStep taken => inStep_work inStep taken) within ⟨?_, ?_⟩ reached
  · simp [idle.tasks]
  · rw [idle.tasks, idle.server.calls]
    rfl

/-- Handlers keep their calls, and later ones come after them. -/
theorem calls_work (taken : work state facility event = some next) :
    facility.tasks.map Task.call <+: next.tasks.map Task.call := by
  obtain ⟨_, server, _, rfl⟩ | ⟨_, _, _, _, _, _, _, found, advanced, rfl⟩ := work_cases taken
  · rw [List.map_append]
    exact List.prefix_append _ _
  · rw [calls_set found advanced]

theorem calls_run (reached : Machine.run (work state) start labels = some final) :
    start.tasks.map Task.call <+: final.tasks.map Task.call := by
  let keeps (facility : Facility Chain Cache Store) : Prop :=
    start.tasks.map Task.call <+: facility.tasks.map Task.call
  have within : Machine.Within (work state) (fun _ _ => True) start labels :=
    Machine.within_of_labels (fun _ _ => trivial) _
  suffices kept : keeps final from kept
  exact Machine.invariant (fun _ (kept : keeps _) taken => kept.trans (calls_work taken)) within
    List.prefix_rfl reached

omit [ErrorText] [JsonSchema] [CatalogStore Store] in
/-- A handler that starts later makes its checks in a later call. -/
theorem call_later {middle : Facility Chain Cache Store} (before : InStep state middle) (after : InStep state final)
    (kept : middle.tasks.map Task.call <+: final.tasks.map Task.call) (absent : middle.tasks.length ≤ j)
    (asks : final.tasks[j]?.bind Task.call = some other) : middle.server.calls.length ≤ other := by
  obtain ⟨rest, same⟩ := kept
  have numbers := congrArg (List.filterMap id) same
  rw [List.filterMap_append, List.filterMap_map, List.filterMap_map] at numbers
  have split : List.range middle.server.calls.length ++ rest.filterMap id =
      List.range final.server.calls.length := by
    rw [← before.own, ← after.own]
    exact numbers
  have later : other ∈ rest.filterMap id := by
    obtain ⟨task, found, call⟩ := Option.bind_eq_some_iff.mp asks
    have here : (final.tasks.map Task.call)[j]? = some (some other) := by
      rw [List.getElem?_map, found, Option.map_some, call]
    rw [← same, List.getElem?_append_right (by simpa using absent)] at here
    exact List.mem_filterMap.mpr ⟨some other, List.mem_of_getElem? here, rfl⟩
  have distinct := List.nodup_range (n := final.server.calls.length)
  rw [← split, List.nodup_append] at distinct
  by_contra early
  exact distinct.2.2 other (List.mem_range.mpr (Nat.lt_of_not_le early)) other later rfl

/-- The checks of the handlers run as they do by themselves. -/
theorem server_run (reached : Machine.run (work state) start labels = some final) :
    Machine.run (step state) start.server (labels.flatMap Event.labels) = some final.server := by
  refine Machine.run_part Facility.server Event.labels ?_ reached
  intro facility event next taken
  obtain ⟨_, server, stepped, rfl⟩ | ⟨_, _, _, _, _, _, rfl, _, _, rfl⟩ := work_cases taken
  · exact stepped
  · rfl

/-- Histories of the calls on the cache, on the catalog and on the chain. -/
structure Histories where
  checks : List (Commit Nat TimedRequest (Except VerifyError Unit))
  accesses : List (Commit Nat Access Accessed)
  settlements : List (Commit Nat SettleRequest SettleResponse)

/-- An answer is put together from what the handler at `index` has had in the histories. -/
inductive Composed [JsonText] [Base64] (Cache : Type) [ReplayCache Cache] (state : AppState Chain) (clock : UInt64)
    (histories : Histories) (index : Nat) : Task → Outgoing → Prop where
  | refused (check : ⟨call, timed, .error error⟩ ∈ histories.checks) (asked : timed.req = req) :
      Composed Cache state clock histories index (.verify req call stage)
        (.paid (.verified none (verifyResponse (.error error))))
  | verified (check : ⟨call, timed, .ok ()⟩ ∈ histories.checks) (asked : timed.req = req)
      (cataloged : ⟨index, .process lastUpdated req, .processed outcome⟩ ∈ histories.accesses) :
      Composed Cache state clock histories index (.verify req call stage)
        (.paid (.verified (outcome.map encodeHeaderValue) (verifyResponse (.ok ()))))
  | rejected (past : now ≤ clock)
      (check : ∀ cache : Cache, (verifyEnvelopeForSettle state now cache req).1 = .error error) :
      Composed Cache state clock histories index (.settle req stage)
        (.paid (.settled none (failure error.toFacilitatorError)))
  | settled (past : now ≤ clock)
      (check : ∀ cache : Cache, (verifyEnvelopeForSettle state now cache req).1 = .ok ())
      (cataloged : ⟨index, .process lastUpdated req, .processed outcome⟩ ∈ histories.accesses)
      (submitted : ⟨index, req, body⟩ ∈ histories.settlements) :
      Composed Cache state clock histories index (.settle req stage)
        (.paid (.settled (outcome.map encodeHeaderValue) body))
  | listed (read : ⟨index, .list params, .listed result⟩ ∈ histories.accesses) :
      Composed Cache state clock histories index (.list params stage) (.listed result)

/-- Histories that account for all that the handlers did: each is a sequence of calls made
one after another, and holds what each handler has had, once. -/
structure Serializes [JsonText] [Base64] (state : AppState Chain) (start final : Facility Chain Cache Store)
    (histories : Histories) : Prop where
  checked : Linearization state start.server final.server histories.checks
  cataloged : access.Explains start.catalog histories.accesses final.catalog
  settled : (submit state).Explains start.chain histories.settlements final.chain
  accessed : Machine.Told histories.accesses (catalogResource.hadBy final)
  submitted : Machine.Told histories.settlements ((chainResource state).hadBy final)
  inStep : InStep state final
  answered : ∀ index task answer, final.tasks[index]? = some task → task.answer = some answer →
    Composed Cache state final.server.clock histories index task answer

/-- What a run does to the cache, the catalog and the chain. -/
def historiesOf (state : AppState Chain) (start : Facility Chain Cache Store) (labels : List Event) : Histories where
  checks := Machine.history (step state) (commits state) start.server (labels.flatMap Event.labels)
  accesses := Machine.history (work state) catalogResource.commits start labels
  settlements := Machine.history (work state) (chainResource state).commits start labels

omit [Vesl] [ErrorText] [JsonSchema] [LawfulReplayCache Cache] [CatalogStore Store] in
theorem hadBy_idle {τ ι ο : Type} (idle : start.Idle) (resource : Resource Chain Cache Store τ ι ο)
    (caller : Nat) : resource.hadBy start caller = none := by
  simp [Resource.hadBy, idle.tasks]

theorem serializes_run [JsonText] [Base64] (idle : start.Idle)
    (reached : Machine.run (work state) start labels = some final) :
    Serializes state start final (historiesOf state start labels) := by
  have catalog : (catalogResource : Resource Chain Cache Store Store Access Accessed).Serves state :=
    catalog_serves state
  have chain : (chainResource state : Resource Chain Cache Store Chain SettleRequest SettleResponse).Serves state :=
    chain_serves state
  let histories := historiesOf state start labels
  have linearization : Linearization state start.server final.server histories.checks :=
    linearization_run idle.server (server_run reached)
  have accessed : Machine.Told histories.accesses (catalogResource.hadBy final) :=
    Machine.told_run catalog.answers (hadBy_idle idle _) reached
  have submitted : Machine.Told histories.settlements ((chainResource state).hadBy final) :=
    Machine.told_run chain.answers (hadBy_idle idle _) reached
  have inStep := inStep_run idle reached
  refine ⟨linearization, catalog.linearizes.explains trivial reached,
    chain.linearizes.explains trivial reached, accessed, submitted, inStep, ?_⟩
  intro index task answer found answered
  have follows := inStep.follows task (List.mem_of_getElem? found)
  have access {acc result} (had : task.accessed = some (acc, result)) :
      ⟨index, acc, result⟩ ∈ histories.accesses :=
    accessed.present (by rw [Resource.hadBy, found]; exact had)
  have submit {req body} (had : task.submitted = some (req, body)) :
      ⟨index, req, body⟩ ∈ histories.settlements :=
    submitted.present (by rw [Resource.hadBy, found]; exact had)
  cases task with
  | verify req call stage =>
    obtain ⟨here, atCall, asked, told⟩ := follows
    cases stage with
    | checking => cases answered
    | refused error =>
      cases answered
      obtain ⟨⟨_, timed, _⟩, member, rfl, same, rfl⟩ := linearization.answered call here _ atCall told
      exact .refused member (same.trans asked)
    | cataloged lastUpdated outcome =>
      cases answered
      obtain ⟨⟨_, timed, _⟩, member, rfl, same, rfl⟩ := linearization.answered call here _ atCall told
      exact .verified member (same.trans asked) (access rfl)
  | settle req stage =>
    cases stage with
    | arrived | passed | cataloged => cases answered
    | refused error =>
      cases answered
      obtain ⟨now, past, checked⟩ := follows
      exact .rejected past checked
    | submitted lastUpdated outcome body =>
      cases answered
      obtain ⟨now, past, checked⟩ := follows
      exact .settled past checked (access rfl) (submit rfl)
  | list params result =>
    cases result with
    | none => cases answered
    | some result =>
      cases answered
      exact .listed (access rfl)

/-- A handler that is over before another one starts comes before it. -/
theorem precedes_run {middle : Facility Chain Cache Store} {i j : Nat} {task : Task} (idle : start.Idle)
    (passing : Machine.run (work state) start front = some middle) (back : List Event)
    (found : middle.tasks[i]? = some task) (absent : middle.tasks.length ≤ j) :
    (∀ acc result, task.accessed = some (acc, result) →
      Machine.Precedes (historiesOf state start (front ++ back)).accesses ⟨i, acc, result⟩ j) ∧
    ∀ req body, task.submitted = some (req, body) →
      Machine.Precedes (historiesOf state start (front ++ back)).settlements ⟨i, req, body⟩ j := by
  have later {τ ι ο : Type} (resource : Resource Chain Cache Store τ ι ο) : resource.hadBy middle j = none := by
    rw [Resource.hadBy, List.getElem?_eq_none absent, Option.bind_none]
  constructor
  · intro acc result had
    have has : catalogResource.hadBy middle i = some (acc, result) := by rw [Resource.hadBy, found]; exact had
    exact Machine.told_precedes (catalog_serves state).answers (hadBy_idle idle _) passing has (later _) back
  · intro req body had
    have has : (chainResource state).hadBy middle i = some (req, body) := by rw [Resource.hadBy, found]; exact had
    exact Machine.told_precedes (chain_serves state).answers (hadBy_idle idle _) passing has (later _) back

/-- So do its checks, before those of the other. -/
theorem checks_precede {middle : Facility Chain Cache Store} {i j : Nat} {task : Task} (idle : start.Idle)
    (passing : Machine.run (work state) start front = some middle)
    (reached : Machine.run (work state) start (front ++ back) = some final)
    (found : middle.tasks[i]? = some task) (through : task.checked = some call)
    (absent : middle.tasks.length ≤ j) (asks : final.tasks[j]?.bind Task.call = some other) :
    ComesBefore (historiesOf state start (front ++ back)).checks call other := by
  have inStep := inStep_run idle passing
  have continued : Machine.run (work state) middle back = some final := by
    rwa [Machine.run_append, passing, Option.bind_some] at reached
  have later : middle.server.calls.length ≤ other :=
    call_later inStep (inStep_run idle reached) (calls_run continued) absent asks
  obtain ⟨made, outcome, atCall, finished⟩ :=
    outcome_of_checked (inStep.follows task (List.mem_of_getElem? found)) through
  rw [historiesOf, List.flatMap_append]
  exact comesBefore_run idle.server (server_run passing) _ atCall finished later

/-- In whatever order the handlers go on, each of the cache, the catalog and the chain sees
calls made one after another, in which a handler that was over before another started
comes before it; every handler is answered from its own calls, of which it makes none
twice, and no other calls are made. -/
theorem handlers_serialize [JsonText] [Base64] (idle : start.Idle)
    (reached : Machine.run (work state) start labels = some final) :
    ∃ histories, Serializes state start final histories ∧
      ∀ front back middle, labels = front ++ back → Machine.run (work state) start front = some middle →
        ∀ i j task, middle.tasks[i]? = some task → middle.tasks.length ≤ j →
          (∀ call other, task.checked = some call → final.tasks[j]?.bind Task.call = some other →
            ComesBefore histories.checks call other) ∧
          (∀ acc result, task.accessed = some (acc, result) →
            Machine.Precedes histories.accesses ⟨i, acc, result⟩ j) ∧
          ∀ req body, task.submitted = some (req, body) →
            Machine.Precedes histories.settlements ⟨i, req, body⟩ j := by
  refine ⟨historiesOf state start labels, serializes_run idle reached, ?_⟩
  rintro front back middle rfl passing i j task found absent
  refine ⟨fun call other through asks => ?_, precedes_run idle passing back found absent⟩
  exact checks_precede idle passing reached found through absent asks

end Runs

/-! ### A settlement that overtakes the verification of its payment -/

namespace Transparent

open Crypto.Transparent Wallet

attribute [local instance] transparent transparent_lawful plainErrors plainSchemas plainText spelledBase64

def idleFacility : Facility Unit RecordLog InMemoryCatalogStore where
  server := idleServer
  chain := ()
  catalog := .new

/-- A `/settle` with the request of a `/verify`, which it overtakes before the row is written. -/
def racing : List Event :=
  [.verify listing, .settle listing, .check 0, .advance 1 "now", .check 0, .advance 1 "now"]

theorem process_listing (catalog : InMemoryCatalogStore) (lastUpdated : String) :
    process catalog lastUpdated listing =
      (some { status := .success }, catalog.upsert (catalogEntry listing lastUpdated weather)) := by
  simp only [process, listing_read]
  rfl

theorem listing_screened : screen facilitator 1100 listing = .ok (exactNockchainHandler, authorization) :=
  screen_ok_iff.mpr ⟨listing_honest.dispatched rfl, original_window 1100 (by decide) (by decide)⟩

theorem listing_verified : (exactNockchainHandler : SchemeHandler Unit).verify listing.payload
    listing.requirements = .ok () := listing_honest.verified

theorem listing_settles (cache : RecordLog) :
    (verifyEnvelopeForSettle facilitator 1100 cache listing).1 = .ok () :=
  verifyEnvelopeForSettle_ok_iff.mpr ⟨_, _, listing_screened, listing_verified⟩

def settledTask : Task := .settle listing (.cataloged "now" (some { status := .success }))

/-- The facility after `racing`, with this cache. -/
def raced (after : RecordLog) : Facility Unit RecordLog InMemoryCatalogStore where
  server := {
    clock := 1100
    cache := after
    calls := [⟨listing, .recorded exactNockchainHandler authorization 1100 1100⟩] }
  chain := ()
  catalog := InMemoryCatalogStore.new.upsert (catalogEntry listing "now" weather)
  tasks := [.verify listing 0 .checking, settledTask]

theorem racing_reached : ∃ after, Records authorization 1100 ({} : RecordLog) after ∧
    Machine.run (work facilitator) idleFacility racing = some (raced after) := by
  obtain ⟨known, _⟩ | ⟨_, after, missed, records⟩ :=
    checkReplay_cases facilitator 1100 ({} : RecordLog) authorization
  · exact absurd known (empty_fresh _ _ _)
  · refine ⟨after, records, ?_⟩
    simp [Machine.run, racing, work, idleFacility, idleServer, step, advanceCall, advanceTask,
      listing_screened, missed, listing_settles, process_listing, raced, settledTask]

/-- The verification goes on to its end, and the same request comes once more. -/
def ending : List Event := [.check 0, .advance 0 "now"]

def again : List Event := [.verify listing, .check 1, .check 1, .advance 2 "later"]

def verifiedTask : Task := .verify listing 0 (.cataloged "now" (some { status := .success }))

/-- The facility after `ending`. -/
def ended (after : RecordLog) : Facility Unit RecordLog InMemoryCatalogStore where
  server := {
    clock := 1100
    cache := after
    calls := [⟨listing, .accepted authorization 1100 1100⟩] }
  chain := ()
  catalog := (raced after).catalog.upsert (catalogEntry listing "now" weather)
  tasks := [verifiedTask, settledTask]

theorem ending_reached (after : RecordLog) :
    Machine.run (work facilitator) (raced after) ending = some (ended after) := by
  simp [Machine.run, ending, work, raced, step, advanceCall, advanceTask, listing_verified, process_listing,
    Call.outcome, ended, verifiedTask]

theorem again_reached (records : Records authorization 1100 ({} : RecordLog) after) :
    ∃ final, Machine.run (work facilitator) (ended after) again = some final ∧
      final.tasks[2]? = some (.verify listing 1 (.refused (.nonceReplayed "3"))) := by
  have consumed : Consumed facilitator 1100 after authorization :=
    remembered_iff.mpr ⟨1100, by rw [records, if_pos rfl], Nat.le_add_right _ _⟩
  obtain ⟨_, hit⟩ | ⟨fresh, _⟩ := checkReplay_cases facilitator 1100 after authorization
  · refine ⟨{ ended after with
      server := { (ended after).server with
        calls := (ended after).server.calls ++ [⟨listing, .replayed authorization 1100 1100⟩] }
      tasks := (ended after).tasks ++ [.verify listing 1 (.refused (.nonceReplayed "3"))] }, ?_, rfl⟩
    simp [Machine.run, again, work, ended, step, advanceCall, advanceTask, listing_screened, hit, Call.outcome]
    rfl
  · exact absurd consumed fresh

/-- The settlement has overtaken the verification, which comes before the second one. -/
theorem handlers_serialize_racing : ∃ final histories,
    Machine.run (work facilitator) idleFacility (racing ++ ending ++ again) = some final ∧
    Serializes facilitator idleFacility final histories ∧ ComesBefore histories.checks 0 1 ∧
    Machine.Precedes histories.accesses
      ⟨0, .process "now" listing, .processed (some { status := .success })⟩ 2 := by
  obtain ⟨after, records, raced'⟩ := racing_reached
  obtain ⟨final, continued, refused⟩ := again_reached records
  have passing : Machine.run (work facilitator) idleFacility (racing ++ ending) = some (ended after) := by
    rw [Machine.run_append, raced', Option.bind_some, ending_reached]
  have reached : Machine.run (work facilitator) idleFacility (racing ++ ending ++ again) = some final := by
    rw [Machine.run_append, passing, Option.bind_some, continued]
  have idle : idleFacility.Idle := ⟨rfl, rfl⟩
  obtain ⟨histories, serializes, ordered⟩ := handlers_serialize idle reached
  obtain ⟨checks, accesses, _⟩ := ordered _ again _ rfl passing 0 2 verifiedTask rfl (Nat.le_refl 2)
  exact ⟨final, histories, reached, serializes, checks 0 1 rfl (by rw [refused]; rfl), accesses _ _ rfl⟩

end Transparent

end X402Nockchain.Facilitator
