import X402Nockchain.Foundation.Component
import X402Nockchain.Foundation.Machine

/-! Linearizability: the calls of a concurrent machine take effect one after another,
as calls of a sequential component. -/

namespace X402Nockchain.Foundation

/-- A call that has taken effect: whose it is, what it asks, and its answer. -/
structure Commit (κ : Type u) (ι : Type v) (ο : Type w) where
  caller : κ
  call : ι
  answer : ο

/-- The part of a history that is made up of calls on another component. -/
def hostedCalls {ι : Type v} {ι' : Type v'} {ο : Type w} {κ : Type x} (made : ι → Option ι')
    (history : List (Commit κ ι ο)) : List (Commit κ ι' ο) :=
  history.filterMap fun commit => (made commit.call).map (⟨commit.caller, ·, commit.answer⟩)

section HostedCalls

variable {ι : Type v} {ι' : Type v'} {ο : Type w} {κ : Type x} {made : ι → Option ι'}
  {history : List (Commit κ ι ο)}

theorem mem_hostedCalls {commit : Commit κ ι' ο} : commit ∈ hostedCalls made history ↔
    ∃ call, made call = some commit.call ∧ ⟨commit.caller, call, commit.answer⟩ ∈ history := by
  simp only [hostedCalls, List.mem_filterMap, Option.map_eq_some_iff]
  constructor
  · rintro ⟨⟨caller, call, answer⟩, member, call', same, rfl⟩
    exact ⟨call, same, member⟩
  · rintro ⟨call, same, member⟩
    exact ⟨_, member, commit.call, same, rfl⟩

theorem callers_hostedCalls (made : ι → Option ι') (history : List (Commit κ ι ο)) :
    ((hostedCalls made history).map Commit.caller).Sublist (history.map Commit.caller) := by
  induction history with
  | nil => exact List.Sublist.slnil
  | cons commit rest ih =>
    cases call : made commit.call with
    | none =>
      rw [hostedCalls, List.filterMap_cons_none (by rw [call, Option.map_none])]
      exact ih.cons commit.caller
    | some call' =>
      rw [hostedCalls, List.filterMap_cons_some (by rw [call, Option.map_some])]
      exact ih.cons_cons commit.caller

end HostedCalls

namespace Component

variable {σ : Type u} {ι : Type v} {ο : Type w} {κ : Type x} {component : Component σ ι ο}

theorem answers_append (state : σ) (front back : List ι) : component.answers state (front ++ back) =
    component.answers state front ++ component.answers (component.after state front) back := by
  induction front generalizing state with
  | nil => rfl
  | cons call rest ih => exact congrArg _ (ih (component state call).2)

theorem length_answers (state : σ) (calls : List ι) : (component.answers state calls).length = calls.length := by
  induction calls generalizing state with
  | nil => rfl
  | cons call rest ih => exact congrArg Nat.succ (ih (component state call).2)

/-- The calls of a history, made one after another, have its answers and lead to a state. -/
structure Explains (component : Component σ ι ο) (start : σ) (history : List (Commit κ ι ο)) (state : σ) :
    Prop where
  reaches : component.after start (history.map Commit.call) = state
  answers : component.answers start (history.map Commit.call) = history.map Commit.answer

theorem explains_nil (start : σ) : component.Explains start ([] : List (Commit κ ι ο)) start := ⟨rfl, rfl⟩

/-- One call explains the step that it takes. -/
theorem explains_singleton (caller : κ) (state : σ) (call : ι) :
    component.Explains state [⟨caller, call, (component state call).1⟩] (component state call).2 := ⟨rfl, rfl⟩

theorem Explains.append {front back : List (Commit κ ι ο)} (first : component.Explains start front middle)
    (second : component.Explains middle back final) : component.Explains start (front ++ back) final where
  reaches := by rw [List.map_append, after_append, first.reaches, second.reaches]
  answers := by
    rw [List.map_append, answers_append, first.reaches, first.answers, second.answers, List.map_append]

/-- Each answer of a history is the one that its call gets where it stands. -/
theorem Explains.answer {front back : List (Commit κ ι ο)} {commit : Commit κ ι ο}
    (explains : component.Explains start (front ++ commit :: back) state) :
    commit.answer = (component (component.after start (front.map Commit.call)) commit.call).1 := by
  have answers := explains.answers
  rw [List.map_append, answers_append, List.map_append, List.map_cons, List.map_cons, Component.answers] at answers
  have same : (component.answers start (front.map Commit.call)).length = (front.map Commit.answer).length := by
    rw [length_answers, List.length_map, List.length_map]
  exact (List.cons.inj (List.append_inj answers same).2).1.symm

theorem explains_cons {commit : Commit κ ι ο} {rest : List (Commit κ ι ο)} :
    component.Explains start (commit :: rest) final ↔ (component start commit.call).1 = commit.answer ∧
      component.Explains (component start commit.call).2 rest final := by
  constructor
  · rintro ⟨reaches, answers⟩
    obtain ⟨first, others⟩ := List.cons.inj answers
    exact ⟨first, reaches, others⟩
  · rintro ⟨first, reaches, others⟩
    refine ⟨reaches, ?_⟩
    rw [List.map_cons, List.map_cons, Component.answers, first, others]

/-- If some calls are made of another component and the others change nothing, the history
of the former explains the other component. -/
theorem Explains.hosted {ι' : Type v'} {hosted : Component σ ι' ο} {made : ι → Option ι'}
    (hidden : ∀ state call, made call = none → (component state call).2 = state)
    (shown : ∀ state call call', made call = some call' → component state call = hosted state call')
    {history : List (Commit κ ι ο)} (explains : component.Explains start history final) :
    hosted.Explains start (hostedCalls made history) final := by
  induction history generalizing start with
  | nil => exact ⟨explains.reaches, rfl⟩
  | cons commit rest ih =>
    obtain ⟨answer, later⟩ := explains_cons.mp explains
    cases call : made commit.call with
    | none =>
      rw [hostedCalls, List.filterMap_cons_none (by rw [call, Option.map_none])]
      rw [hidden start commit.call call] at later
      exact ih later
    | some call' =>
      rw [hostedCalls, List.filterMap_cons_some (by rw [call, Option.map_some])]
      rw [shown start commit.call call' call] at answer later
      exact explains_cons.mpr ⟨answer, ih later⟩

end Component

namespace Machine

variable {σ : Type u} {ℓ : Type v} {κ : Type w} {ι : Type x} {ο : Type y} {τ : Type z}
  {step : Machine σ ℓ} {commits : σ → ℓ → List (Commit κ ι ο)}

/-- What takes effect in the course of a run, in its order. -/
def history (step : Machine σ ℓ) (commits : σ → ℓ → List (Commit κ ι ο)) :
    σ → List ℓ → List (Commit κ ι ο)
  | _, [] => []
  | state, label :: rest =>
    commits state label ++ ((step state label).map fun next => history step commits next rest).getD []

theorem history_cons (taken : step state label = some next) : history step commits state (label :: rest) =
    commits state label ++ history step commits next rest := by
  rw [history, taken, Option.map_some, Option.getD_some]

/-- What took effect stays where it is when the run goes on. -/
theorem history_append (reached : run step state front = some middle) (back : List ℓ) :
    history step commits state (front ++ back) =
      history step commits state front ++ history step commits middle back := by
  induction front generalizing state with
  | nil =>
    obtain rfl := Option.some.inj reached
    rfl
  | cons label rest ih =>
    obtain ⟨next, taken, later⟩ := run_cons reached
    rw [List.cons_append, history_cons taken, history_cons taken, ih later, List.append_assoc]

/-- What takes effect in a step explains what the step does to the sequential state,
as long as an invariant of the machine holds. -/
structure Linearizes (step : Machine σ ℓ) (commits : σ → ℓ → List (Commit κ ι ο))
    (component : Component τ ι ο) (view : σ → τ) (keeps : σ → Prop) : Prop where
  preserved : ∀ {state label next}, keeps state → step state label = some next → keeps next
  explained : ∀ {state label next}, keeps state → step state label = some next →
    component.Explains (view state) (commits state label) (view next)

/-- The history of a run explains the sequential state at its end. -/
theorem Linearizes.explains {component : Component τ ι ο} {view : σ → τ} {keeps : σ → Prop}
    (linearizes : Linearizes step commits component view keeps) (holds : keeps state)
    (reached : run step state labels = some final) :
    component.Explains (view state) (history step commits state labels) (view final) := by
  induction labels generalizing state with
  | nil =>
    obtain rfl := Option.some.inj reached
    exact Component.explains_nil _
  | cons label rest ih =>
    obtain ⟨next, taken, later⟩ := run_cons reached
    rw [history_cons taken]
    exact (linearizes.explained holds taken).append (ih (linearizes.preserved holds taken) later)

/-- What every allowed step keeps true of the history so far, a run of them does. -/
theorem history_invariant {allowed : σ → ℓ → Prop} {keeps : List (Commit κ ι ο) → σ → Prop}
    (preserved : ∀ {past state label next}, allowed state label → keeps past state →
      step state label = some next → keeps (past ++ commits state label) next)
    (within : Within step allowed state labels) (holds : keeps past state)
    (reached : run step state labels = some final) :
    keeps (past ++ history step commits state labels) final := by
  induction labels generalizing past state with
  | nil =>
    obtain rfl := Option.some.inj reached
    rw [history, List.append_nil]
    exact holds
  | cons label rest ih =>
    obtain ⟨next, taken, later⟩ := run_cons reached
    rw [history_cons taken, ← List.append_assoc]
    exact ih (within.2 next taken) (preserved within.1 holds taken) later

/-! ### Each caller once -/

/-- What the callers have asked, and the answers that they have, are what the history
tells of them, each of them once. -/
structure Told (history : List (Commit κ ι ο)) (had : κ → Option (ι × ο)) : Prop where
  committed : ∀ commit ∈ history, had commit.caller = some (commit.call, commit.answer)
  present : ∀ {caller call answer}, had caller = some (call, answer) → ⟨caller, call, answer⟩ ∈ history
  once : (history.map Commit.caller).Nodup

theorem told_nil {had : κ → Option (ι × ο)} (nothing : ∀ caller, had caller = none) : Told [] had where
  committed := List.forall_mem_nil _
  present := fun found => by
    rw [nothing] at found
    cases found
  once := List.nodup_nil

/-- Nobody is answered, or one caller that was not answered before. -/
inductive Answers [DecidableEq κ] (before after : κ → Option (ι × ο)) : List (Commit κ ι ο) → Prop where
  | nobody (same : ∀ caller, after caller = before caller) : Answers before after []
  | one (commit : Commit κ ι ο) (waiting : before commit.caller = none)
      (update : ∀ caller, after caller =
        if caller = commit.caller then some (commit.call, commit.answer) else before caller) :
      Answers before after [commit]

theorem Told.append [DecidableEq κ] {past new : List (Commit κ ι ο)} {before after : κ → Option (ι × ο)}
    (told : Told past before) (answers : Answers before after new) : Told (past ++ new) after := by
  cases answers with
  | nobody same =>
    obtain rfl : after = before := funext same
    rwa [List.append_nil]
  | one commit waiting update =>
    have other : ∀ earlier ∈ past, earlier.caller ≠ commit.caller := by
      intro earlier member same
      have had := told.committed earlier member
      rw [same, waiting] at had
      cases had
    refine ⟨fun earlier member => ?_, fun {caller call answer} found => ?_, ?_⟩
    · obtain old | new := List.mem_append.mp member
      · rw [update, if_neg (other earlier old)]
        exact told.committed earlier old
      · rw [List.mem_singleton.mp new, update, if_pos rfl]
    · rw [update] at found
      by_cases own : caller = commit.caller
      · rw [if_pos own] at found
        cases found
        exact List.mem_append_right _ (own ▸ List.mem_singleton_self _)
      · rw [if_neg own] at found
        exact List.mem_append_left _ (told.present found)
    · rw [List.map_append, List.nodup_append]
      refine ⟨told.once, List.pairwise_singleton _ _, ?_⟩
      intro caller member last new
      obtain ⟨earlier, inside, rfl⟩ := List.mem_map.mp member
      rw [List.mem_singleton.mp new]
      exact other earlier inside

/-- Where each step answers nobody or one caller, the history of a run tells who was answered. -/
theorem told_run [DecidableEq κ] {had : σ → κ → Option (ι × ο)}
    (answers : ∀ {state label next}, step state label = some next →
      Answers (had state) (had next) (commits state label))
    (nothing : ∀ caller, had start caller = none) (reached : run step start labels = some final) :
    Told (history step commits start labels) (had final) := by
  let keeps (past : List (Commit κ ι ο)) (state : σ) : Prop := Told past (had state)
  have within : Within step (fun _ _ => True) start labels := within_of_labels (fun _ _ => trivial) _
  suffices kept : keeps ([] ++ history step commits start labels) final from kept
  exact history_invariant (fun _ (told : keeps _ _) taken => told.append (answers taken)) within (told_nil nothing)
    reached

/-- A commit stands at a point of the history where another caller has none. -/
def Precedes (history : List (Commit κ ι ο)) (commit : Commit κ ι ο) (other : κ) : Prop :=
  ∃ earlier later, history = earlier ++ later ∧ commit ∈ earlier ∧ other ∉ earlier.map Commit.caller

/-- What comes before a caller comes before its commit. -/
theorem Precedes.before {front back : List (Commit κ ι ο)} {one other : Commit κ ι ο}
    (precedes : Precedes (front ++ other :: back) one other.caller) : one ∈ front := by
  obtain ⟨earlier, later, split, early, absent⟩ := precedes
  obtain ⟨between, rfl, rest⟩ | ⟨between, rfl, _⟩ := List.append_eq_append_iff.mp split
  · cases between with
    | nil => simpa using early
    | cons head tail =>
      obtain ⟨rfl, _⟩ := List.cons.inj rest
      simp at absent
  · exact List.mem_append_left _ early

theorem Precedes.hosted {made : ι → Option ι'} {history : List (Commit κ ι ο)}
    (precedes : Precedes history ⟨caller, call, answer⟩ other) (kept : made call = some call') :
    Precedes (hostedCalls made history) ⟨caller, call', answer⟩ other := by
  obtain ⟨earlier, later, rfl, early, absent⟩ := precedes
  refine ⟨hostedCalls made earlier, hostedCalls made later, List.filterMap_append, ?_, ?_⟩
  · exact mem_hostedCalls.mpr ⟨call, kept, early⟩
  · exact fun member => absent ((callers_hostedCalls made earlier).subset member)

/-- What a caller has when another has nothing comes before the other. -/
theorem told_precedes [DecidableEq κ] {had : σ → κ → Option (ι × ο)}
    (answers : ∀ {state label next}, step state label = some next →
      Answers (had state) (had next) (commits state label))
    (nothing : ∀ caller, had start caller = none) (passing : run step start front = some middle)
    (answered : had middle one = some (call, answer)) (waiting : had middle other = none) (back : List ℓ) :
    Precedes (history step commits start (front ++ back)) ⟨one, call, answer⟩ other := by
  have soFar := told_run answers nothing passing
  refine ⟨_, _, history_append passing back, soFar.present answered, fun early => ?_⟩
  obtain ⟨commit, member, rfl⟩ := List.mem_map.mp early
  have had := soFar.committed commit member
  rw [waiting] at had
  cases had

end Machine

end X402Nockchain.Foundation
