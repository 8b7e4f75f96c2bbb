import Mathlib.Data.List.Induction

/-! Components that answer every call, and when two of them answer alike. -/

namespace X402Nockchain.Foundation

/-- A component answers a call and moves on. -/
abbrev Component (σ : Type u) (ι : Type v) (ο : Type w) := σ → ι → ο × σ

namespace Component

variable {σ : Type u} {τ : Type u'} {ι : Type v} {ο : Type w}

/-- The answers to a sequence of calls. -/
def answers (component : Component σ ι ο) : σ → List ι → List ο
  | _, [] => []
  | state, call :: rest =>
    (component state call).1 :: answers component (component state call).2 rest

/-- `related` states give equal answers to an allowed call, and stay related. -/
def Simulates (left : Component σ ι ο) (right : Component τ ι ο) (allowed : ι → Prop)
    (related : σ → τ → Prop) : Prop :=
  ∀ state model call, allowed call → related state model →
    (left state call).1 = (right model call).1 ∧ related (left state call).2 (right model call).2

/-- From related states, a simulated component gives the same answers to every
sequence of allowed calls. -/
theorem answers_eq {left : Component σ ι ο} {right : Component τ ι ο} {allowed : ι → Prop}
    {related : σ → τ → Prop} (simulates : Simulates left right allowed related)
    (start : related state model) (each : ∀ call ∈ calls, allowed call) :
    answers left state calls = answers right model calls := by
  induction calls generalizing state model with
  | nil => rfl
  | cons call rest ih =>
    rw [List.forall_mem_cons] at each
    obtain ⟨same, next⟩ := simulates state model call each.1 start
    rw [answers, answers, same, ih next each.2]

/-- The state after a sequence of calls. -/
def after (component : Component σ ι ο) : σ → List ι → σ
  | state, [] => state
  | state, call :: rest => after component (component state call).2 rest

variable {component : Component σ ι ο}

theorem after_append (state : σ) (front back : List ι) :
    component.after state (front ++ back) = component.after (component.after state front) back := by
  induction front generalizing state with
  | nil => rfl
  | cons call rest ih => exact ih (component state call).2

/-- If a call leaves only what was there before and what it brings itself, then all
there is after a sequence of calls was brought by one of them. -/
theorem origin (holds : σ → List ρ → Prop) {brings : σ → ι → ρ → Prop}
    (grows : ∀ {state rows} call, holds state rows → ∃ rows', holds (component state call).2 rows' ∧
      ∀ row ∈ rows', row ∈ rows ∨ brings state call row)
    (empty : holds start []) (calls : List ι) : ∃ rows, holds (component.after start calls) rows ∧
      ∀ row ∈ rows, ∃ before call later, calls = before ++ call :: later ∧
        brings (component.after start before) call row := by
  induction calls using List.reverseRecOn with
  | nil => exact ⟨[], empty, List.forall_mem_nil _⟩
  | append_singleton earlier call ih =>
    obtain ⟨rows, held, origins⟩ := ih
    obtain ⟨rows', held', added⟩ := grows call held
    rw [after_append]
    refine ⟨rows', held', fun row member => ?_⟩
    obtain old | new := added row member
    · obtain ⟨before, call', later, rfl, brought⟩ := origins row old
      exact ⟨before, call', later ++ [call], List.append_assoc _ _ _, brought⟩
    · exact ⟨earlier, call, [], rfl, new⟩

/-- What a sequence of calls writes, where `writes` is what each of them writes. -/
def written (component : Component σ ι ο) (writes : σ → ι → List ρ) : σ → List ι → List ρ
  | _, [] => []
  | state, call :: rest => writes state call ++ written component writes (component state call).2 rest

theorem written_eq (component : Component σ ι ο) (writes : ι → List ρ) (state : σ) (calls : List ι) :
    component.written (fun _ => writes) state calls = calls.flatMap writes := by
  induction calls generalizing state with
  | nil => rfl
  | cons call rest ih => rw [written, List.flatMap_cons, ih]

/-- If each call adds what it writes to a history that the state keeps, a sequence of
calls adds what they write. -/
theorem after_written (keeps : σ → List ρ → Prop) {writes : σ → ι → List ρ} {allowed : ι → Prop}
    (adds : ∀ {state history} call, allowed call → keeps state history →
      keeps (component state call).2 (history ++ writes state call))
    (kept : keeps start history) (each : ∀ call ∈ calls, allowed call) :
    keeps (component.after start calls) (history ++ component.written writes start calls) := by
  induction calls generalizing start history with
  | nil => simpa only [after, written, List.append_nil] using kept
  | cons call rest ih =>
    rw [List.forall_mem_cons] at each
    rw [after, written, ← List.append_assoc]
    exact ih (adds call each.1 kept) each.2

/-- What was written was written by one of the calls, in the state that those before it left. -/
theorem mem_written_iff {writes : σ → ι → List ρ} {calls : List ι} : row ∈ component.written writes start calls ↔
    ∃ before call later, calls = before ++ call :: later ∧ row ∈ writes (component.after start before) call := by
  constructor
  · intro member
    induction calls generalizing start with
    | nil => cases member
    | cons call rest ih =>
      obtain now | later := List.mem_append.mp member
      · exact ⟨[], call, rest, rfl, now⟩
      · obtain ⟨before, call', after', rfl, wrote⟩ := ih later
        exact ⟨call :: before, call', after', rfl, wrote⟩
  · rintro ⟨before, call, later, rfl, wrote⟩
    induction before generalizing start with
    | nil => exact List.mem_append_left _ wrote
    | cons earlier rest ih => exact List.mem_append_right _ (ih wrote)

/-- A component that serves some of its calls as another one does, on a part of the
state that the other calls leave alone. -/
structure Hosts (component : Component σ ι ο) (hosted : Component τ κ ρ) (part : σ → τ)
    (seen : ι → Option κ) (view : ο → Option ρ) : Prop where
  hidden : ∀ state call, seen call = none →
    view (component state call).1 = none ∧ part (component state call).2 = part state
  shown : ∀ state call k, seen call = some k →
    view (component state call).1 = some (hosted (part state) k).1 ∧
      part (component state call).2 = (hosted (part state) k).2

/-- The answers to those calls are the ones that the hosted component gives by itself. -/
theorem Hosts.answers {hosted : Component τ κ ρ} {part : σ → τ} {seen : ι → Option κ} {view : ο → Option ρ}
    (hosts : Hosts component hosted part seen view) (state : σ) (calls : List ι) :
    (component.answers state calls).filterMap view = hosted.answers (part state) (calls.filterMap seen) := by
  induction calls generalizing state with
  | nil => rfl
  | cons call rest ih =>
    cases shows : seen call with
    | none =>
      obtain ⟨silent, kept⟩ := hosts.hidden state call shows
      rw [Component.answers, List.filterMap_cons_none silent, List.filterMap_cons_none shows, ih, kept]
    | some k =>
      obtain ⟨same, moved⟩ := hosts.shown state call k shows
      rw [Component.answers, List.filterMap_cons_some same, List.filterMap_cons_some shows, ih, moved]
      rfl

/-! ### Observers that see something of some of the calls -/

/-- What an observer sees of the answers to the calls that it sees. -/
def observed (component : Component σ ι ο) (seen : ι → Option κ) (view : ο → α) : σ → List ι → List α
  | _, [] => []
  | state, call :: rest =>
    let later := observed component seen view (component state call).2 rest
    match seen call with
    | some _ => view (component state call).1 :: later
    | none => later

/-- A call that the observer does not see leaves a state that looks alike, and
calls that look the same keep states that look alike. -/
structure Unwinding (component : Component σ ι ο) (seen : ι → Option κ) (alike : σ → σ → Prop) : Prop where
  equivalence : Equivalence alike
  hidden : ∀ state call, seen call = none → alike (component state call).2 state
  shown : ∀ state other call call' k, seen call = some k → seen call' = some k → alike state other →
    alike (component state call).2 (component other call').2

namespace Unwinding

variable {seen : ι → Option κ} {alike : σ → σ → Prop} {view : ο → α}

theorem after_hidden (unwinding : Unwinding component seen alike)
    (hidden : ∀ call ∈ calls, seen call = none) (state : σ) : alike (component.after state calls) state := by
  induction calls generalizing state with
  | nil => exact unwinding.equivalence.refl state
  | cons call rest ih =>
    rw [List.forall_mem_cons] at hidden
    exact unwinding.equivalence.trans (ih hidden.2 _) (unwinding.hidden state call hidden.1)

theorem observed_hidden (hidden : ∀ call ∈ front, seen call = none) (state : σ) (back : List ι) :
    component.observed seen view state (front ++ back) =
      component.observed seen view (component.after state front) back := by
  induction front generalizing state with
  | nil => rfl
  | cons call rest ih =>
    rw [List.forall_mem_cons] at hidden
    rw [List.cons_append, observed, hidden.1]
    exact ih hidden.2 _

/-- The same calls, as far as they are seen, lead to states that look alike. -/
theorem after (unwinding : Unwinding component seen alike)
    (same : left.filterMap seen = right.filterMap seen) (start : alike state other) :
    alike (component.after state left) (component.after other right) := by
  induction left generalizing state other right with
  | nil =>
    have hidden := List.filterMap_eq_nil_iff.mp same.symm
    exact unwinding.equivalence.trans start
      (unwinding.equivalence.symm (unwinding.after_hidden hidden other))
  | cons call rest ih =>
    cases shows : seen call with
    | none =>
      rw [List.filterMap_cons_none shows] at same
      exact ih same (unwinding.equivalence.trans (unwinding.hidden state call shows) start)
    | some k =>
      rw [List.filterMap_cons_some shows] at same
      obtain ⟨front, call', back, rfl, hidden, shows', later⟩ := List.filterMap_eq_cons_iff.mp same.symm
      have start : alike state (component.after other front) :=
        unwinding.equivalence.trans start
          (unwinding.equivalence.symm (unwinding.after_hidden hidden other))
      have next := ih later.symm (unwinding.shown state _ call call' k shows shows' start)
      rw [after_append]
      exact next

/-- The same calls, as far as they are seen, show the same of their answers. -/
theorem observed_eq (unwinding : Unwinding component seen alike)
    (answers : ∀ state other call call' k, seen call = some k → seen call' = some k →
      alike state other → view (component state call).1 = view (component other call').1)
    (same : left.filterMap seen = right.filterMap seen) (start : alike state other) :
    component.observed seen view state left = component.observed seen view other right := by
  induction left generalizing state other right with
  | nil =>
    have hidden := List.filterMap_eq_nil_iff.mp same.symm
    rw [← List.append_nil right, observed_hidden hidden]
    rfl
  | cons call rest ih =>
    cases shows : seen call with
    | none =>
      rw [List.filterMap_cons_none shows] at same
      rw [observed, shows]
      exact ih same (unwinding.equivalence.trans (unwinding.hidden state call shows) start)
    | some k =>
      rw [List.filterMap_cons_some shows] at same
      obtain ⟨front, call', back, rfl, hidden, shows', later⟩ := List.filterMap_eq_cons_iff.mp same.symm
      have start : alike state (component.after other front) :=
        unwinding.equivalence.trans start
          (unwinding.equivalence.symm (unwinding.after_hidden hidden other))
      have first := answers state _ call call' k shows shows' start
      have rest := ih later.symm (unwinding.shown state _ call call' k shows shows' start)
      simp only [observed_hidden hidden, observed, shows, shows', first, rest]

end Unwinding

end Component

end X402Nockchain.Foundation
