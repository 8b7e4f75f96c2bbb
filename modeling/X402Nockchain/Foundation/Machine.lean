import Mathlib.Logic.Basic

/-! Labelled state machines and the induction over their runs. -/

namespace X402Nockchain.Foundation

/-- A machine takes a label in a state, or refuses it. -/
abbrev Machine (σ : Type u) (ℓ : Type v) := σ → ℓ → Option σ

namespace Machine

variable {σ : Type u} {ℓ : Type v} {step : Machine σ ℓ}

/-- Take the labels one after another. -/
def run (step : Machine σ ℓ) : σ → List ℓ → Option σ
  | state, [] => some state
  | state, label :: rest => (step state label).bind fun next => run step next rest

/-- Every label is taken in a state where `allowed` holds of it. -/
def Within (step : Machine σ ℓ) (allowed : σ → ℓ → Prop) : σ → List ℓ → Prop
  | _, [] => True
  | state, label :: rest =>
    allowed state label ∧ ∀ next, step state label = some next → Within step allowed next rest

theorem run_cons (reached : run step state (label :: rest) = some final) :
    ∃ next, step state label = some next ∧ run step next rest = some final :=
  Option.bind_eq_some_iff.mp reached

theorem run_step (taken : step state label = some next) (rest : List ℓ) :
    run step state (label :: rest) = run step next rest := by
  rw [run, taken, Option.bind_some]

theorem run_append : run step state (front ++ back) =
    (run step state front).bind fun middle => run step middle back := by
  induction front generalizing state with
  | nil => rfl
  | cons label rest ih =>
    change (step state label).bind _ = ((step state label).bind _).bind _
    cases step state label with
    | none => rfl
    | some next => exact ih

/-- A machine that is part of a larger one runs in it as it does alone. -/
theorem run_within {larger : Machine τ κ} (enter : σ → τ) (name : ℓ → κ)
    (steps : ∀ {state label next}, step state label = some next →
      larger (enter state) (name label) = some (enter next))
    (reached : run step state labels = some final) :
    run larger (enter state) (labels.map name) = some (enter final) := by
  induction labels generalizing state with
  | nil =>
    obtain rfl := Option.some.inj reached
    rfl
  | cons label rest ih =>
    obtain ⟨next, taken, later⟩ := run_cons reached
    rw [List.map_cons, run, steps taken, Option.bind_some]
    exact ih later

/-- A part of a larger machine runs as it does by itself. -/
theorem run_part {part : Machine τ κ} (view : σ → τ) (names : ℓ → List κ)
    (steps : ∀ {state label next}, step state label = some next →
      run part (view state) (names label) = some (view next))
    (reached : run step state labels = some final) :
    run part (view state) (labels.flatMap names) = some (view final) := by
  induction labels generalizing state with
  | nil =>
    obtain rfl := Option.some.inj reached
    rfl
  | cons label rest ih =>
    obtain ⟨next, taken, later⟩ := run_cons reached
    rw [List.flatMap_cons, run_append, steps taken, Option.bind_some]
    exact ih later

/-- What every allowed step preserves, every run of allowed steps preserves. -/
theorem invariant {allowed : σ → ℓ → Prop} {keeps : σ → Prop}
    (preserved : ∀ {state label next}, allowed state label → keeps state →
      step state label = some next → keeps next)
    (within : Within step allowed state labels) (holds : keeps state)
    (reached : run step state labels = some final) : keeps final := by
  induction labels generalizing state with
  | nil =>
    obtain rfl := Option.some.inj reached
    exact holds
  | cons label rest ih =>
    obtain ⟨next, taken, later⟩ := run_cons reached
    exact ih (within.2 next taken) (preserved within.1 holds taken) later

/-- Machines that take the same steps wherever an invariant holds have the same runs. -/
theorem run_congr {other : Machine σ ℓ} {keeps : σ → Prop}
    (preserved : ∀ {state label next}, keeps state → step state label = some next → keeps next)
    (same : ∀ {state label}, keeps state → step state label = other state label) (holds : keeps state)
    (labels : List ℓ) : run step state labels = run other state labels := by
  induction labels generalizing state with
  | nil => rfl
  | cons label rest ih =>
    rw [run, run, ← same holds]
    cases taken : step state label with
    | none => rfl
    | some next => exact ih (preserved holds taken)

theorem within_append {allowed : σ → ℓ → Prop} (first : Within step allowed state front)
    (then' : ∀ middle, run step state front = some middle → Within step allowed middle back) :
    Within step allowed state (front ++ back) := by
  induction front generalizing state with
  | nil => exact then' state rfl
  | cons label rest ih =>
    refine ⟨first.1, fun next taken => ih (first.2 next taken) fun middle reached => ?_⟩
    exact then' middle (by rw [run, taken, Option.bind_some, reached])

/-- A weaker condition is met by the same runs. -/
theorem Within.imp {allowed weaker : σ → ℓ → Prop} (within : Within step allowed state labels)
    (implies : ∀ state, ∀ label ∈ labels, allowed state label → weaker state label) :
    Within step weaker state labels := by
  induction labels generalizing state with
  | nil => trivial
  | cons label rest ih =>
    refine ⟨implies state label List.mem_cons_self within.1, fun next taken => ?_⟩
    exact ih (within.2 next taken) fun state label member =>
      implies state label (List.mem_cons_of_mem _ member)

/-- A condition on labels alone is met in whatever state they are taken. -/
theorem within_of_labels {allowed : ℓ → Prop} (each : ∀ label ∈ labels, allowed label) (state : σ) :
    Within step (fun _ => allowed) state labels := by
  induction labels generalizing state with
  | nil => trivial
  | cons label rest ih =>
    rw [List.forall_mem_cons] at each
    exact ⟨each.1, fun next _ => ih each.2 next⟩

/-- What no step brings back holds at the end only if it held at the start. -/
theorem held_before {holds : σ → Prop}
    (lost : ∀ {state label next}, step state label = some next → holds next → holds state)
    (reached : run step state labels = some final) (held : holds final) : holds state := by
  induction labels generalizing state with
  | nil =>
    obtain rfl := Option.some.inj reached
    exact held
  | cons label rest ih =>
    obtain ⟨next, taken, later⟩ := run_cons reached
    exact lost taken (ih later)

/-- A property that a step keeps exactly if it is allowed, and that no step brings
back, holds at the end exactly of the runs of allowed steps. -/
theorem holds_iff_within {allowed : σ → ℓ → Prop} (keeps : σ → Prop) {holds : σ → Prop}
    (preserved : ∀ {state label next}, keeps state → step state label = some next → keeps next)
    (exact' : ∀ {state label next}, keeps state → holds state → step state label = some next →
      (holds next ↔ allowed state label))
    (lost : ∀ {state label next}, step state label = some next → holds next → holds state)
    (kept : keeps state) (held : holds state) (reached : run step state labels = some final) :
    holds final ↔ Within step allowed state labels := by
  induction labels generalizing state with
  | nil =>
    obtain rfl := Option.some.inj reached
    exact iff_of_true held trivial
  | cons label rest ih =>
    obtain ⟨next, taken, later⟩ := run_cons reached
    have first := exact' kept held taken
    constructor
    · intro final
      have held := held_before lost later final
      refine ⟨first.mp held, fun next' taken' => ?_⟩
      obtain rfl := Option.some.inj (taken.symm.trans taken')
      exact (ih (preserved kept taken) held later).mp final
    · intro within
      exact (ih (preserved kept taken) (first.mpr within.1) later).mpr (within.2 next taken)

/-! ### The parties of a machine, in a list -/

variable {α : Type u} {β : Type v} {parties : List α} {held : α → Option β}

/-- What the parties hold once one of them has moved on. -/
theorem held_set (here : parties[index]? = some old) (new : α) (other : Nat) :
    (parties.set index new)[other]?.bind held =
      if other = index then held new else parties[other]?.bind held := by
  obtain ⟨bound, _⟩ := List.getElem?_eq_some_iff.mp here
  rw [List.getElem?_set]
  by_cases same : index = other
  · rw [if_pos same, if_pos bound, if_pos same.symm, Option.bind_some]
  · rw [if_neg same, if_neg (Ne.symm same)]

/-- A party that holds nothing has joined. -/
theorem held_concat (nothing : held new = none) (other : Nat) :
    (parties ++ [new])[other]?.bind held = parties[other]?.bind held := by
  rw [List.getElem?_append]
  by_cases within : other < parties.length
  · rw [if_pos within]
  · rw [if_neg within, List.getElem?_eq_none (Nat.not_lt.mp within), List.getElem?_singleton]
    split
    · exact nothing
    · rfl

/-- Parties that hold nothing have joined. -/
theorem held_append (nothing : ∀ party ∈ joined, held party = none) (other : Nat) :
    (parties ++ joined)[other]?.bind held = parties[other]?.bind held := by
  rw [List.getElem?_append]
  by_cases within : other < parties.length
  · rw [if_pos within]
  · rw [if_neg within, List.getElem?_eq_none (Nat.not_lt.mp within)]
    cases found : joined[other - parties.length]? with
    | none => rfl
    | some party => exact nothing party (List.mem_of_getElem? found)

end Machine

end X402Nockchain.Foundation
