import Mathlib.Logic.Basic

/-! Success of a fallible computation, peeled apart one `?` at a time. -/

namespace X402Nockchain.Foundation

/-- `Option::ok_or`. -/
def okOr (error : ε) : Option α → Except ε α
  | none => .error error
  | some value => .ok value

/-- `if !condition { return Err(error) }`. -/
def ensure (condition : Prop) [Decidable condition] (error : ε) : Except ε Unit :=
  if condition then .ok () else .error error

/-- `anyhow::Context`: the text that is shown in place of the error. -/
def context (outcome : Except ε α) (text : String) : Except String α := outcome.mapError fun _ => text

namespace Outcome

@[simp] theorem bind_ok {first : Except ε α} {next : α → Except ε β} :
    (first >>= next) = .ok result ↔ ∃ value, first = .ok value ∧ next value = .ok result := by
  cases first <;> simp [bind, Except.bind]

@[simp] theorem map_ok {first : Except ε α} {f : α → β} :
    first.map f = .ok result ↔ ∃ value, first = .ok value ∧ f value = result := by
  cases first <;> simp [Except.map]

@[simp] theorem mapError_of_ok (value : α) (f : ε → δ) :
    (Except.ok value : Except ε α).mapError f = .ok value := rfl

@[simp] theorem mapError_ok {first : Except ε α} {f : ε → δ} :
    first.mapError f = .ok result ↔ first = .ok result := by
  cases first with
  | error e => exact ⟨nofun, nofun⟩
  | ok value => simp

@[simp] theorem pure_ok {value result : α} :
    (pure value : Except ε α) = .ok result ↔ value = result := by
  simp [pure, Except.pure]

@[simp] theorem okOr_ok {error : ε} {found : Option α} :
    okOr error found = .ok result ↔ found = some result := by
  cases found <;> simp [okOr]

@[simp] theorem ensure_ok {condition : Prop} [Decidable condition] {error : ε} {result : Unit} :
    ensure condition error = .ok result ↔ condition := by
  unfold ensure
  split <;> simp_all

/-! Computation, where the steps before are known to succeed. -/

@[simp] theorem ok_bind (value : α) (next : α → Except ε β) : (.ok value >>= next) = next value := rfl

@[simp] theorem map_of_ok (value : α) (f : α → β) :
    (Except.ok value : Except ε α).map f = .ok (f value) := rfl

@[simp] theorem context_of_ok (value : α) (text : String) :
    context (Except.ok value : Except ε α) text = .ok value := rfl

@[simp] theorem okOr_some (error : ε) (value : α) : okOr error (some value) = .ok value := rfl

@[simp] theorem context_ok {outcome : Except ε α} {text : String} :
    context outcome text = .ok result ↔ outcome = .ok result := mapError_ok

/-- A traversal succeeds once every element does. -/
theorem mapM_succeeds {f : α → Except ε β} {values : List α}
    (each : ∀ value ∈ values, ∃ image, f value = .ok image) : ∃ images, values.mapM f = .ok images := by
  induction values with
  | nil => exact ⟨[], rfl⟩
  | cons head rest ih =>
    rw [List.forall_mem_cons] at each
    obtain ⟨⟨image, first⟩, others⟩ := each
    obtain ⟨images, later⟩ := ih others
    refine ⟨image :: images, ?_⟩
    rw [List.mapM_cons, first, later]
    rfl

/-- Every element of a traversal that succeeds succeeds. -/
theorem mapM_each {f : α → Except ε β} {values : List α} (encoded : values.mapM f = .ok images) :
    ∀ value ∈ values, ∃ image, f value = .ok image := by
  induction values generalizing images with
  | nil => simp
  | cons head rest ih =>
    simp only [List.mapM_cons, bind_ok] at encoded
    obtain ⟨image, first, images', later, _⟩ := encoded
    exact List.forall_mem_cons.mpr ⟨⟨image, first⟩, ih later⟩

/-- A traversal is undone by one that undoes it on every element. -/
theorem mapM_inverse {encode : α → Except ε β} {decode : β → Except δ α} {values : List α}
    (each : ∀ value ∈ values, ∀ image, encode value = .ok image → decode image = .ok value)
    (encoded : values.mapM encode = .ok images) : images.mapM decode = .ok values := by
  induction values generalizing images with
  | nil =>
    rw [List.mapM_nil, pure_ok] at encoded
    subst encoded
    rfl
  | cons head rest ih =>
    rw [List.forall_mem_cons] at each
    simp only [List.mapM_cons, bind_ok, pure_ok] at encoded
    obtain ⟨image, first, rest', later, rfl⟩ := encoded
    simp only [List.mapM_cons, bind_ok, pure_ok]
    exact ⟨head, each.1 image first, rest, ih each.2 later, rfl⟩

/-- A traversal undoes a map whose every element it undoes. -/
theorem mapM_map_ok {decode : β → Except ε α} {encode : α → β} {values : List α}
    (each : ∀ value ∈ values, decode (encode value) = .ok value) :
    (values.map encode).mapM decode = .ok values := by
  induction values with
  | nil => rfl
  | cons head rest ih =>
    rw [List.forall_mem_cons] at each
    rw [List.map_cons, List.mapM_cons, each.1, ih each.2]
    rfl

/-- What every image keeps of its element, a traversal keeps of the list. -/
theorem mapM_kept {f : α → Except ε β} {before : α → γ} {after : β → γ} {values : List α}
    (each : ∀ value image, f value = .ok image → after image = before value)
    (encoded : values.mapM f = .ok images) : images.map after = values.map before := by
  induction values generalizing images with
  | nil =>
    rw [List.mapM_nil, pure_ok] at encoded
    subst encoded
    rfl
  | cons head rest ih =>
    simp only [List.mapM_cons, bind_ok, pure_ok] at encoded
    obtain ⟨image, first, images', later, rfl⟩ := encoded
    rw [List.map_cons, List.map_cons, each head image first, ih later]

/-! Failure of a computation: where it fails, and which errors it can have. -/

theorem bind_error {first : Except ε α} {next : α → Except ε β} : (first >>= next) = .error error ↔
    first = .error error ∨ ∃ value, first = .ok value ∧ next value = .error error := by
  cases first <;> simp [bind, Except.bind]

theorem pure_ne_error (value : α) (error : ε) : (pure value : Except ε α) ≠ .error error := nofun

theorem okOr_error {reason : ε} {found : Option α} :
    okOr reason found = .error error ↔ found = none ∧ reason = error := by
  cases found <;> simp [okOr]

theorem ensure_error {condition : Prop} [Decidable condition] {reason : ε} :
    ensure condition reason = .error error ↔ ¬ condition ∧ reason = error := by
  unfold ensure
  split <;> simp_all

/-- A computation fails with errors of one kind only. -/
def FailsOnly (kind : ε → Prop) (outcome : Except ε α) : Prop := ∀ error, outcome = .error error → kind error

theorem failsOnly_pure {kind : ε → Prop} (value : α) : FailsOnly kind (pure value) := nofun

theorem failsOnly_okOr {kind : ε → Prop} {reason : ε} (of : kind reason) (found : Option α) :
    FailsOnly kind (okOr reason found) := by
  intro error failed
  obtain ⟨_, rfl⟩ := okOr_error.mp failed
  exact of

theorem failsOnly_ensure {kind : ε → Prop} {reason : ε} (of : kind reason) (condition : Prop)
    [Decidable condition] : FailsOnly kind (ensure condition reason) := by
  intro error failed
  obtain ⟨_, rfl⟩ := ensure_error.mp failed
  exact of

theorem failsOnly_mapError {kind : ε → Prop} {f : δ → ε} (each : ∀ error, kind (f error))
    (outcome : Except δ α) : FailsOnly kind (outcome.mapError f) := by
  intro error failed
  cases outcome with
  | ok value => cases failed
  | error reason =>
    obtain rfl := Except.error.inj failed
    exact each reason

theorem failsOnly_bind {kind : ε → Prop} {first : Except ε α} {next : α → Except ε β}
    (firsts : FailsOnly kind first) (nexts : ∀ value, FailsOnly kind (next value)) :
    FailsOnly kind (first >>= next) := by
  intro error failed
  obtain failed | ⟨value, _, failed⟩ := bind_error.mp failed
  · exact firsts error failed
  · exact nexts value error failed

/-! Checks made one after another, of which the first that fails decides. -/

theorem forM_append (check : α → Except ε Unit) (first second : List α) :
    (first ++ second).forM check = (first.forM check >>= fun _ => second.forM check) := by
  simp only [List.forM_eq_forM, List.forM_append]

/-- A sequence of checks fails with the error of the first that does. -/
theorem forM_error_iff {check : α → Except ε Unit} {stages : List α} :
    stages.forM check = .error error ↔ ∃ before stage after, stages = before ++ stage :: after ∧
      (∀ earlier ∈ before, check earlier = .ok ()) ∧ check stage = .error error := by
  constructor
  · intro failed
    induction stages with
    | nil => cases failed
    | cons head rest ih =>
      rw [List.forM_eq_forM, List.forM_cons] at failed
      cases first : check head with
      | error reason =>
        rw [first] at failed
        obtain rfl := Except.error.inj failed
        exact ⟨[], head, rest, rfl, nofun, first⟩
      | ok done =>
        rw [first, ok_bind] at failed
        obtain ⟨before, stage, after, rfl, passed, fails⟩ := ih failed
        exact ⟨head :: before, stage, after, rfl, List.forall_mem_cons.mpr ⟨first, passed⟩, fails⟩
  · rintro ⟨before, stage, after, rfl, passed, fails⟩
    induction before with
    | nil =>
      rw [List.nil_append, List.forM_eq_forM, List.forM_cons, fails]
      rfl
    | cons head rest ih =>
      rw [List.forall_mem_cons] at passed
      rw [List.cons_append, List.forM_eq_forM, List.forM_cons, passed.1, ok_bind]
      exact ih passed.2

end Outcome

end X402Nockchain.Foundation
