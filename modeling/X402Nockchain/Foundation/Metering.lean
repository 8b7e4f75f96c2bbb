import X402Nockchain.Foundation.Component

/-! Components that are measured: beside its answer, a call leaves samples in a log. -/

namespace X402Nockchain.Foundation.Component

variable {σ : Type u} {ι : Type v} {ο : Type w} {μ : Type x}

/-- A measured component, with the log that its samples go to. -/
def recording (measured : Component σ ι (ο × List μ)) : Component (σ × List μ) ι ο :=
  fun (state, log) call =>
    let ((answer, samples), next) := measured state call
    (answer, (next, log ++ samples))

/-- The samples that a sequence of calls leaves. -/
def samples (measured : Component σ ι (ο × List μ)) (state : σ) (calls : List ι) : List μ :=
  (measured.answers state calls).flatMap Prod.snd

/-- What every call preserves, every sequence of calls preserves. -/
theorem after_keeps {component : Component σ ι ο} {keeps : σ → Prop}
    (preserved : ∀ {state} call, keeps state → keeps (component state call).2) (calls : List ι)
    (holds : keeps start) : keeps (component.after start calls) := by
  induction calls generalizing start with
  | nil => exact holds
  | cons call rest ih => exact ih (preserved call holds)

variable {measured : Component σ ι (ο × List μ)} {plain : Component σ ι ο}

theorem recording_after (state : σ) (log : List μ) (calls : List ι) :
    measured.recording.after (state, log) calls =
      (measured.after state calls, log ++ measured.samples state calls) := by
  induction calls generalizing state log with
  | nil => exact congrArg (Prod.mk state) (List.append_nil log).symm
  | cons call rest ih =>
    rw [after, after, samples, answers, List.flatMap_cons, ← List.append_assoc]
    exact ih (measured state call).2 (log ++ (measured state call).1.2)

theorem recording_answers (state : σ) (log : List μ) (calls : List ι) :
    measured.recording.answers (state, log) calls = (measured.answers state calls).map Prod.fst := by
  induction calls generalizing state log with
  | nil => rfl
  | cons call rest ih => exact congrArg (List.cons _) (ih (measured state call).2 _)

/-- Measuring changes nothing: without the samples, this is `plain`. -/
def Measures (measured : Component σ ι (ο × List μ)) (plain : Component σ ι ο) : Prop :=
  ∀ state call, ((measured state call).1.1, (measured state call).2) = plain state call

namespace Measures

theorem answer (measures : Measures measured plain) (state : σ) (call : ι) :
    (measured state call).1.1 = (plain state call).1 := congrArg Prod.fst (measures state call)

theorem next (measures : Measures measured plain) (state : σ) (call : ι) :
    (measured state call).2 = (plain state call).2 := congrArg Prod.snd (measures state call)

theorem after (measures : Measures measured plain) (state : σ) (calls : List ι) :
    measured.after state calls = plain.after state calls := by
  induction calls generalizing state with
  | nil => rfl
  | cons call rest ih => rw [Component.after, Component.after, measures.next, ih]

theorem answers (measures : Measures measured plain) (state : σ) (calls : List ι) :
    (measured.answers state calls).map Prod.fst = plain.answers state calls := by
  induction calls generalizing state with
  | nil => rfl
  | cons call rest ih =>
    rw [Component.answers, Component.answers, List.map_cons, measures.answer, measures.next, ih]

/-- A sample that a call leaves exactly if its answer reports it is counted as often as
it is reported. -/
theorem count [DecidableEq μ] (measures : Measures measured plain) {sample : μ} {reports : ο → Bool}
    (told : ∀ state call, (measured state call).1.2.count sample = (reports (plain state call).1).toNat)
    (state : σ) (calls : List ι) :
    (measured.samples state calls).count sample = (plain.answers state calls).countP reports := by
  induction calls generalizing state with
  | nil => rfl
  | cons call rest ih =>
    have later := ih (plain state call).2
    rw [samples, Component.answers, List.flatMap_cons, List.count_append, told, Component.answers,
      List.countP_cons, measures.next, ← later, Nat.add_comm]
    cases reports (plain state call).1 <;> rfl

end Measures

/-- Samples that no call leaves are not in the log. -/
theorem samples_within {within : μ → Prop}
    (each : ∀ state call, ∀ sample ∈ (measured state call).1.2, within sample) (state : σ) (calls : List ι) :
    ∀ sample ∈ measured.samples state calls, within sample := by
  induction calls generalizing state with
  | nil => exact List.forall_mem_nil _
  | cons call rest ih =>
    rw [samples, answers, List.flatMap_cons, List.forall_mem_append]
    exact ⟨each state call, ih (measured state call).2⟩

end X402Nockchain.Foundation.Component
