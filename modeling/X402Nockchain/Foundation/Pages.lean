import Mathlib.Data.List.Infix
import Mathlib.Data.List.Nodup

/-! Reading a list page by page while it grows at its end. -/

namespace X402Nockchain.Foundation

variable {α : Type u} {start current received : List α} {offset : Nat}

/-- `limit` entries of a list, from an offset on. -/
def page (rows : List α) (offset limit : Nat) : List α := (rows.drop offset).take limit

theorem take_append_page (rows : List α) (offset limit : Nat) :
    rows.take offset ++ page rows offset limit = rows.take (offset + limit) := List.take_add.symm

/-- How far a walk has come through a list that has grown since it began. -/
structure Walked (start current received : List α) (offset : Nat) (finished : Bool) : Prop where
  grown : start <+: current
  inOrder : received <+: current
  going : finished = false → received.length = offset
  ended : finished = true → start <+: received

namespace Walked

theorem begin (start : List α) : Walked start start [] 0 false where
  grown := List.prefix_rfl
  inOrder := List.nil_prefix
  going := fun _ => rfl
  ended := nofun

/-- The list may grow between two pages, and after the last. -/
theorem grow (walked : Walked start current received offset finished) (later : current <+: next) :
    Walked start next received offset finished where
  grown := walked.grown.trans later
  inOrder := walked.inOrder.trans later
  going := walked.going
  ended := walked.ended

/-- One more page, the last one if it is short. -/
theorem turn (walked : Walked start current received offset false) (limit : Nat) :
    Walked start current (received ++ page current offset limit) (offset + limit)
      (decide ((page current offset limit).length < limit)) := by
  have read : received = current.take offset := by
    rw [← walked.going rfl]
    exact List.prefix_iff_eq_take.mp walked.inOrder
  have reads : received ++ page current offset limit = current.take (offset + limit) := by
    rw [read, take_append_page]
  refine ⟨walked.grown, ?_, ?_, ?_⟩
  · rw [reads]
    exact List.take_prefix _ _
  · intro full
    have full : limit ≤ (page current offset limit).length := by simpa using full
    have most : (page current offset limit).length ≤ limit := List.length_take_le _ _
    rw [List.length_append, walked.going rfl, Nat.le_antisymm most full]
  · intro short
    have short : (page current offset limit).length < limit := of_decide_eq_true short
    have last : current.length ≤ offset + limit := by
      rw [page, List.length_take, List.length_drop] at short
      omega
    rw [reads, List.take_of_length_le last]
    exact walked.grown

/-- A walk through a list at rest ends with the list. -/
theorem all (walked : Walked start start received offset true) : received = start :=
  walked.inOrder.eq_of_length_le (walked.ended rfl).length_le

/-- A walk that ended has what was there at its start once, and nothing twice. -/
theorem count [BEq α] [LawfulBEq α] (walked : Walked start current received offset true) (unique : current.Nodup) :
    (∀ row ∈ start, received.count row = 1) ∧ ∀ row, received.count row ≤ 1 := by
  have once := unique.sublist walked.inOrder.sublist
  constructor
  · intro row member
    exact List.count_eq_one_of_mem once ((walked.ended rfl).subset member)
  · exact List.nodup_iff_count_le_one.mp once

end Walked

end X402Nockchain.Foundation
