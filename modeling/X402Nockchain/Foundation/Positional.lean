import Mathlib.Data.List.Lex
import Mathlib.Data.Nat.Digits.Lemmas
import Mathlib.Tactic.Ring

/-! Numerals as words. Digit lists, most significant digit first, are compared as
words are; how that order relates to the numbers depends on their lengths. -/

namespace X402Nockchain.Foundation

/-- The digits of a number, most significant first, without leading zeros. -/
def numeral (base value : Nat) : List Nat := (Nat.digits base value).reverse

theorem ofDigits_reverse_cons (base head : Nat) (rest : List Nat) :
    Nat.ofDigits base (head :: rest).reverse =
      head * base ^ rest.length + Nat.ofDigits base rest.reverse := by
  rw [List.reverse_cons, Nat.ofDigits_append, List.length_reverse, Nat.ofDigits_singleton]
  ring

theorem ofDigits_reverse_lt (wide : 1 < base) {digits : List Nat} (bounded : ∀ digit ∈ digits, digit < base) :
    Nat.ofDigits base digits.reverse < base ^ digits.length := by
  have fits := Nat.ofDigits_lt_base_pow_length wide fun digit member =>
    bounded digit (List.mem_reverse.mp member)
  rwa [List.length_reverse] at fits

/-- Leading digits decide, and equal ones leave the rest to decide. -/
theorem mul_add_lt_iff {width a b : Nat} (left : r < width) (right : s < width) :
    a * width + r < b * width + s ↔ a < b ∨ a = b ∧ r < s := by
  rcases Nat.lt_trichotomy a b with below | same | above
  · have room : (a + 1) * width ≤ b * width := Nat.mul_le_mul_right width below
    rw [Nat.succ_mul] at room
    exact iff_of_true (by omega) (.inl below)
  · subst same
    simp
  · have room : (b + 1) * width ≤ a * width := Nat.mul_le_mul_right width above
    rw [Nat.succ_mul] at room
    exact iff_of_false (by omega) (by omega)

/-- Against a longer word, the shorter one counts as if it were filled up with zeros. -/
theorem word_lt_iff (wide : 1 < base) {xs ys : List Nat} (left : ∀ digit ∈ xs, digit < base)
    (right : ∀ digit ∈ ys, digit < base) (shorter : xs.length ≤ ys.length) :
    ys < xs ↔ Nat.ofDigits base ys.reverse <
      Nat.ofDigits base xs.reverse * base ^ (ys.length - xs.length) := by
  induction xs generalizing ys with
  | nil => simp
  | cons x xs ih =>
    cases ys with
    | nil => simp at shorter
    | cons y ys =>
      have shorter' : xs.length ≤ ys.length := by simpa using shorter
      have leftLater : ∀ digit ∈ xs, digit < base := fun digit member => left digit (by simp [member])
      have rightLater : ∀ digit ∈ ys, digit < base := fun digit member => right digit (by simp [member])
      have filled : base ^ xs.length * base ^ (ys.length - xs.length) = base ^ ys.length := by
        rw [← Nat.pow_add, Nat.add_sub_cancel' shorter']
      have fits : Nat.ofDigits base xs.reverse * base ^ (ys.length - xs.length) < base ^ ys.length := by
        rw [← filled]
        exact Nat.mul_lt_mul_of_pos_right (ofDigits_reverse_lt wide leftLater) (Nat.pow_pos (by omega))
      rw [List.cons_lt_cons_iff, ih leftLater rightLater shorter', ofDigits_reverse_cons,
        ofDigits_reverse_cons, List.length_cons, List.length_cons, Nat.add_sub_add_right, Nat.add_mul,
        Nat.mul_assoc, filled, mul_add_lt_iff (ofDigits_reverse_lt wide rightLater) fits]

theorem numeral_lt_base (wide : 1 < base) : ∀ digit ∈ numeral base value, digit < base :=
  fun _ member => Nat.digits_lt_base wide (List.mem_reverse.mp member)

theorem ofDigits_numeral (base value : Nat) : Nat.ofDigits base (numeral base value).reverse = value := by
  rw [numeral, List.reverse_reverse, Nat.ofDigits_digits]

theorem numeral_injective (base : Nat) : Function.Injective (numeral base) := by
  intro x y same
  rw [← ofDigits_numeral base x, same, ofDigits_numeral]

theorem length_numeral_le (base : Nat) (below : x ≤ y) : (numeral base x).length ≤ (numeral base y).length := by
  rw [numeral, numeral, List.length_reverse, List.length_reverse]
  exact Nat.le_length_digits_le base x y below

/-- The numeral of a smaller number comes first unless the number, moved up to
the length of the other numeral, exceeds the other number. -/
theorem numeral_lt_iff (wide : 1 < base) (below : x < y) :
    numeral base x < numeral base y ↔
      x * base ^ ((numeral base y).length - (numeral base x).length) ≤ y := by
  have differ : numeral base x ≠ numeral base y := fun same => Nat.ne_of_lt below (numeral_injective base same)
  have shorter := length_numeral_le base (Nat.le_of_lt below)
  have after := word_lt_iff wide (numeral_lt_base wide) (numeral_lt_base wide) shorter
  rw [ofDigits_numeral, ofDigits_numeral] at after
  rw [← not_lt, ← after, not_lt]
  exact ⟨le_of_lt, fun before => lt_of_le_of_ne before differ⟩

theorem numeral_not_lt_iff (base : Nat) (differ : x ≠ y) :
    ¬ numeral base x < numeral base y ↔ numeral base y < numeral base x :=
  not_lt.trans ((numeral_injective base).ne differ).symm.le_iff_lt

/-- Words over other symbols are ordered as their digits are. -/
theorem map_word_lt_iff [LT α] [LT β] {f : α → β} {xs ys : List α}
    (symbols : ∀ a ∈ xs, ∀ b ∈ ys, (f a < f b ↔ a < b) ∧ (f a = f b ↔ a = b)) :
    xs.map f < ys.map f ↔ xs < ys := by
  induction xs generalizing ys with
  | nil => cases ys <;> simp
  | cons x xs ih =>
    cases ys with
    | nil => simp
    | cons y ys =>
      have head := symbols x (by simp) y (by simp)
      have later : xs.map f < ys.map f ↔ xs < ys :=
        ih fun a inA b inB => symbols a (by simp [inA]) b (by simp [inB])
      rw [List.map_cons, List.map_cons, List.cons_lt_cons_iff, List.cons_lt_cons_iff, head.1, head.2, later]

end X402Nockchain.Foundation
