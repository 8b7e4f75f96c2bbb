import Mathlib.Data.Nat.Digits.Lemmas

/-! Fixed-width digit expansions, least significant digit first. Mathlib's
`Nat.digits` has no width; codecs with a fixed number of limbs need one. -/

namespace X402Nockchain.Foundation

/-- The `count` low digits of `value` in base `base`. -/
def limbs (base : Nat) : Nat → Nat → List Nat
  | 0, _ => []
  | count + 1, value => value % base :: limbs base count (value / base)

@[simp] theorem length_limbs (base count value : Nat) : (limbs base count value).length = count := by
  induction count generalizing value with
  | zero => rfl
  | succ count ih => simp [limbs, ih]

theorem limbs_lt (positive : 0 < base) (member : digit ∈ limbs base count value) : digit < base := by
  induction count generalizing value with
  | zero => simp [limbs] at member
  | succ count ih =>
    rcases List.mem_cons.mp member with same | later
    · rw [same]
      exact Nat.mod_lt _ positive
    · exact ih later

theorem ofDigits_limbs (base count value : Nat) :
    Nat.ofDigits base (limbs base count value) = value % base ^ count := by
  induction count generalizing value with
  | zero => simp [limbs, Nat.mod_one]
  | succ count ih =>
    rw [limbs, Nat.ofDigits_cons, ih, pow_succ', Nat.mod_mul]

/-- A value that fits its width is read back from its limbs. -/
theorem ofDigits_limbs_of_lt (fits : value < base ^ count) :
    Nat.ofDigits base (limbs base count value) = value := by
  rw [ofDigits_limbs, Nat.mod_eq_of_lt fits]

theorem limbs_injective (left : a < base ^ count) (right : b < base ^ count)
    (same : limbs base count a = limbs base count b) : a = b := by
  have recovered := congrArg (Nat.ofDigits base) same
  rwa [ofDigits_limbs_of_lt left, ofDigits_limbs_of_lt right] at recovered

theorem getElem_limbs (base place : Nat) (inside : place < (limbs base count value).length) :
    (limbs base count value)[place] = value / base ^ place % base := by
  induction count generalizing value place with
  | zero => simp [limbs] at inside
  | succ count ih =>
    cases place with
    | zero => simp [limbs]
    | succ place =>
      have further : place < (limbs base count (value / base)).length := by simpa [limbs] using inside
      simp only [limbs, List.getElem_cons_succ]
      rw [ih place further, Nat.div_div_eq_div_mul, ← Nat.pow_succ']

/-- A limb of a wider base is a group of digits. -/
theorem getElem_limbs_ofDigits (positive : 0 < base) (bounded : ∀ digit ∈ digits, digit < base)
    (inside : place < (limbs (base ^ size) count (Nat.ofDigits base digits)).length) :
    (limbs (base ^ size) count (Nat.ofDigits base digits))[place] =
      Nat.ofDigits base ((digits.drop (size * place)).take size) := by
  have later : ∀ digit ∈ digits.drop (size * place), digit < base := fun digit member =>
    bounded digit (List.mem_of_mem_drop member)
  rw [getElem_limbs, ← Nat.pow_mul, Nat.ofDigits_div_pow_eq_ofDigits_drop _ positive _ bounded,
    Nat.ofDigits_mod_pow_eq_ofDigits_take _ positive _ later]

theorem limbs_cons (below : low < base) :
    limbs base (count + 1) (low + base * high) = low :: limbs base count high := by
  have positive : 0 < base := Nat.lt_of_le_of_lt (Nat.zero_le _) below
  rw [limbs, Nat.add_mul_mod_self_left, Nat.mod_eq_of_lt below, Nat.add_mul_div_left _ _ positive,
    Nat.div_eq_of_lt below, Nat.zero_add]

/-- Digits in range are the limbs of the number they spell. -/
theorem limbs_ofDigits (bounded : ∀ digit ∈ digits, digit < base) :
    limbs base digits.length (Nat.ofDigits base digits) = digits := by
  induction digits with
  | nil => rfl
  | cons head rest ih =>
    have below : head < base := bounded head (by simp)
    have later : ∀ digit ∈ rest, digit < base := fun digit member => bounded digit (by simp [member])
    rw [List.length_cons, Nat.ofDigits_cons, limbs_cons below, ih later]

end X402Nockchain.Foundation
