import Mathlib.Algebra.Group.Nat.Defs

/-! Rust's `str::parse` for unsigned integers, and its inverse `to_string`. -/

namespace X402Nockchain.Foundation.Decimal

/-- `<unsigned>::from_str`: an optional leading `+`, then one or more ASCII
digits whose value stays below `bound`. A lone sign and a minus are rejected. -/
def parseDigits (bound : Nat) (digits : List Char) : Option Nat :=
  if digits ≠ [] ∧ digits.all Char.isDigit ∧ Nat.ofDigitChars 10 digits 0 < bound then
    some (Nat.ofDigitChars 10 digits 0)
  else none

def parseUnsigned (bound : Nat) (text : String) : Option Nat :=
  match text.toList with
  | '+' :: digits => parseDigits bound digits
  | digits => parseDigits bound digits

def parseU64 (text : String) : Option UInt64 := (parseUnsigned (2 ^ 64) text).map UInt64.ofNat

/-- A `u128` is kept as the natural number it denotes. -/
def parseU128 (text : String) : Option Nat := parseUnsigned (2 ^ 128) text

/-- The number of a decimal text of any size, without a sign. -/
def decimalNumber (text : String) : Option Nat :=
  if text.toList ≠ [] ∧ text.toList.all Char.isDigit then some (Nat.ofDigitChars 10 text.toList 0)
  else none

theorem parseDigits_toDigits (below : value < bound) :
    parseDigits bound (Nat.toDigits 10 value) = some value := by
  have digits : (Nat.toDigits 10 value).all Char.isDigit = true :=
    List.all_eq_true.mpr fun _ member => Nat.isDigit_of_mem_toDigits (by decide) (by decide) member
  unfold parseDigits
  rw [Nat.ofDigitChars_ten_toDigits, if_pos ⟨Nat.toDigits_ne_nil, digits, below⟩]

theorem toDigits_no_sign (value : Nat) (rest : List Char) : Nat.toDigits 10 value ≠ '+' :: rest := by
  intro signed
  have digit : '+'.isDigit = true :=
    Nat.isDigit_of_mem_toDigits (b := 10) (n := value) (by decide) (by decide) (by simp [signed])
  exact absurd digit (by decide)

/-- `to_string` followed by `parse` gives the number back. -/
theorem parseUnsigned_toString (below : value < bound) :
    parseUnsigned bound (toString value) = some value := by
  unfold parseUnsigned
  rw [Nat.toString_eq_ofList_toDigits, String.toList_ofList]
  split
  · rename_i rest signed
    exact absurd signed (toDigits_no_sign value rest)
  · exact parseDigits_toDigits below

@[simp] theorem parseU64_toString (value : UInt64) : parseU64 (toString value.toNat) = some value := by
  unfold parseU64
  rw [parseUnsigned_toString value.toNat_lt, Option.map_some, UInt64.ofNat_toNat]

theorem parseDigits_mono (wider : bound ≤ bound') (parsed : parseDigits bound digits = some value) :
    parseDigits bound' digits = some value := by
  unfold parseDigits at parsed ⊢
  split at parsed
  · rename_i accepted
    rw [if_pos ⟨accepted.1, accepted.2.1, Nat.lt_of_lt_of_le accepted.2.2 wider⟩]
    exact parsed
  · cases parsed

/-- A wider integer type parses whatever a narrower one does. -/
theorem parseUnsigned_mono (wider : bound ≤ bound') (parsed : parseUnsigned bound text = some value) :
    parseUnsigned bound' text = some value := by
  unfold parseUnsigned at parsed ⊢
  split at parsed <;> exact parseDigits_mono wider parsed

theorem parseU128_of_parseU64 {small : UInt64} (parsed : parseU64 text = some small) :
    ∃ value, parseU128 text = some value := by
  obtain ⟨value, parsed, _⟩ := Option.map_eq_some_iff.mp parsed
  exact ⟨value, parseUnsigned_mono (by decide) parsed⟩

/-- `u64::to_string`. -/
def u64ToString (value : UInt64) : String := toString value.toNat

@[simp] theorem parseU64_u64ToString (value : UInt64) : parseU64 (u64ToString value) = some value :=
  parseU64_toString value

theorem parseU64_toString_of_lt (below : value < 2 ^ 64) :
    parseU64 (toString value) = some (UInt64.ofNat value) := by
  unfold parseU64
  rw [parseUnsigned_toString below, Option.map_some]

@[simp] theorem parseU64_zero : parseU64 "0" = some 0 := by decide

@[simp] theorem parseU128_zero : parseU128 "0" = some 0 := by decide

example : parseU64 "+0018" = some 18 := by decide

end X402Nockchain.Foundation.Decimal
