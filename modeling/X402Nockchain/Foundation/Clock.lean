import Mathlib.Algebra.Group.Nat.Defs
import Mathlib.Tactic.Common

/-! Rust's `Duration`, and its 64-bit arithmetic that does not wrap. -/

namespace X402Nockchain.Foundation

/-- `std::time::Duration`. -/
structure Duration where
  secs : UInt64
  nanos : Nat := 0
  small : nanos < 1000000000 := by decide
  deriving DecidableEq

namespace Duration

def fromSecs (secs : UInt64) : Duration := { secs }

def asSecs (duration : Duration) : UInt64 := duration.secs

def asNanos (duration : Duration) : Nat := duration.secs.toNat * 1000000000 + duration.nanos

/-- Against a whole number of seconds only the whole seconds of a duration count. -/
theorem le_asNanos_iff (duration : Duration) (seconds : Nat) :
    seconds * 1000000000 ≤ duration.asNanos ↔ seconds ≤ duration.asSecs.toNat := by
  have small := duration.small
  unfold asNanos asSecs
  omega

end Duration

/-- `u64::saturating_add`. -/
def saturatingAdd (a b : UInt64) : UInt64 := UInt64.ofNat (min (a.toNat + b.toNat) (2 ^ 64 - 1))

/-- `u64::saturating_sub`. -/
def saturatingSub (a b : UInt64) : UInt64 := UInt64.ofNat (a.toNat - b.toNat)

@[simp] theorem toNat_saturatingAdd (a b : UInt64) :
    (saturatingAdd a b).toNat = min (a.toNat + b.toNat) (2 ^ 64 - 1) :=
  UInt64.toNat_ofNat_of_lt' (by change _ < 2 ^ 64; omega)

@[simp] theorem toNat_saturatingSub (a b : UInt64) :
    (saturatingSub a b).toNat = a.toNat - b.toNat :=
  UInt64.toNat_ofNat_of_lt' (by have := a.toNat_lt; change _ < 2 ^ 64; omega)

/-- `u64::checked_add`. -/
def checkedAdd (a b : UInt64) : Option UInt64 :=
  if a.toNat + b.toNat < 2 ^ 64 then some (a + b) else none

theorem checkedAdd_eq_some {a b sum : UInt64} :
    checkedAdd a b = some sum ↔ sum.toNat = a.toNat + b.toNat := by
  unfold checkedAdd
  by_cases fits : a.toNat + b.toNat < 2 ^ 64
  · rw [if_pos fits, Option.some.injEq, ← UInt64.toNat_inj, UInt64.toNat_add, Nat.mod_eq_of_lt fits]
    exact eq_comm
  · have := sum.toNat_lt
    simp only [if_neg fits, reduceCtorEq, false_iff]
    omega

end X402Nockchain.Foundation
