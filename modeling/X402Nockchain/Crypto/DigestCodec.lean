import X402Nockchain.Crypto.Belts
import Mathlib.Algebra.BigOperators.Fin

/-! Base58 texts and five-belt digests. Each direction is a loop over big
integers; the number that a text spells relates them. -/

namespace X402Nockchain.Crypto

open Foundation X402Types

/-- The five belts are the base-`prime` digits of the number, least significant first. -/
structure Digits (value : Nat) (belts : List.Vector Belt 5) : Prop where
  digit : ∀ place : Fin 5, (belts.get place).toNat = value / prime ^ place.val % prime
  reduced : ∀ place : Fin 5, (belts.get place).toNat < prime
  spells : ∑ place : Fin 5, (belts.get place).toNat * prime ^ place.val = value

theorem ofDigits_eq_sum (base : Nat) (belts : List.Vector Belt count) :
    Nat.ofDigits base (belts.toList.map UInt64.toNat) =
      ∑ place : Fin count, (belts.get place).toNat * base ^ place.val := by
  induction count with
  | zero =>
    rw [List.Vector.eq_nil belts]
    rfl
  | succ count ih =>
    rw [← belts.cons_head_tail, List.Vector.toList_cons, List.map_cons, Nat.ofDigits_cons, ih,
      Fin.sum_univ_succ, Finset.mul_sum]
    congr 1
    · simp
    · refine Finset.sum_congr rfl fun place _ => ?_
      simp only [List.Vector.get_cons_succ, Fin.val_succ, Nat.pow_succ]
      ring

theorem get_beltsOf (place : Fin count) :
    ((beltsOf count value).get place).toNat = value / prime ^ place.val % prime := by
  have digits := toNat_beltsOf count value
  rw [List.Vector.get_eq_get_toList, List.get_eq_getElem]
  rw [← getElem_limbs prime place.val (show place.val < (limbs prime count value).length by simp)]
  simp [← digits]

theorem digits_beltsOf (fits : value < prime ^ 5) : Digits value (beltsOf 5 value) where
  digit place := get_beltsOf place
  reduced place := by
    rw [get_beltsOf place]
    exact Nat.mod_lt _ prime_pos
  spells := by rw [← ofDigits_eq_sum, toNat_beltsOf, ofDigits_limbs_of_lt fits]

/-- `base58_to_belts`, by the number that its text spells. -/
theorem base58ToBelts_eq (text field : String) : base58ToBelts text field =
    ((Base58.textValue text).mapError (.base58 field) >>= fun value =>
      if value < prime ^ 5 then .ok (beltsOf 5 value) else .error (.overflow field)) := by
  rw [← Base58.decode_value]
  unfold base58ToBelts
  cases Base58.decode text with
  | error reason => rfl
  | ok bytes =>
    simp only [Outcome.mapError_of_ok, Outcome.map_of_ok, Outcome.ok_bind, takeBelts_eq]
    generalize Base58.fromBeBytes bytes = value
    by_cases fits : value < prime ^ 5
    · have spent : ¬ 0 < value / prime ^ 5 := by simp [Nat.div_eq_of_lt fits]
      simp only [ensure, spent, fits, if_true, not_false_eq_true, Outcome.ok_bind]
      rfl
    · have remains : 0 < value / prime ^ 5 := Nat.div_pos (Nat.le_of_not_lt fits) (by decide)
      simp only [ensure, remains, fits, if_false, not_true_eq_false]
      rfl

/-- The digest of a text is spelled without the text's leading `1`s. -/
theorem pkhBeltsToBase58_of_text (accepted : base58ToBelts text field = .ok belts) :
    (pkhBeltsToBase58 belts).toList = Base58.stripped text := by
  obtain ⟨value, spelled, fits, digits⟩ := base58ToBelts_ok_iff.mp accepted
  have written := textValue_pkhBeltsToBase58 belts
  rw [← digits, toNat_beltsOf, ofDigits_limbs_of_lt fits, digits] at written
  calc
    (pkhBeltsToBase58 belts).toList = Base58.stripped (pkhBeltsToBase58 belts) := by
      rw [pkhBeltsToBase58_eq, Base58.stripped_encode_toBeBytes]
    _ = Base58.stripped text := Base58.stripped_eq_of_value written spelled

/-- What the two directions of the codec do. No round of the decoder fails to
parse its remainder, so overflow is the number not fitting. -/
theorem base58_digest_codec :
    (∀ text field value, Base58.textValue text = .ok value → value < prime ^ 5 →
      ∃ belts, base58ToBelts text field = .ok belts ∧ Digits value belts) ∧
    (∀ text field value, Base58.textValue text = .ok value → prime ^ 5 ≤ value →
      base58ToBelts text field = .error (.overflow field)) ∧
    (∀ text field reason, Base58.textValue text = .error reason →
      base58ToBelts text field = .error (.base58 field reason)) ∧
    (∀ value, Decimal.parseU64 (toString (value % prime)) = some (UInt64.ofNat (value % prime))) ∧
    (∀ belts, (∀ belt ∈ belts.toList, belt.toNat < prime) →
      ∀ field, base58ToBelts (pkhBeltsToBase58 belts) field = .ok belts) ∧
    ∀ text field belts, base58ToBelts text field = .ok belts →
      (pkhBeltsToBase58 belts).toList = Base58.stripped text ∧
      (pkhBeltsToBase58 belts = text ↔ text.toList.head? ≠ some '1') := by
  refine ⟨?_, ?_, ?_, ?_, fun belts => base58ToBelts_pkhBeltsToBase58, ?_⟩
  · intro text field value spelled fits
    refine ⟨beltsOf 5 value, ?_, digits_beltsOf fits⟩
    exact base58ToBelts_ok_iff.mpr ⟨value, spelled, fits, rfl⟩
  · intro text field value spelled large
    rw [base58ToBelts_eq, spelled, Outcome.mapError_of_ok, Outcome.ok_bind,
      if_neg (Nat.not_lt.mpr large)]
  · intro text field reason refused
    rw [base58ToBelts_eq, refused]
    rfl
  · intro value
    exact Decimal.parseU64_toString_of_lt (Nat.lt_trans (Nat.mod_lt value prime_pos) prime_lt)
  · intro text field belts accepted
    have written := pkhBeltsToBase58_of_text accepted
    refine ⟨written, ?_⟩
    rw [← Base58.stripped_eq_self_iff, ← String.toList_inj, written]

/-- The zero digest is the empty text, and a text with leading `1`s loses them. -/
theorem base58_digest_codec_zero :
    base58ToBelts (pkhBeltsToBase58 (.replicate 5 0)) "from" = .ok (.replicate 5 0) ∧
    ∃ belts, base58ToBelts "11B" "from" = .ok belts ∧ Digits 10 belts ∧
      (pkhBeltsToBase58 belts).toList = ['B'] := by
  obtain ⟨accepts, _, _, _, inverse, respells⟩ := base58_digest_codec
  obtain ⟨belts, accepted, digits⟩ := accepts "11B" "from" 10 (by decide) (by decide)
  have zero : ∀ belt ∈ (List.Vector.replicate 5 (0 : Belt)).toList, belt.toNat < prime := fun belt member =>
    List.eq_of_mem_replicate member ▸ prime_pos
  refine ⟨inverse (.replicate 5 0) zero "from", belts, accepted, digits, ?_⟩
  exact (respells "11B" "from" belts accepted).1

end X402Nockchain.Crypto
