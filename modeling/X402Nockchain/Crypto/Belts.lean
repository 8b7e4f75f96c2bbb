import X402Nockchain.Crypto.SignMessage

/-! What the belts of `sign_message.rs` spell: `base58_to_belts` writes the number
of a text in base `prime`, and `pkh_belts_to_base58` is its inverse. -/

namespace X402Nockchain.Crypto

open Foundation X402Types

/-- The base-`prime` digits of a number, least significant first. -/
def beltsOf (count value : Nat) : List.Vector Belt count :=
  ⟨(limbs prime count value).map UInt64.ofNat, by simp⟩

theorem toNat_beltsOf (count value : Nat) :
    (beltsOf count value).toList.map UInt64.toNat = limbs prime count value := by
  change ((limbs prime count value).map UInt64.ofNat).map UInt64.toNat = _
  rw [List.map_map]
  calc
    (limbs prime count value).map (UInt64.toNat ∘ UInt64.ofNat) = (limbs prime count value).map id :=
      List.map_congr_left fun digit member => by
        have below := limbs_lt (by decide) member
        exact UInt64.toNat_ofNat_of_lt' (Nat.lt_trans below prime_lt)
    _ = limbs prime count value := List.map_id _

/-- Belts are the numbers that they carry. -/
theorem map_toNat_injective : Function.Injective (List.map UInt64.toNat) :=
  List.map_injective_iff.mpr fun _ _ => UInt64.toNat_inj.mp

theorem beltsOf_injective (left : a < prime ^ count) (right : b < prime ^ count)
    (same : beltsOf count a = beltsOf count b) : a = b := by
  apply limbs_injective left right
  rw [← toNat_beltsOf, ← toNat_beltsOf, same]

theorem takeBelts_eq (field : String) (count value : Nat) :
    takeBelts field count value = .ok (beltsOf count value, value / prime ^ count) := by
  induction count generalizing value with
  | zero => simp [takeBelts, beltsOf, limbs]; rfl
  | succ count ih =>
    have below := Nat.mod_lt value prime_pos
    simp only [takeBelts, Decimal.parseU64_toString_of_lt (Nat.lt_trans below prime_lt), okOr, ih,
      Nat.div_div_eq_div_mul, ← Nat.pow_succ', bind, Except.bind]
    rfl

/-- A base58 field is accepted when its number fits five belts, and its belts are
the digits of that number. -/
theorem base58ToBelts_ok_iff : base58ToBelts text field = .ok belts ↔
    ∃ value, Base58.textValue text = .ok value ∧ value < prime ^ 5 ∧ beltsOf 5 value = belts := by
  simp only [base58ToBelts, ← Base58.decode_value, takeBelts_eq, Outcome.bind_ok,
    Outcome.mapError_ok, Outcome.map_ok, Outcome.ensure_ok, Outcome.pure_ok, Except.ok.injEq]
  constructor
  · rintro ⟨bytes, decoded, _, rfl, _, small, rfl⟩
    refine ⟨_, ⟨bytes, decoded, rfl⟩, ?_, rfl⟩
    exact (Nat.div_eq_zero_iff_lt (by decide)).mp (Nat.eq_zero_of_not_pos small)
  · rintro ⟨_, ⟨bytes, decoded, rfl⟩, small, rfl⟩
    refine ⟨bytes, decoded, _, rfl, (), ?_, rfl⟩
    rw [Nat.div_eq_of_lt small]
    exact Nat.lt_irrefl 0

/-- Equal belts spell equal numbers. -/
theorem textValue_of_belts (left : base58ToBelts a field = .ok belts)
    (right : base58ToBelts b field' = .ok belts) : Base58.textValue a = Base58.textValue b := by
  obtain ⟨value, spelled, fits, digits⟩ := base58ToBelts_ok_iff.mp left
  obtain ⟨value', spelled', fits', digits'⟩ := base58ToBelts_ok_iff.mp right
  rw [spelled, spelled', beltsOf_injective fits fits' (digits.trans digits'.symm)]

theorem foldl_power (digits : List Belt) (value power : Nat) :
    (digits.foldl (fun (value, power) belt => (value + belt.toNat * power, power * prime))
      (value, power)).1 = value + power * Nat.ofDigits prime (digits.map UInt64.toNat) := by
  induction digits generalizing value power with
  | nil => simp
  | cons head rest ih =>
    rw [List.foldl_cons, ih, List.map_cons, Nat.ofDigits_cons]
    ring

theorem pkhBeltsToBase58_eq (belts : List.Vector Belt 5) : pkhBeltsToBase58 belts =
    Base58.encode (Base58.toBeBytes (Nat.ofDigits prime (belts.toList.map UInt64.toNat))) := by
  have folded := foldl_power belts.toList 0 1
  rw [Nat.zero_add, Nat.one_mul] at folded
  rw [← folded]
  rfl

@[simp] theorem textValue_pkhBeltsToBase58 (belts : List.Vector Belt 5) :
    Base58.textValue (pkhBeltsToBase58 belts) =
      .ok (Nat.ofDigits prime (belts.toList.map UInt64.toNat)) := by
  rw [pkhBeltsToBase58_eq, ← Base58.decode_value, Base58.decode_encode, Except.map,
    Base58.fromBeBytes_toBeBytes]

/-- Belts in the field come back from their base58 text. -/
theorem base58ToBelts_pkhBeltsToBase58 {belts : List.Vector Belt 5}
    (reduced : ∀ belt ∈ belts.toList, belt.toNat < prime) (field : String) :
    base58ToBelts (pkhBeltsToBase58 belts) field = .ok belts := by
  have bounded : ∀ digit ∈ belts.toList.map UInt64.toNat, digit < prime := by
    intro digit member
    obtain ⟨belt, member, same⟩ := List.mem_map.mp member
    rw [← same]
    exact reduced belt member
  have width : (belts.toList.map UInt64.toNat).length = 5 := by simp
  refine base58ToBelts_ok_iff.mpr ⟨_, textValue_pkhBeltsToBase58 belts, ?_, ?_⟩
  · have fits := Nat.ofDigits_lt_base_pow_length (by decide) bounded
    rwa [width] at fits
  · apply List.Vector.toList_injective
    apply map_toNat_injective
    have digits := limbs_ofDigits bounded
    rw [width] at digits
    rw [toNat_beltsOf, digits]

end X402Nockchain.Crypto
