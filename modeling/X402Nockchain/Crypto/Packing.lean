import X402Nockchain.Crypto.Belts

/-! How `bytes_to_belts` packs a byte string, and which byte strings it packs alike. -/

namespace X402Nockchain.Crypto

open Foundation

/-- A byte string, filled up with zeros to the next multiple of seven beyond it. -/
def padded (bytes : List UInt8) : List UInt8 :=
  bytes ++ List.replicate (7 * (bytes.length / 7 + 1) - bytes.length) 0

/-- The belts are the little-endian digits, seven bytes each, of the padded string. -/
structure Packed (bytes : List UInt8) (belts : List Belt) : Prop where
  count : belts.length = bytes.length / 7 + 1
  small : ∀ belt ∈ belts, belt.toNat < 2 ^ 56
  digit : ∀ place (inside : place < belts.length), belts[place].toNat =
    Nat.ofDigits 256 ((((padded bytes).drop (7 * place)).take 7).map UInt8.toNat)

/-- The number that a byte string spells, least significant byte first. -/
def littleEndian (bytes : List UInt8) : Nat := Nat.ofDigits 256 (bytes.map UInt8.toNat)

theorem littleEndian_lt (bytes : List UInt8) : littleEndian bytes < 256 ^ bytes.length := by
  have fits := Nat.ofDigits_lt_base_pow_length (by decide) (Base58.bytes_lt bytes)
  rwa [List.length_map] at fits

theorem littleEndian_append (front back : List UInt8) :
    littleEndian (front ++ back) = littleEndian front + 256 ^ front.length * littleEndian back := by
  rw [littleEndian, List.map_append, Nat.ofDigits_append, List.length_map]
  rfl

/-- Byte strings of one length spell different numbers. -/
theorem littleEndian_injective {a b : List UInt8} (length : a.length = b.length)
    (same : littleEndian a = littleEndian b) : a = b := by
  have digits : a.map UInt8.toNat = b.map UInt8.toNat :=
    Nat.ofDigits_inj_of_len_eq (by decide) (by simpa using length) (Base58.bytes_lt a) (Base58.bytes_lt b) same
  exact Base58.map_toNat_inj.mp digits

theorem toNat_beltOfChunk {chunk : List UInt8} (short : chunk.length ≤ 7) :
    (beltOfChunk chunk).toNat = littleEndian chunk := by
  apply UInt64.toNat_ofNat_of_lt'
  calc
    littleEndian chunk < 256 ^ chunk.length := littleEndian_lt chunk
    _ ≤ 256 ^ 7 := Nat.pow_le_pow_right (by decide) short
    _ < 2 ^ 64 := by decide

/-! ### The chunk loop -/

theorem bytesToBelts_short (short : bytes.length < 7) : bytesToBelts bytes = [beltOfChunk bytes] := by
  cases bytes with
  | nil => rfl
  | cons head rest =>
    have one : ((head :: rest).length + 6) / 7 = 1 := by
      rw [List.length_cons] at short ⊢
      omega
    have indivisible : (head :: rest).length % 7 ≠ 0 := by
      rw [Nat.mod_eq_of_lt short]
      exact Nat.succ_ne_zero _
    have whole : (head :: rest).take 7 = head :: rest := List.take_of_length_le (Nat.le_of_lt short)
    rw [bytesToBelts, if_neg (by simpa using indivisible), chunks, one]
    simp only [List.range_one, List.map_cons, List.map_nil, Nat.mul_zero, List.drop_zero, whole,
      List.append_nil]

theorem chunks_long (long : 7 ≤ bytes.length) :
    chunks 7 bytes = bytes.take 7 :: chunks 7 (bytes.drop 7) := by
  have rounds : (bytes.length + 6) / 7 = ((bytes.drop 7).length + 6) / 7 + 1 := by
    rw [List.length_drop]
    omega
  rw [chunks, rounds, List.range_succ_eq_map, List.map_cons, List.map_map]
  congr 1
  apply List.map_congr_left
  intro index _
  rw [Function.comp_apply, List.drop_drop, Nat.mul_succ, Nat.add_comm]

theorem bytesToBelts_long (long : 7 ≤ bytes.length) :
    bytesToBelts bytes = beltOfChunk (bytes.take 7) :: bytesToBelts (bytes.drop 7) := by
  have closes : (bytes = [] ∨ bytes.length % 7 = 0) ↔
      (bytes.drop 7 = [] ∨ (bytes.drop 7).length % 7 = 0) := by
    rw [← List.length_eq_zero_iff, ← List.length_eq_zero_iff, List.length_drop]
    omega
  rw [bytesToBelts, bytesToBelts, chunks_long long, List.map_cons, List.cons_append]
  simp only [closes]

/-- The belts are the number of the byte string, in base `2^56`. -/
theorem toNat_bytesToBelts (bytes : List UInt8) : (bytesToBelts bytes).map UInt64.toNat =
    limbs (256 ^ 7) (bytes.length / 7 + 1) (littleEndian bytes) := by
  induction rounds : bytes.length / 7 generalizing bytes with
  | zero =>
    have short : bytes.length < 7 := by omega
    have fits : littleEndian bytes < 256 ^ 7 :=
      Nat.lt_of_lt_of_le (littleEndian_lt bytes) (Nat.pow_le_pow_right (by decide) (Nat.le_of_lt short))
    rw [bytesToBelts_short short, List.map_singleton, toNat_beltOfChunk (Nat.le_of_lt short)]
    rw [limbs, limbs, Nat.mod_eq_of_lt fits]
  | succ count ih =>
    have long : 7 ≤ bytes.length := by omega
    have taken : (bytes.take 7).length = 7 := by
      rw [List.length_take]
      exact Nat.min_eq_left long
    have fits : littleEndian (bytes.take 7) < 256 ^ 7 := by
      have below := littleEndian_lt (bytes.take 7)
      rwa [taken] at below
    have split : littleEndian bytes = littleEndian (bytes.take 7) + 256 ^ 7 * littleEndian (bytes.drop 7) := by
      have joined := littleEndian_append (bytes.take 7) (bytes.drop 7)
      rwa [List.take_append_drop, taken] at joined
    have fewer : (bytes.drop 7).length / 7 = count := by
      rw [List.length_drop]
      omega
    rw [bytesToBelts_long long, List.map_cons, toNat_beltOfChunk (Nat.le_of_eq taken), ih _ fewer, split,
      limbs_cons fits]

/-! ### Which byte strings are packed alike -/

@[simp] theorem length_padded (bytes : List UInt8) : (padded bytes).length = 7 * (bytes.length / 7 + 1) := by
  rw [padded, List.length_append, List.length_replicate]
  omega

@[simp] theorem littleEndian_padded (bytes : List UInt8) : littleEndian (padded bytes) = littleEndian bytes := by
  rw [littleEndian, padded, List.map_append, List.map_replicate]
  exact Nat.ofDigits_append_replicate_zero _

theorem packed_bytesToBelts (bytes : List UInt8) : Packed bytes (bytesToBelts bytes) where
  count := by
    have lengths := congrArg List.length (toNat_bytesToBelts bytes)
    rwa [List.length_map, length_limbs] at lengths
  small := by
    intro belt member
    have limb := List.mem_map_of_mem (f := UInt64.toNat) member
    rw [toNat_bytesToBelts] at limb
    exact limbs_lt (by decide) limb
  digit := by
    intro place inside
    have number : (bytesToBelts bytes).map UInt64.toNat = limbs (256 ^ 7) (bytes.length / 7 + 1)
        (Nat.ofDigits 256 ((padded bytes).map UInt8.toNat)) := by
      rw [toNat_bytesToBelts, ← littleEndian_padded]
      rfl
    have inside' : place < ((bytesToBelts bytes).map UInt64.toNat).length := by simpa using inside
    rw [List.map_take, List.map_drop, ← getElem_limbs_ofDigits (by decide) (Base58.bytes_lt _) (number ▸ inside')]
    calc
      (bytesToBelts bytes)[place].toNat = ((bytesToBelts bytes).map UInt64.toNat)[place] := by
        rw [List.getElem_map]
      _ = _ := List.getElem_of_eq number inside'

/-- Two byte strings are packed alike when they fill up to the same one. -/
theorem bytesToBelts_eq_iff : bytesToBelts a = bytesToBelts b ↔
    a.length / 7 = b.length / 7 ∧ padded a = padded b := by
  have fits (bytes : List UInt8) : littleEndian bytes < (256 ^ 7) ^ (bytes.length / 7 + 1) := by
    rw [← littleEndian_padded, ← Nat.pow_mul, ← length_padded]
    exact littleEndian_lt (padded bytes)
  constructor
  · intro same
    have blocks : a.length / 7 = b.length / 7 := by
      have counts := (packed_bytesToBelts a).count
      rw [same, (packed_bytesToBelts b).count] at counts
      exact Nat.succ.inj counts.symm
    refine ⟨blocks, littleEndian_injective (by rw [length_padded, length_padded, blocks]) ?_⟩
    have digits := congrArg (List.map UInt64.toNat) same
    rw [toNat_bytesToBelts, toNat_bytesToBelts, ← blocks] at digits
    rw [littleEndian_padded, littleEndian_padded]
    exact limbs_injective (fits a) (blocks ▸ fits b) digits
  · rintro ⟨blocks, filled⟩
    apply map_toNat_injective
    rw [toNat_bytesToBelts, toNat_bytesToBelts, blocks, ← littleEndian_padded a, filled, littleEndian_padded]

theorem bytesToBelts_injective (length : a.length = b.length) (same : bytesToBelts a = bytesToBelts b) : a = b := by
  obtain ⟨_, filled⟩ := bytesToBelts_eq_iff.mp same
  exact (List.append_inj filled length).1

/-- What a byte string is packed into, which strings are packed alike, and that no two of one length are. -/
theorem byte_packing (a b : List UInt8) : Packed a (bytesToBelts a) ∧
    (bytesToBelts a = bytesToBelts b ↔ a.length / 7 = b.length / 7 ∧ padded a = padded b) ∧
    (a.length = b.length → bytesToBelts a = bytesToBelts b → a = b) :=
  ⟨packed_bytesToBelts a, bytesToBelts_eq_iff, bytesToBelts_injective⟩

/-- A trailing zero is lost within a block, one that fills the block is not, and neither are keys mixed up. -/
theorem byte_packing_zeros : bytesToBelts [1] = bytesToBelts [1, 0] ∧
    bytesToBelts [] ≠ bytesToBelts (List.replicate 7 0) ∧
    bytesToBelts (List.replicate 97 1) ≠ bytesToBelts (List.replicate 97 2) := by
  refine ⟨(byte_packing [1] [1, 0]).2.1.mpr (by decide), ?_, ?_⟩
  · intro same
    exact absurd ((byte_packing [] (List.replicate 7 0)).2.1.mp same).1 (by decide)
  · intro same
    exact absurd ((byte_packing (List.replicate 97 1) (List.replicate 97 2)).2.2 rfl same) (by decide)

end X402Nockchain.Crypto
