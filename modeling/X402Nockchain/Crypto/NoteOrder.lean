import X402Nockchain.Crypto.Verifier
import X402Nockchain.Foundation.Positional
import X402Nockchain.Foundation.Sorting
import Mathlib.Data.String.Basic

/-! The order that `compute_notes_hash` puts notes in. The digest does not depend
on the order they come in, and names are compared as texts, not as the bytes they
stand for. -/

namespace X402Nockchain.Crypto

open Foundation X402Types

/-- What a note is sorted by, the first name leading. -/
def noteKey (note : NoteRef) : String ×ₗ String := toLex (note.name.first, note.name.last)

theorem noteNameLe_compares : ComparesBy noteKey noteNameLe := by
  intro a b
  rw [noteKey, noteKey, Prod.Lex.toLex_le_toLex]
  rfl

/-! ### The order of the input -/

/-- A note's belts, from what it is sorted by. -/
def keyBelts (key : String ×ₗ String) : Except SignMessageError (List Belt) := do
  let first ← base58ToBelts (ofLex key).1 "notes[i].name.first"
  let last ← base58ToBelts (ofLex key).2 "notes[i].name.last"
  return first.toList ++ last.toList

theorem notesBelts_of_perm {notes others : List NoteRef} (permuted : notes.Perm others) :
    notesBelts notes = notesBelts others := by
  have keys : (sortedNotes notes).map noteKey = (sortedNotes others).map noteKey :=
    noteNameLe_compares.map_insertionSort_of_perm permuted
  have byKey : noteBelts = keyBelts ∘ noteKey := rfl
  have parts : (sortedNotes notes).mapM noteBelts = (sortedNotes others).mapM noteBelts := by
    rw [byKey, ← List.mapM_map, ← List.mapM_map, keys]
  simp only [notesBelts, parts]

/-- Notes in another order are signed, or refused, alike. -/
theorem digest_ignores_note_order [Vesl] (auth : Authorization) (permuted : auth.notes.Perm notes) :
    x402SignMessageDigest { auth with notes } = x402SignMessageDigest auth := by
  simp only [x402SignMessageDigest, x402SignMessageBelts, computeNotesHash, notesBelts_of_perm permuted]

namespace Transparent

attribute [local instance] transparent transparent_lawful

def coin (first last assets : String) : NoteRef where
  name := { first, last }
  assets
  lock := .simplePkh

/-- Two coins of one name, and another one. -/
def coins : List NoteRef := [coin "3" "5" "1", coin "5R" "2" "2", coin "3" "5" "7"]

/-- Coins that are read are signed alike backwards, and of two that are not the same one is reported. -/
theorem coins_signed_backwards :
    x402SignMessageDigest { authorization with notes := coins.reverse } =
      x402SignMessageDigest { authorization with notes := coins } ∧
    x402SignMessageDigest { authorization with notes := [coin "l" "2" "1", coin "0" "2" "1"] } =
      x402SignMessageDigest { authorization with notes := [coin "0" "2" "1", coin "l" "2" "1"] } :=
  ⟨digest_ignores_note_order { authorization with notes := coins } (List.reverse_perm coins).symm,
    digest_ignores_note_order { authorization with notes := [coin "0" "2" "1", coin "l" "2" "1"] }
      (.swap _ _ [])⟩

end Transparent

/-! ### The order of the bytes -/

/-- The bytes that a name stands for. -/
def decodedBytes (name : String) : List UInt8 :=
  match Base58.decode name with
  | .ok bytes => bytes
  | .error _ => []

/-- Lexicographic comparison of the decoded `(name.first, name.last)`. -/
def noteBytesLe (a b : NoteRef) : Prop :=
  decodedBytes a.name.first < decodedBytes b.name.first ∨
    (decodedBytes a.name.first = decodedBytes b.name.first ∧
      decodedBytes a.name.last ≤ decodedBytes b.name.last)

instance (a b : NoteRef) : Decidable (noteBytesLe a b) := inferInstanceAs (Decidable (_ ∨ _))

/-- The order of an implementation that holds the decoded names. -/
def sortedByBytes (notes : List NoteRef) : List NoteRef := notes.insertionSort noteBytesLe

/-- The texts that `pkh_belts_to_base58` writes for hashes. -/
def Canonical (name : String) : Prop :=
  ∃ belts : List.Vector Belt 5, (∀ belt ∈ belts.toList, belt.toNat < prime) ∧
    pkhBeltsToBase58 belts = name

/-- The number that a name spells. -/
def nameNumber (name : String) : Nat := Base58.fromBeBytes (decodedBytes name)

/-- Moving the smaller number up by the base58 digits that its text lacks takes it
past the larger one exactly when moving it up by the bytes that it lacks does. -/
def ShiftsAlike (a b : String) : Prop :=
  nameNumber a < nameNumber b →
    (nameNumber a * 58 ^ (b.length - a.length) ≤ nameNumber b ↔
      nameNumber a * 256 ^ ((decodedBytes b).length - (decodedBytes a).length) ≤ nameNumber b)

instance (a b : String) : Decidable (ShiftsAlike a b) := inferInstanceAs (Decidable (_ → _))

/-- Names of one length, as texts and as bytes, never differ in this. -/
theorem shiftsAlike_of_length (texts : a.length = b.length)
    (bytes : (decodedBytes a).length = (decodedBytes b).length) : ShiftsAlike a b := by
  intro _
  rw [texts, bytes, Nat.sub_self, Nat.sub_self, Nat.pow_zero, Nat.pow_zero]

theorem map_toNat_lt_iff (xs ys : List UInt8) : xs.map UInt8.toNat < ys.map UInt8.toNat ↔ xs < ys :=
  map_word_lt_iff fun _ _ _ _ => ⟨UInt8.lt_iff_toNat_lt.symm, UInt8.toNat_inj⟩

/-- The text and the bytes of a canonical name are the numerals of one number. -/
structure Numerals (name : String) (value : Nat) : Prop where
  text : name.toList = (numeral 58 value).map Base58.symbol
  bytes : decodedBytes name = Base58.toBeBytes value

theorem Canonical.numerals (canonical : Canonical name) : ∃ value, Numerals name value := by
  obtain ⟨belts, _, rfl⟩ := canonical
  rw [pkhBeltsToBase58_eq]
  refine ⟨_, Base58.toList_encode_toBeBytes _, ?_⟩
  rw [decodedBytes, Base58.decode_encode]

section

variable (left : Numerals a x) (right : Numerals b y)

include left

theorem Numerals.number : nameNumber a = x := by
  rw [nameNumber, left.bytes, Base58.fromBeBytes_toBeBytes]

theorem Numerals.length_text : a.length = (numeral 58 x).length := by
  rw [← String.length_toList, left.text, List.length_map]

theorem Numerals.toNat_bytes : (decodedBytes a).map UInt8.toNat = numeral 256 x := by
  rw [left.bytes]
  exact Base58.map_toNat_toBeBytes x

theorem Numerals.length_bytes : (decodedBytes a).length = (numeral 256 x).length := by
  rw [← left.toNat_bytes, List.length_map]

include right

theorem text_lt_iff : a < b ↔ numeral 58 x < numeral 58 y := by
  rw [String.lt_iff_toList_lt, left.text, right.text]
  apply map_word_lt_iff
  intro digit inLeft digit' inRight
  have below := numeral_lt_base (by decide) digit inLeft
  have below' := numeral_lt_base (by decide) digit' inRight
  refine ⟨Base58.symbol_lt_iff below below', fun same => ?_, congrArg Base58.symbol⟩
  have found := Base58.idxOf_symbol below
  rw [same, Base58.idxOf_symbol below'] at found
  exact (Option.some.inj found).symm

theorem bytes_lt_iff : decodedBytes a < decodedBytes b ↔ numeral 256 x < numeral 256 y := by
  rw [← left.toNat_bytes, ← right.toNat_bytes, map_toNat_lt_iff]

theorem text_eq_iff : a = b ↔ x = y := by
  constructor
  · rintro rfl
    rw [← left.number, right.number]
  · rintro rfl
    rw [← String.toList_inj, left.text, right.text]

theorem bytes_eq_iff : decodedBytes a = decodedBytes b ↔ x = y := by
  constructor
  · intro same
    rw [← left.number, ← right.number, nameNumber, nameNumber, same]
  · rintro rfl
    rw [left.bytes, right.bytes]

theorem shiftsAlike_iff (below : x < y) : ShiftsAlike a b ↔ (a < b ↔ decodedBytes a < decodedBytes b) := by
  rw [text_lt_iff left right, bytes_lt_iff left right, numeral_lt_iff (by decide) below,
    numeral_lt_iff (by decide) below, ShiftsAlike, left.number, right.number, left.length_text,
    right.length_text, left.length_bytes, right.length_bytes]
  exact imp_iff_right below

theorem shiftsAlike_of_le (above : y ≤ x) : ShiftsAlike a b := by
  intro below
  rw [left.number, right.number] at below
  exact absurd below (Nat.not_lt.mpr above)

/-- Two canonical names are ordered alike as texts and as bytes. -/
theorem ordered_alike_iff :
    (a < b ↔ decodedBytes a < decodedBytes b) ↔ ShiftsAlike a b ∧ ShiftsAlike b a := by
  rcases Nat.lt_trichotomy x y with below | same | above
  · rw [shiftsAlike_iff left right below]
    exact (and_iff_left (shiftsAlike_of_le right left (Nat.le_of_lt below))).symm
  · have tied : (a < b ↔ decodedBytes a < decodedBytes b) := by
      rw [text_lt_iff left right, bytes_lt_iff left right, same]
      exact iff_of_false (lt_irrefl _) (lt_irrefl _)
    refine iff_of_true tied ⟨?_, ?_⟩
    · exact shiftsAlike_of_le left right (Nat.le_of_eq same.symm)
    · exact shiftsAlike_of_le right left (Nat.le_of_eq same)
  · have differ : x ≠ y := Nat.ne_of_gt above
    rw [and_iff_right (shiftsAlike_of_le left right (Nat.le_of_lt above)), shiftsAlike_iff right left above,
      text_lt_iff left right, bytes_lt_iff left right, text_lt_iff right left, bytes_lt_iff right left,
      ← numeral_not_lt_iff 58 differ, ← numeral_not_lt_iff 256 differ]
    exact not_iff_not.symm

end

/-- What a note is sorted by where names are held as bytes. -/
def byteKey (note : NoteRef) : List Nat ×ₗ List Nat :=
  toLex ((decodedBytes note.name.first).map UInt8.toNat, (decodedBytes note.name.last).map UInt8.toNat)

theorem noteBytesLe_compares : ComparesBy byteKey noteBytesLe := by
  intro a b
  rw [byteKey, byteKey, Prod.Lex.toLex_le_toLex, map_toNat_lt_iff, Base58.map_toNat_inj, ← not_lt, map_toNat_lt_iff]
  rfl

/-- The first names of two notes, and their last names where the first are equal,
are ordered alike as texts and as bytes. -/
def OrderedAlike (a b : NoteRef) : Prop :=
  ShiftsAlike a.name.first b.name.first ∧
    (a.name.first = b.name.first → ShiftsAlike a.name.last b.name.last)

instance (a b : NoteRef) : Decidable (OrderedAlike a b) := inferInstanceAs (Decidable (_ ∧ _))

/-- The names of a note are those of hashes, as `pkh_belts_to_base58` writes them. -/
def CanonicalNames (note : NoteRef) : Prop := Canonical note.name.first ∧ Canonical note.name.last

theorem keys_tied_iff (left : CanonicalNames a) (right : CanonicalNames b) :
    noteKey a = noteKey b ↔ byteKey a = byteKey b := by
  obtain ⟨⟨x, first⟩, ⟨y, last⟩⟩ := left.imp Canonical.numerals Canonical.numerals
  obtain ⟨⟨x', first'⟩, ⟨y', last'⟩⟩ := right.imp Canonical.numerals Canonical.numerals
  rw [noteKey, noteKey, byteKey, byteKey, toLex_inj, toLex_inj, Prod.mk.injEq, Prod.mk.injEq,
    Base58.map_toNat_inj, Base58.map_toNat_inj, text_eq_iff first first', text_eq_iff last last', bytes_eq_iff first first',
    bytes_eq_iff last last']

theorem keys_ordered_alike_iff (left : CanonicalNames a) (right : CanonicalNames b) :
    (noteKey a < noteKey b ↔ byteKey a < byteKey b) ↔ OrderedAlike a b ∧ OrderedAlike b a := by
  obtain ⟨⟨x, first⟩, ⟨y, last⟩⟩ := left.imp Canonical.numerals Canonical.numerals
  obtain ⟨⟨x', first'⟩, ⟨y', last'⟩⟩ := right.imp Canonical.numerals Canonical.numerals
  rw [noteKey, noteKey, byteKey, byteKey, Prod.Lex.toLex_lt_toLex, Prod.Lex.toLex_lt_toLex, OrderedAlike,
    OrderedAlike]
  by_cases same : a.name.first = b.name.first
  · -- equal first names leave the last ones to decide
    have tied := shiftsAlike_of_le first' first' (Nat.le_refl x')
    simp only [same, lt_self_iff_false, false_or, true_and, map_toNat_lt_iff, tied, forall_const]
    exact ordered_alike_iff last last'
  · have differ : decodedBytes a.name.first ≠ decodedBytes b.name.first := fun bytes =>
      same ((text_eq_iff first first').mpr ((bytes_eq_iff first first').mp bytes))
    simp only [same, Ne.symm same, Base58.map_toNat_inj, differ, false_and, or_false, map_toNat_lt_iff,
      false_imp_iff, and_true]
    exact ordered_alike_iff first first'

/-- Canonical names are sorted as texts in the order of their bytes exactly when
each two notes of the list are ordered alike. -/
theorem sorted_by_bytes_iff (canonical : ∀ note ∈ notes, CanonicalNames note) :
    sortedNotes notes = sortedByBytes notes ↔ ∀ a ∈ notes, ∀ b ∈ notes, OrderedAlike a b := by
  have ties : ∀ a ∈ notes, ∀ b ∈ notes, (noteKey a = noteKey b ↔ byteKey a = byteKey b) :=
    fun a inA b inB => keys_tied_iff (canonical a inA) (canonical b inB)
  rw [sortedNotes, sortedByBytes, insertionSort_eq_iff noteNameLe_compares noteBytesLe_compares ties]
  constructor
  · intro alike a inA b inB
    exact ((keys_ordered_alike_iff (canonical a inA) (canonical b inB)).mp (alike a inA b inB)).1
  · intro alike a inA b inB
    exact (keys_ordered_alike_iff (canonical a inA) (canonical b inB)).mpr ⟨alike a inA b inB, alike b inB a inA⟩

namespace Transparent

theorem canonical_of_belt (belt : Belt) (reduced : belt.toNat < prime)
    (written : pkhBeltsToBase58 ⟨[belt, 0, 0, 0, 0], rfl⟩ = name) : Canonical name := by
  refine ⟨_, fun digit member => ?_, written⟩
  rcases List.mem_cons.mp member with same | zero
  · rwa [same]
  · rw [List.eq_of_mem_replicate (n := 4) zero]
    exact prime_pos

theorem two_canonical : Canonical "3" := canonical_of_belt 2 (by decide) (by decide)

/-- Names of two bytes each, one of them twice. -/
def sameLengths : List NoteRef := [coin "5S" "3" "5", coin "5R" "3" "1", coin "5S" "3" "2"]

theorem sameLengths_canonical : ∀ note ∈ sameLengths, CanonicalNames note := by
  have later : Canonical "5S" := canonical_of_belt 257 (by decide) (by decide)
  have earlier : Canonical "5R" := canonical_of_belt 256 (by decide) (by decide)
  simp only [sameLengths, List.forall_mem_cons]
  exact ⟨⟨later, two_canonical⟩, ⟨earlier, two_canonical⟩, ⟨later, two_canonical⟩, List.forall_mem_nil _⟩

theorem sameLengths_sorted_alike : sortedNotes sameLengths = sortedByBytes sameLengths := by
  have lengths : ∀ note ∈ sameLengths, (note.name.first.length = 2 ∧ note.name.last.length = 1) ∧
      (decodedBytes note.name.first).length = 2 ∧ (decodedBytes note.name.last).length = 1 := by decide
  refine (sorted_by_bytes_iff sameLengths_canonical).mpr fun a inA b inB => ?_
  obtain ⟨⟨first, last⟩, firstBytes, lastBytes⟩ := lengths a inA
  obtain ⟨⟨first', last'⟩, firstBytes', lastBytes'⟩ := lengths b inB
  exact ⟨shiftsAlike_of_length (first.trans first'.symm) (firstBytes.trans firstBytes'.symm),
    fun _ => shiftsAlike_of_length (last.trans last'.symm) (lastBytes.trans lastBytes'.symm)⟩

/-- The byte `2`, and the bytes `1`, `0`: as texts in this order, as bytes in the other. -/
def mixedLengths : List NoteRef := [coin "3" "3" "5", coin "5R" "3" "5"]

theorem mixedLengths_canonical : ∀ note ∈ mixedLengths, CanonicalNames note := by
  simp only [mixedLengths, List.forall_mem_cons]
  exact ⟨⟨two_canonical, two_canonical⟩,
    ⟨canonical_of_belt 256 (by decide) (by decide), two_canonical⟩, List.forall_mem_nil _⟩

theorem mixedLengths_sorted_apart : (∀ note ∈ mixedLengths, CanonicalNames note) ∧
    sortedNotes mixedLengths ≠ sortedByBytes mixedLengths ∧
    (sortedNotes mixedLengths).mapM noteBelts ≠ (sortedByBytes mixedLengths).mapM noteBelts :=
  ⟨mixedLengths_canonical, by decide, by decide⟩

end Transparent

end X402Nockchain.Crypto
