import X402Nockchain.Crypto.Belts

/-! The shape of the signed message: which belts each field contributes, that the
concatenation can be taken apart again, and when an authorization has a message. -/

namespace X402Nockchain.Crypto

open Foundation X402Types

theorem decimalToBelt_ok_iff : decimalToBelt text field = .ok belt ↔
    ∃ value, Decimal.parseU64 text = some value ∧ u64ToBelt value = belt := by
  simp only [decimalToBelt, Outcome.bind_ok, Outcome.okOr_ok, Outcome.pure_ok]

/-! ### The notes -/

theorem noteBelts_ok_iff : noteBelts note = .ok belts ↔ ∃ first last,
    base58ToBelts note.name.first "notes[i].name.first" = .ok first ∧
    base58ToBelts note.name.last "notes[i].name.last" = .ok last ∧
    first.toList ++ last.toList = belts := by
  simp only [noteBelts, Outcome.bind_ok, Outcome.pure_ok]
  constructor
  · rintro ⟨first, firstOk, last, lastOk, same⟩
    exact ⟨first, last, firstOk, lastOk, same⟩
  · rintro ⟨first, last, firstOk, lastOk, same⟩
    exact ⟨first, firstOk, last, lastOk, same⟩

theorem noteBelts_length (encoded : noteBelts note = .ok belts) : belts.length = 10 := by
  obtain ⟨first, last, _, _, rfl⟩ := noteBelts_ok_iff.mp encoded
  simp

theorem mapM_cons_ok {f : α → Except ε β} : (head :: rest).mapM f = .ok results ↔
    ∃ first, f head = .ok first ∧ ∃ later, rest.mapM f = .ok later ∧ first :: later = results := by
  simp only [List.mapM_cons, Outcome.bind_ok, Outcome.pure_ok]

theorem flatten_length {notes : List NoteRef} {parts : List (List Belt)}
    (each : notes.mapM noteBelts = .ok parts) : parts.flatten.length = 10 * notes.length := by
  induction notes generalizing parts with
  | nil => cases each; rfl
  | cons note rest ih =>
    obtain ⟨first, firstOk, later, laterOk, rfl⟩ := mapM_cons_ok.mp each
    rw [List.flatten_cons, List.length_append, noteBelts_length firstOk, ih laterOk,
      List.length_cons]
    omega

theorem notesBelts_ok_iff : notesBelts notes = .ok belts ↔ ∃ parts,
    (sortedNotes notes).mapM noteBelts = .ok parts ∧
    (if parts.flatten.isEmpty then [0] else parts.flatten) = belts := by
  simp only [notesBelts, Outcome.bind_ok, Outcome.pure_ok]

theorem notesBelts_flatten (encoded : notesBelts notes = .ok belts) : ∃ parts,
    (sortedNotes notes).mapM noteBelts = .ok parts ∧
      (parts.flatten = belts ∨ parts.flatten = [] ∧ belts = [0]) := by
  obtain ⟨parts, each, absorbed⟩ := notesBelts_ok_iff.mp encoded
  refine ⟨parts, each, ?_⟩
  by_cases empty : parts.flatten.isEmpty = true
  · rw [if_pos empty] at absorbed
    exact .inr ⟨List.isEmpty_iff.mp empty, absorbed.symm⟩
  · rw [if_neg empty] at absorbed
    exact .inl absorbed

/-! ### The layout -/

/-- The belts of the fields, in message order. -/
@[ext] structure MessageParts where
  sender : List.Vector Belt 5
  recipient : List.Vector Belt 5
  value : Belt
  fee : Belt
  nonce : List.Vector Belt 5
  validAfter : Belt
  validBefore : Belt
  notesHash : List.Vector Belt 5
  changeAddress : List.Vector Belt 5

def MessageParts.layout (parts : MessageParts) : List Belt :=
  bytesToBelts (asBytes x402DomainSeparator) ++ (parts.sender.toList ++ (parts.recipient.toList ++
    (parts.value :: parts.fee :: (parts.nonce.toList ++ (parts.validAfter :: parts.validBefore ::
      (parts.notesHash.toList ++ parts.changeAddress.toList))))))

theorem vector_append_inj {a b : List.Vector α n} (same : a.toList ++ xs = b.toList ++ ys) :
    a = b ∧ xs = ys := by
  obtain ⟨front, back⟩ := List.append_inj same (by simp)
  exact ⟨List.Vector.toList_injective front, back⟩

/-- No two messages of different fields share a layout. -/
theorem MessageParts.layout_injective : Function.Injective MessageParts.layout := by
  intro a b same
  obtain ⟨sender, same⟩ := vector_append_inj (List.append_cancel_left same)
  obtain ⟨recipient, same⟩ := vector_append_inj same
  obtain ⟨value, same⟩ := List.cons.inj same
  obtain ⟨fee, same⟩ := List.cons.inj same
  obtain ⟨nonce, same⟩ := vector_append_inj same
  obtain ⟨validAfter, same⟩ := List.cons.inj same
  obtain ⟨validBefore, same⟩ := List.cons.inj same
  obtain ⟨notesHash, same⟩ := List.append_inj same (by simp)
  exact MessageParts.ext sender recipient value fee nonce validAfter validBefore
    (List.Vector.toList_injective notesHash) (List.Vector.toList_injective same)

/-! ### The message -/

variable [Vesl]

structure Encodes (auth : Authorization) (parts : MessageParts) : Prop where
  sender : base58ToBelts auth.from "from" = .ok parts.sender
  recipient : base58ToBelts auth.to "to" = .ok parts.recipient
  value : decimalToBelt auth.value "value" = .ok parts.value
  fee : decimalToBelt auth.fee "fee" = .ok parts.fee
  nonce : base58ToBelts auth.nonce "nonce" = .ok parts.nonce
  validAfter : u64ToBelt auth.validAfter = parts.validAfter
  validBefore : u64ToBelt auth.validBefore = parts.validBefore
  notesHash : computeNotesHash auth.notes = .ok parts.notesHash
  changeAddress : base58ToBelts auth.changeAddress "changeAddress" = .ok parts.changeAddress

theorem x402SignMessageBelts_ok_iff : x402SignMessageBelts auth = .ok belts ↔
    ∃ parts, Encodes auth parts ∧ parts.layout = belts := by
  simp only [x402SignMessageBelts, Outcome.bind_ok, Outcome.pure_ok]
  constructor
  · rintro ⟨sender, senderOk, recipient, recipientOk, value, valueOk, fee, feeOk, nonce, nonceOk,
      notesHash, notesOk, changeAddress, changeOk, rfl⟩
    refine ⟨⟨sender, recipient, value, fee, nonce, u64ToBelt auth.validAfter,
      u64ToBelt auth.validBefore, notesHash, changeAddress⟩,
      ⟨senderOk, recipientOk, valueOk, feeOk, nonceOk, rfl, rfl, notesOk, changeOk⟩, ?_⟩
    simp [MessageParts.layout]
  · rintro ⟨parts, encodes, rfl⟩
    refine ⟨_, encodes.sender, _, encodes.recipient, _, encodes.value, _, encodes.fee, _,
      encodes.nonce, _, encodes.notesHash, _, encodes.changeAddress, ?_⟩
    simp [MessageParts.layout, encodes.validAfter, encodes.validBefore]

/-! ### When there is a message -/

/-- A base58 text whose number fits five belts. -/
def Spells (text : String) : Prop := ∃ value, Base58.textValue text = .ok value ∧ value < prime ^ 5

structure Signable (auth : Authorization) : Prop where
  sender : Spells auth.from
  recipient : Spells auth.to
  value : ∃ value, Decimal.parseU64 auth.value = some value
  fee : ∃ fee, Decimal.parseU64 auth.fee = some fee
  nonce : Spells auth.nonce
  notes : ∀ note ∈ auth.notes, Spells note.name.first ∧ Spells note.name.last
  changeAddress : Spells auth.changeAddress

omit [Vesl] in
theorem spells_iff {text : String} (field : String) :
    Spells text ↔ ∃ belts, base58ToBelts text field = .ok belts := by
  simp only [base58ToBelts_ok_iff, Spells]
  constructor
  · rintro ⟨value, spelled, fits⟩
    exact ⟨_, value, spelled, fits, rfl⟩
  · rintro ⟨belts, value, spelled, fits, _⟩
    exact ⟨value, spelled, fits⟩

omit [Vesl] in
theorem mapM_ok_iff {f : α → Except ε β} {values : List α} :
    (∃ results, values.mapM f = .ok results) ↔ ∀ value ∈ values, ∃ result, f value = .ok result := by
  induction values with
  | nil => simp [pure, Except.pure]
  | cons head rest ih =>
    simp only [mapM_cons_ok, List.forall_mem_cons, ← ih]
    constructor
    · rintro ⟨_, first, firstOk, later, laterOk, _⟩
      exact ⟨⟨first, firstOk⟩, later, laterOk⟩
    · rintro ⟨⟨first, firstOk⟩, later, laterOk⟩
      exact ⟨_, first, firstOk, later, laterOk, rfl⟩

theorem computeNotesHash_ok_iff : (∃ digest, computeNotesHash notes = .ok digest) ↔
    ∀ note ∈ notes, Spells note.name.first ∧ Spells note.name.last := by
  have each : ∀ note, (∃ belts, noteBelts note = .ok belts) ↔
      Spells note.name.first ∧ Spells note.name.last := by
    intro note
    rw [spells_iff "notes[i].name.first", spells_iff "notes[i].name.last"]
    simp only [noteBelts_ok_iff]
    constructor
    · rintro ⟨_, first, last, firstOk, lastOk, _⟩
      exact ⟨⟨first, firstOk⟩, last, lastOk⟩
    · rintro ⟨⟨first, firstOk⟩, last, lastOk⟩
      exact ⟨_, first, last, firstOk, lastOk, rfl⟩
  have sorted : (∃ parts, (sortedNotes notes).mapM noteBelts = .ok parts) ↔
      ∀ note ∈ notes, Spells note.name.first ∧ Spells note.name.last := by
    simp only [mapM_ok_iff, sortedNotes, List.mem_insertionSort, each]
  rw [← sorted]
  simp only [computeNotesHash, Outcome.map_ok, notesBelts_ok_iff]
  constructor
  · rintro ⟨_, _, ⟨parts, encoded, _⟩, _⟩
    exact ⟨parts, encoded⟩
  · rintro ⟨parts, encoded⟩
    exact ⟨_, _, ⟨parts, encoded, rfl⟩, rfl⟩

/-- Signing fails only on a text that does not spell its number. -/
theorem signable_iff : (∃ belts, x402SignMessageBelts auth = .ok belts) ↔ Signable auth := by
  constructor
  · rintro ⟨belts, message⟩
    obtain ⟨parts, encodes, _⟩ := x402SignMessageBelts_ok_iff.mp message
    obtain ⟨value, valueText, _⟩ := decimalToBelt_ok_iff.mp encodes.value
    obtain ⟨fee, feeText, _⟩ := decimalToBelt_ok_iff.mp encodes.fee
    exact {
      sender := (spells_iff _).mpr ⟨_, encodes.sender⟩
      recipient := (spells_iff _).mpr ⟨_, encodes.recipient⟩
      value := ⟨value, valueText⟩
      fee := ⟨fee, feeText⟩
      nonce := (spells_iff _).mpr ⟨_, encodes.nonce⟩
      notes := computeNotesHash_ok_iff.mp ⟨_, encodes.notesHash⟩
      changeAddress := (spells_iff _).mpr ⟨_, encodes.changeAddress⟩ }
  · intro signable
    obtain ⟨sender, senderOk⟩ := (spells_iff "from").mp signable.sender
    obtain ⟨recipient, recipientOk⟩ := (spells_iff "to").mp signable.recipient
    obtain ⟨value, valueText⟩ := signable.value
    obtain ⟨fee, feeText⟩ := signable.fee
    obtain ⟨nonce, nonceOk⟩ := (spells_iff "nonce").mp signable.nonce
    obtain ⟨notesHash, notesOk⟩ := computeNotesHash_ok_iff.mpr signable.notes
    obtain ⟨change, changeOk⟩ := (spells_iff "changeAddress").mp signable.changeAddress
    exact ⟨_, x402SignMessageBelts_ok_iff.mpr ⟨⟨sender, recipient, _, _, nonce, _, _, notesHash, change⟩,
      ⟨senderOk, recipientOk, decimalToBelt_ok_iff.mpr ⟨value, valueText, rfl⟩,
        decimalToBelt_ok_iff.mpr ⟨fee, feeText, rfl⟩, nonceOk, rfl, rfl, notesOk, changeOk⟩, rfl⟩⟩

end X402Nockchain.Crypto
