import X402Nockchain.Crypto.Message
import X402Nockchain.Crypto.Verifier

/-! What a signature over an `Authorization` pins down. A message fixes the
numbers its text fields spell, and its two amounts and two timestamps up to one
multiple of the field order. -/

namespace X402Nockchain.Crypto

open Foundation Foundation.Serde X402Types

/-! ### The reduction of a `u64` -/

/-- Equal, or apart by exactly the field order. -/
def SameBelt (v w : UInt64) : Prop :=
  v = w ∨ v.toNat = w.toNat + prime ∨ w.toNat = v.toNat + prime

/-- Twice the field order exceeds a `u64`, so a belt has at most two preimages. -/
theorem u64ToBelt_eq_iff : u64ToBelt v = u64ToBelt w ↔ SameBelt v w := by
  have reduced : ∀ value : UInt64, (u64ToBelt value).toNat = value.toNat % prime := fun value =>
    UInt64.toNat_ofNat_of_lt' (Nat.lt_trans (Nat.mod_lt _ (by decide)) prime_lt)
  rw [← UInt64.toNat_inj, reduced, reduced, SameBelt, ← UInt64.toNat_inj]
  have left := v.toNat_lt
  have right := w.toNat_lt
  unfold prime
  omega

/-- The two numbers that a note name spells. -/
def decodedName (note : NoteRef) : Except Base58.DecodeError Nat × Except Base58.DecodeError Nat :=
  (Base58.textValue note.name.first, Base58.textValue note.name.last)

theorem decodedName_of_belts (left : noteBelts a = .ok belts) (right : noteBelts b = .ok belts) :
    decodedName a = decodedName b := by
  obtain ⟨first, last, firstOk, lastOk, rfl⟩ := noteBelts_ok_iff.mp left
  obtain ⟨first', last', firstOk', lastOk', same⟩ := noteBelts_ok_iff.mp right
  obtain ⟨front, back⟩ := List.append_inj same (by simp)
  cases List.Vector.toList_injective front
  cases List.Vector.toList_injective back
  rw [decodedName, decodedName, textValue_of_belts firstOk firstOk', textValue_of_belts lastOk lastOk']

/-- Ten belts a note, so the concatenation splits in one way. -/
theorem decodedNames_of_flatten {notes notes' : List NoteRef} {parts parts' : List (List Belt)}
    (left : notes.mapM noteBelts = .ok parts) (right : notes'.mapM noteBelts = .ok parts')
    (same : parts.flatten = parts'.flatten) : notes.map decodedName = notes'.map decodedName := by
  have width : 10 * notes.length = 10 * notes'.length := by
    rw [← flatten_length left, same, flatten_length right]
  induction notes generalizing notes' parts parts' with
  | nil =>
    cases notes' with
    | nil => rfl
    | cons note' rest' => simp at width
  | cons note rest ih =>
    cases notes' with
    | nil => simp at width
    | cons note' rest' =>
      obtain ⟨first, firstOk, later, laterOk, rfl⟩ := mapM_cons_ok.mp left
      obtain ⟨first', firstOk', later', laterOk', rfl⟩ := mapM_cons_ok.mp right
      have front := (noteBelts_length firstOk).trans (noteBelts_length firstOk').symm
      obtain ⟨rfl, tail⟩ := List.append_inj same front
      have shorter : 10 * rest.length = 10 * rest'.length := by simpa using width
      rw [List.map_cons, List.map_cons, decodedName_of_belts firstOk firstOk',
        ih laterOk laterOk' tail shorter]

section Messages

variable [Vesl]

/-- The sponge does not collide on the notes of these two authorizations. -/
def NotesCollisionFree (a b : Authorization) : Prop :=
  ∀ x y, notesBelts a.notes = .ok x → notesBelts b.notes = .ok y → hashVarlen x = hashVarlen y → x = y

/-- Two authorizations that say the same, their 64-bit numbers up to `near`. -/
structure Agree (near : UInt64 → UInt64 → Prop) (a b : Authorization) : Prop where
  sender : Base58.textValue a.from = Base58.textValue b.from
  recipient : Base58.textValue a.to = Base58.textValue b.to
  nonce : Base58.textValue a.nonce = Base58.textValue b.nonce
  changeAddress : Base58.textValue a.changeAddress = Base58.textValue b.changeAddress
  value : ∃ v w, Decimal.parseU64 a.value = some v ∧ Decimal.parseU64 b.value = some w ∧ near v w
  fee : ∃ v w, Decimal.parseU64 a.fee = some v ∧ Decimal.parseU64 b.fee = some w ∧ near v w
  validAfter : near a.validAfter b.validAfter
  validBefore : near a.validBefore b.validBefore
  notes : (a.notes.map decodedName).Perm (b.notes.map decodedName)

/-- Equal inner hashes name the same notes. -/
theorem decodedNames_of_notesHash (left : computeNotesHash a.notes = .ok digest)
    (right : computeNotesHash b.notes = .ok digest) (collisionFree : NotesCollisionFree a b) :
    (a.notes.map decodedName).Perm (b.notes.map decodedName) := by
  obtain ⟨belts, leftBelts, leftHash⟩ := Outcome.map_ok.mp left
  obtain ⟨belts', rightBelts, rightHash⟩ := Outcome.map_ok.mp right
  obtain rfl := collisionFree belts belts' leftBelts rightBelts (leftHash.trans rightHash.symm)
  obtain ⟨parts, each, flat⟩ := notesBelts_flatten leftBelts
  obtain ⟨parts', each', flat'⟩ := notesBelts_flatten rightBelts
  have width := flatten_length each
  have width' := flatten_length each'
  have same : parts.flatten = parts'.flatten := by
    rcases flat with rfl | ⟨empty, single⟩ <;> rcases flat' with flat' | ⟨empty', single'⟩
    · exact flat'.symm
    · -- one padding belt is never a whole number of notes
      rw [single', List.length_singleton] at width
      omega
    · rw [flat', single, List.length_singleton] at width'
      omega
    · rw [empty, empty']
  have sorted := decodedNames_of_flatten each each' same
  calc
    (a.notes.map decodedName).Perm ((sortedNotes a.notes).map decodedName) :=
      (List.perm_insertionSort noteNameLe a.notes).symm.map decodedName
    _ = (sortedNotes b.notes).map decodedName := sorted
    (_ : List _).Perm (b.notes.map decodedName) :=
      (List.perm_insertionSort noteNameLe b.notes).map decodedName

/-- Equal messages carry one nonce number. -/
theorem nonce_of_belts (left : x402SignMessageBelts a = .ok belts)
    (right : x402SignMessageBelts b = .ok belts) :
    ∃ nonce, Base58.textValue a.nonce = .ok nonce ∧ Base58.textValue b.nonce = .ok nonce := by
  obtain ⟨parts, encodes, rfl⟩ := x402SignMessageBelts_ok_iff.mp left
  obtain ⟨parts', encodes', same⟩ := x402SignMessageBelts_ok_iff.mp right
  obtain rfl := MessageParts.layout_injective same
  obtain ⟨nonce, spelled, _⟩ := base58ToBelts_ok_iff.mp encodes.nonce
  exact ⟨nonce, spelled, textValue_of_belts encodes.nonce encodes'.nonce ▸ spelled⟩

/-- Equal messages are messages of the same numbers. -/
theorem agree_of_belts (left : x402SignMessageBelts a = .ok belts)
    (right : x402SignMessageBelts b = .ok belts) (collisionFree : NotesCollisionFree a b) :
    Agree SameBelt a b := by
  obtain ⟨parts, encodes, rfl⟩ := x402SignMessageBelts_ok_iff.mp left
  obtain ⟨parts', encodes', same⟩ := x402SignMessageBelts_ok_iff.mp right
  obtain rfl := MessageParts.layout_injective same
  obtain ⟨value, valueText, valueBelt⟩ := decimalToBelt_ok_iff.mp encodes.value
  obtain ⟨value', valueText', valueBelt'⟩ := decimalToBelt_ok_iff.mp encodes'.value
  obtain ⟨fee, feeText, feeBelt⟩ := decimalToBelt_ok_iff.mp encodes.fee
  obtain ⟨fee', feeText', feeBelt'⟩ := decimalToBelt_ok_iff.mp encodes'.fee
  exact {
    sender := textValue_of_belts encodes.sender encodes'.sender
    recipient := textValue_of_belts encodes.recipient encodes'.recipient
    nonce := textValue_of_belts encodes.nonce encodes'.nonce
    changeAddress := textValue_of_belts encodes.changeAddress encodes'.changeAddress
    value := ⟨value, value', valueText, valueText', u64ToBelt_eq_iff.mp (valueBelt.trans valueBelt'.symm)⟩
    fee := ⟨fee, fee', feeText, feeText', u64ToBelt_eq_iff.mp (feeBelt.trans feeBelt'.symm)⟩
    validAfter := u64ToBelt_eq_iff.mp (encodes.validAfter.trans encodes'.validAfter.symm)
    validBefore := u64ToBelt_eq_iff.mp (encodes.validBefore.trans encodes'.validBefore.symm)
    notes := decodedNames_of_notesHash encodes.notesHash encodes'.notesHash collisionFree }

/-- The sponge does not collide on the messages of these two authorizations. -/
def MessageCollisionFree (a b : Authorization) : Prop :=
  ∀ x y, x402SignMessageBelts a = .ok x → x402SignMessageBelts b = .ok y →
    hashVarlen x = hashVarlen y → x = y

/-- The signature does not verify for the digests of both authorizations, unless they are
one digest. -/
def SignatureBinds (signature : SchnorrSignatureJson) (a b : Authorization) : Prop :=
  ∀ pk chal sig digest digest', Vesl.decodeSignature (x402ToVesl signature) = .ok (pk, chal, sig) →
    x402SignMessageDigest a = .ok digest → x402SignMessageDigest b = .ok digest' →
    Vesl.schnorrVerify pk digest chal sig = .ok () → Vesl.schnorrVerify pk digest' chal sig = .ok () →
    digest = digest'

theorem Attested.same_digest (left : Attested nock pk chal sig digest)
    (right : Attested nock' pk' chal' sig' digest') (shared : nock.signature = nock'.signature)
    (binds : SignatureBinds nock.signature nock.authorization nock'.authorization) : digest = digest' := by
  have parts := left.decoded.symm.trans (shared ▸ right.decoded)
  simp only [Except.ok.injEq, Prod.mk.injEq] at parts
  obtain ⟨rfl, rfl, rfl⟩ := parts
  exact binds pk chal sig digest digest' left.decoded left.signed right.signed left.verified right.verified

/-- One signature that the verifier accepts for two authorizations makes them agree. -/
theorem agree_of_verified [ErrorText] [Serialize P] {payload payload' : PaymentPayload P}
    {nock nock' : ExactNockchainPayload}
    (accepted : verifyPayment payload requirements = .ok ())
    (accepted' : verifyPayment payload' requirements' = .ok ())
    (parsed : fromValue (toValue payload.payload) = some nock)
    (parsed' : fromValue (toValue payload'.payload) = some nock')
    (shared : nock.signature = nock'.signature)
    (notesFree : NotesCollisionFree nock.authorization nock'.authorization)
    (messageFree : MessageCollisionFree nock.authorization nock'.authorization)
    (binds : SignatureBinds nock.signature nock.authorization nock'.authorization) :
    Agree SameBelt nock.authorization nock'.authorization := by
  obtain ⟨found, pk, chal, sig, digest, same, attested⟩ := verifyPayment_ok_iff.mp accepted
  obtain ⟨found', pk', chal', sig', digest', same', attested'⟩ := verifyPayment_ok_iff.mp accepted'
  obtain rfl := Option.some.inj (parsed.symm.trans same)
  obtain rfl := Option.some.inj (parsed'.symm.trans same')
  obtain rfl := attested.same_digest attested' shared binds
  obtain ⟨belts, message, hashed⟩ := Outcome.map_ok.mp attested.signed
  obtain ⟨belts', message', hashed'⟩ := Outcome.map_ok.mp attested'.signed
  obtain rfl := messageFree belts belts' message message' (hashed.trans hashed'.symm)
  exact agree_of_belts message message' notesFree

/-- A deadline is signed only up to the field order. -/
theorem x402SignMessageBelts_validBefore (near : SameBelt before auth.validBefore) :
    x402SignMessageBelts { auth with validBefore := before } = x402SignMessageBelts auth := by
  simp only [x402SignMessageBelts, u64ToBelt_eq_iff.mpr near]

/-- The signed message binds every field: the decoded base58 numbers and the note
names, and the amounts and timestamps up to the field order. Hence a signature
accepted for one authorization is accepted only for those that agree with it. -/
theorem signed_message_binds (a b : Authorization) (notesFree : NotesCollisionFree a b) :
    (∀ belts, x402SignMessageBelts a = .ok belts → x402SignMessageBelts b = .ok belts →
      Agree SameBelt a b) ∧
    (MessageCollisionFree a b →
      ∀ [ErrorText] (nock nock' : ExactNockchainPayload) (payload payload' : PaymentPayload Value)
        (requirements requirements' : PaymentRequirements),
        fromValue payload.payload = some nock → fromValue payload'.payload = some nock' →
        nock.authorization = a → nock'.authorization = b → nock.signature = nock'.signature →
        SignatureBinds nock.signature a b →
        verifyPayment payload requirements = .ok () → verifyPayment payload' requirements' = .ok () →
        Agree SameBelt a b) := by
  refine ⟨fun belts left right => agree_of_belts left right notesFree, ?_⟩
  intro messageFree _ nock nock' payload payload' requirements requirements' parsed parsed' ofA ofB shared
    binds accepted accepted'
  subst ofA ofB
  exact agree_of_verified accepted accepted' parsed parsed' shared notesFree messageFree binds

end Messages

namespace Transparent

attribute [local instance] transparent transparent_lawful plainErrors

/-- `authorization` with its deadline moved by the field order. -/
def extended : Authorization := { authorization with validBefore := 1300 + 18446744069414584321 }

theorem extended_belts : x402SignMessageBelts extended = x402SignMessageBelts authorization :=
  x402SignMessageBelts_validBefore (.inr (.inl (by decide)))

theorem extended_notesFree : NotesCollisionFree authorization extended := by
  intro x y left right _
  exact Except.ok.inj (left.symm.trans right)

theorem extended_messageFree : MessageCollisionFree authorization extended := by
  intro x y left right _
  rw [extended_belts] at right
  exact Except.ok.inj (left.symm.trans right)

theorem extended_binds (signature : SchnorrSignatureJson) : SignatureBinds signature authorization extended := by
  intro pk chal sig digest digest' _ left right _ _
  rw [x402SignMessageDigest, extended_belts] at right
  exact Except.ok.inj (left.symm.trans right)

/-- The signature, on a payload for `auth`. -/
def carrying (signature : SchnorrSignatureJson) (auth : Authorization) : PaymentPayload Value where
  x402Version := 2
  scheme := "exact"
  network := "nockchain:fakenet"
  payload := toValue ({ signature, authorization := auth } : ExactNockchainPayload)

/-- Whoever signs `auth`, the verifier accepts the signature. -/
theorem carrying_accepted (own : auth.from = payer.fromIdentifier)
    (signed : payer.signAuthorization auth requirements = .ok signature) :
    verifyPayment (carrying signature auth) requirements = .ok () := by
  let nock : ExactNockchainPayload := { signature, authorization := auth }
  obtain ⟨pk, chal, sig, digest, attested⟩ : ∃ pk chal sig digest, Attested nock pk chal sig digest :=
    NockchainSigner.attested own signed
  exact verifyPayment_ok_iff.mpr ⟨nock, pk, chal, sig, digest, fromValue_toValue nock, attested⟩

/-- One signature that the verifier accepts for both deadlines. -/
theorem signed_message_binds_extended : Agree SameBelt authorization extended ∧
    ∀ requirements, ∃ signature, verifyPayment (carrying signature authorization) requirements = .ok () ∧
      verifyPayment (carrying signature extended) requirements = .ok () ∧
      Agree SameBelt authorization extended := by
  obtain ⟨equal, accepted⟩ := signed_message_binds authorization extended extended_notesFree
  obtain ⟨belts, message⟩ := signable_iff.mpr authorization_signable
  refine ⟨equal belts message (extended_belts.trans message), fun requirements => ?_⟩
  obtain ⟨signature, signed⟩ := signs 7 authorization_signable requirements
  have signed' : payer.signAuthorization extended requirements = .ok signature := by
    rw [← signed]
    simp only [NockchainSigner.signAuthorization, x402SignMessageDigest, extended_belts]
    rfl
  have first : verifyPayment (carrying signature authorization) requirements = .ok () :=
    carrying_accepted rfl signed
  have second : verifyPayment (carrying signature extended) requirements = .ok () :=
    carrying_accepted rfl signed'
  refine ⟨signature, first, second, ?_⟩
  exact accepted extended_messageFree { signature, authorization } { signature, authorization := extended }
    _ _ _ _ (fromValue_toValue _) (fromValue_toValue _) rfl rfl rfl (extended_binds signature) first second

/-- Equal messages do not make the deadlines equal. -/
theorem signed_message_extends_deadline : ¬ ∀ a b : Authorization, NotesCollisionFree a b →
    ∀ belts, x402SignMessageBelts a = .ok belts → x402SignMessageBelts b = .ok belts →
      Agree (· = ·) a b := by
  intro binds
  obtain ⟨belts, message⟩ := signable_iff.mpr authorization_signable
  have agree := binds authorization extended extended_notesFree belts message
    (extended_belts.trans message)
  exact absurd agree.validBefore (by decide)

end Transparent

end X402Nockchain.Crypto
