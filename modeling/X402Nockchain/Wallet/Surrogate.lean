import X402Nockchain.Foundation.Outcome
import X402Nockchain.X402Types.Nockchain
import X402Nockchain.Wallet.Nockchain

/-! `surrogate.rs`: a chain transaction as JSON and back. An error is the text
that its `Display` shows. -/

namespace X402Nockchain.Wallet

open Foundation X402Types Nockchain

section Surrogates

variable [Nockchain] [Base64]

/-! ### `RawTx` to `SignedRawTx` -/

def encodeNoun (codec : NounCodec Noun α) (value : α) : String :=
  Base64.encode (jam (codec.toNoun value))

def schnorrToAtoms (signature : SchnorrSignature) : SignedSchnorrAtoms where
  chal := signature.chal.map Decimal.u64ToString
  sig := signature.sig.map Decimal.u64ToString

def signedSeed (seed : Seed) : SignedSeed where
  outputSourceNoun := seed.outputSource.map (encodeNoun sourceCodec)
  lockRoot := hashToBase58 seed.lockRoot
  noteDataNoun := if seed.noteData.isEmpty then none else some (encodeNoun noteDataCodec seed.noteData)
  gift := Decimal.u64ToString seed.gift
  parentHash := hashToBase58 seed.parentHash

def signedHax (hax : HaxPreimage) : SignedHaxPreimage where
  hash := hashToBase58 hax.hash
  valueNoun := Base64.encode hax.value

def signedPkhEntry (entry : PkhSignatureEntry) : Except String SignedPkhSignatureEntry := do
  let pubkey ← (pubkeyToBase58 entry.pubkey).mapError fun e => s!"encode pubkey to base58: {e}"
  return { hash := hashToBase58 entry.hash, pubkey, signature := schnorrToAtoms entry.signature }

def signedWitness (witness : Witness) : Except String SignedWitness := do
  let pkhSignature ← witness.pkhSignature.mapM signedPkhEntry
  return {
    lockMerkleProofNoun := encodeNoun lockMerkleProofCodec witness.lockMerkleProof
    pkhSignature
    hax := witness.hax.map signedHax
    tim := witness.tim }

def signedSpend (spend : Spend1) : Except String SignedSpend := do
  let witness ← signedWitness spend.witness
  return { witness, seeds := spend.seeds.map signedSeed, fee := Decimal.u64ToString spend.fee }

def signedSpendEntry : Name × Spend → Except String SignedSpendEntry
  | (_, .legacy _) => .error "legacy (v0) spends are not supported by the surrogate"
  | (name, .witness spend1) => do
    let spend ← signedSpend spend1
    return { name := { first := hashToBase58 name.first, last := hashToBase58 name.last }, spend }

def surrogateFromRawTx (raw : RawTx) : Except String SignedRawTx := do
  ensure (raw.version = .v1) "only v1 RawTx is supported by the SignedRawTx surrogate"
  let spends ← raw.spends.mapM signedSpendEntry
  return { version := "v1", txId := hashToBase58 raw.id, spends }

/-! ### `SignedRawTx` to `RawTx` -/

def decodeNoun (codec : NounCodec Noun α) (b64 : String) : Except String α := do
  let bytes ← context (Base64.decode b64) "decode jammed-noun base58"
  let cued ← (cue bytes).mapError fun e => s!"cue jammed bytes: {e}"
  (codec.fromNoun cued).mapError fun e => s!"decode noun: {e}"

/-- `Hash::from_base58` under the name of what is decoded. -/
def decodeHash (text what : String) : Except String Hash :=
  (hashFromBase58 text).mapError fun e => s!"decode {what}: {e}"

/-- The entries from `index` on of `parse_belt_array`. -/
def parseBeltsFrom (field : String) : (index count : Nat) → List.Vector String count →
    Except String (List.Vector Crypto.Belt count)
  | _, 0, _ => .ok .nil
  | index, count + 1, texts => do
    let value ← okOr s!"decode {field}[{index}] `{texts.head}` as u64" (Decimal.parseU64 texts.head)
    let rest ← parseBeltsFrom field (index + 1) count texts.tail
    return value ::ᵥ rest

def parseBeltArray (texts : List.Vector String 8) (field : String) :
    Except String (List.Vector Crypto.Belt 8) :=
  parseBeltsFrom field 0 8 texts

def schnorrFromAtoms (atoms : SignedSchnorrAtoms) : Except String SchnorrSignature := do
  let chal ← parseBeltArray atoms.chal "chal"
  let sig ← parseBeltArray atoms.sig "sig"
  return { chal, sig }

def seedFromSurrogate (seed : SignedSeed) : Except String Seed := do
  let outputSource ← match seed.outputSourceNoun with
    | some b64 => (context (decodeNoun sourceCodec b64) "decode Seed.output_source").map some
    | none => .ok none
  let lockRoot ← decodeHash seed.lockRoot "Seed.lock_root"
  let noteData ← match seed.noteDataNoun with
    | some b64 => context (decodeNoun noteDataCodec b64) "decode Seed.note_data"
    | none => .ok []
  let gift ← okOr s!"decode Seed.gift `{seed.gift}` as u64" (Decimal.parseU64 seed.gift)
  let parentHash ← decodeHash seed.parentHash "Seed.parent_hash"
  return { outputSource, lockRoot, noteData, gift, parentHash }

def haxFromSurrogate (hax : SignedHaxPreimage) : Except String HaxPreimage := do
  let hash ← decodeHash hax.hash "HaxPreimage.hash"
  let value ← context (Base64.decode hax.valueNoun) "decode HaxPreimage.value_noun base64"
  return { hash, value }

def pkhEntryFromSurrogate (entry : SignedPkhSignatureEntry) : Except String PkhSignatureEntry := do
  let hash ← decodeHash entry.hash "pkh entry hash"
  let pubkey ← (pubkeyFromBase58 entry.pubkey).mapError fun e => s!"decode pkh entry pubkey: {e}"
  let signature ← schnorrFromAtoms entry.signature
  return { hash, pubkey, signature }

def witnessFromSurrogate (witness : SignedWitness) : Except String Witness := do
  let lockMerkleProof ← context (decodeNoun lockMerkleProofCodec witness.lockMerkleProofNoun)
    "decode SignedWitness.lock_merkle_proof_noun"
  let pkhSignature ← witness.pkhSignature.mapM pkhEntryFromSurrogate
  let hax ← witness.hax.mapM haxFromSurrogate
  return { lockMerkleProof, pkhSignature, hax, tim := witness.tim }

def spend1FromSurrogate (spend : SignedSpend) : Except String Spend1 := do
  let witness ← witnessFromSurrogate spend.witness
  let seeds ← spend.seeds.mapM seedFromSurrogate
  let fee ← okOr s!"decode SignedSpend.fee `{spend.fee}` as u64" (Decimal.parseU64 spend.fee)
  return { witness, seeds, fee }

def spendPairFromSurrogate (entry : SignedSpendEntry) : Except String (Name × Spend) := do
  let first ← decodeHash entry.name.first "spend name.first"
  let last ← decodeHash entry.name.last "spend name.last"
  let spend ← spend1FromSurrogate entry.spend
  return ({ first, last }, .witness spend)

def rawTxFromSurrogate (signed : SignedRawTx) : Except String RawTx := do
  ensure (signed.version = "v1")
    s!"unsupported SignedRawTx version `{signed.version}` (only `v1` is accepted)"
  let id ← decodeHash signed.txId "SignedRawTx.tx_id"
  let spends ← signed.spends.mapM spendPairFromSurrogate
  return { version := .v1, id, spends }

/-! ### The round trip -/

/-- The noun codecs give back what a seed carries. -/
structure Seed.Readable (seed : Seed) : Prop where
  outputSource : ∀ source ∈ seed.outputSource,
    sourceCodec.fromNoun (sourceCodec.toNoun source) = .ok source
  noteData : seed.noteData ≠ [] →
    noteDataCodec.fromNoun (noteDataCodec.toNoun seed.noteData) = .ok seed.noteData

/-- Every seed of a transaction is readable. -/
def RawTx.Readable (raw : RawTx) : Prop :=
  ∀ name spend, (name, Spend.witness spend) ∈ raw.spends → ∀ seed ∈ spend.seeds, seed.Readable

section RoundTrip

variable [LawfulNockchain] [LawfulBase64]

omit [Base64] [LawfulBase64] in
@[simp] theorem decodeHash_toBase58 (hash : Hash) (what : String) :
    decodeHash (hashToBase58 hash) what = .ok hash := by
  simp [decodeHash]

theorem decodeNoun_encodeNoun {codec : NounCodec Noun α}
    (inverse : codec.fromNoun (codec.toNoun value) = .ok value) :
    decodeNoun codec (encodeNoun codec value) = .ok value := by
  simp [decodeNoun, encodeNoun, inverse]

omit [Nockchain] [Base64] [LawfulNockchain] [LawfulBase64] in
@[simp] theorem parseBeltsFrom_map (field : String) (index : Nat)
    (belts : List.Vector Crypto.Belt count) :
    parseBeltsFrom field index count (belts.map Decimal.u64ToString) = .ok belts := by
  induction count generalizing index with
  | zero => exact congrArg Except.ok (List.Vector.eq_nil belts).symm
  | succ count ih =>
    obtain ⟨head, rest, rfl⟩ := belts.exists_eq_cons
    simp [parseBeltsFrom, ih]

omit [Nockchain] [Base64] [LawfulNockchain] [LawfulBase64] in
@[simp] theorem schnorrFromAtoms_toAtoms (signature : SchnorrSignature) :
    schnorrFromAtoms (schnorrToAtoms signature) = .ok signature := by
  simp [schnorrFromAtoms, schnorrToAtoms, parseBeltArray]

theorem seedFromSurrogate_signedSeed {seed : Seed} (readable : seed.Readable) :
    seedFromSurrogate (signedSeed seed) = .ok seed := by
  obtain ⟨outputSource, lockRoot, noteData, gift, parentHash⟩ := seed
  obtain ⟨sourceRead, noteDataRead⟩ := readable
  have source (value : Source) (found : outputSource = some value) :
      decodeNoun sourceCodec (encodeNoun sourceCodec value) = .ok value :=
    decodeNoun_encodeNoun (sourceRead value found)
  have data (present : noteData ≠ []) :
      decodeNoun noteDataCodec (encodeNoun noteDataCodec noteData) = .ok noteData :=
    decodeNoun_encodeNoun (noteDataRead present)
  cases outputSource <;> cases noteData <;>
    simp_all [seedFromSurrogate, signedSeed]

@[simp] theorem haxFromSurrogate_signedHax (hax : HaxPreimage) :
    haxFromSurrogate (signedHax hax) = .ok hax := by
  simp [haxFromSurrogate, signedHax]

omit [Base64] [LawfulBase64] in
theorem pkhEntryFromSurrogate_signedPkhEntry (encoded : signedPkhEntry entry = .ok signed) :
    pkhEntryFromSurrogate signed = .ok entry := by
  simp only [signedPkhEntry, Outcome.bind_ok, Outcome.mapError_ok, Outcome.pure_ok] at encoded
  obtain ⟨pubkey, printed, rfl⟩ := encoded
  simp [pkhEntryFromSurrogate, LawfulNockchain.pubkeyFromBase58_toBase58 printed]

theorem witnessFromSurrogate_signedWitness (encoded : signedWitness witness = .ok signed) :
    witnessFromSurrogate signed = .ok witness := by
  simp only [signedWitness, Outcome.bind_ok, Outcome.pure_ok] at encoded
  obtain ⟨pkhSignature, entries, rfl⟩ := encoded
  have proof : decodeNoun lockMerkleProofCodec (encodeNoun lockMerkleProofCodec witness.lockMerkleProof) =
      .ok witness.lockMerkleProof := decodeNoun_encodeNoun (by simp)
  have signatures : pkhSignature.mapM pkhEntryFromSurrogate = .ok witness.pkhSignature :=
    Outcome.mapM_inverse (fun _ _ _ => pkhEntryFromSurrogate_signedPkhEntry) entries
  have preimages : (witness.hax.map signedHax).mapM haxFromSurrogate = .ok witness.hax :=
    Outcome.mapM_map_ok fun hax _ => haxFromSurrogate_signedHax hax
  simp [witnessFromSurrogate, proof, signatures, preimages]

theorem spend1FromSurrogate_signedSpend {spend : Spend1}
    (readable : ∀ seed ∈ spend.seeds, seed.Readable) (encoded : signedSpend spend = .ok signed) :
    spend1FromSurrogate signed = .ok spend := by
  simp only [signedSpend, Outcome.bind_ok, Outcome.pure_ok] at encoded
  obtain ⟨witness, witnessed, rfl⟩ := encoded
  have seeds : (spend.seeds.map signedSeed).mapM seedFromSurrogate = .ok spend.seeds :=
    Outcome.mapM_map_ok fun seed member => seedFromSurrogate_signedSeed (readable seed member)
  simp [spend1FromSurrogate, witnessFromSurrogate_signedWitness witnessed, seeds]

theorem spendPairFromSurrogate_signedSpendEntry {pair : Name × Spend}
    (readable : ∀ spend, pair.2 = .witness spend → ∀ seed ∈ spend.seeds, seed.Readable)
    (encoded : signedSpendEntry pair = .ok signed) : spendPairFromSurrogate signed = .ok pair := by
  obtain ⟨name, spend⟩ := pair
  cases spend with
  | legacy spend => cases encoded
  | witness spend =>
    simp only [signedSpendEntry, Outcome.bind_ok, Outcome.pure_ok] at encoded
    obtain ⟨image, spent, rfl⟩ := encoded
    simp [spendPairFromSurrogate, spend1FromSurrogate_signedSpend (readable spend rfl) spent]

/-- What the surrogate carries is read back as it was. -/
theorem rawTxFromSurrogate_surrogateFromRawTx {raw : RawTx} (readable : raw.Readable)
    (encoded : surrogateFromRawTx raw = .ok signed) : rawTxFromSurrogate signed = .ok raw := by
  simp only [surrogateFromRawTx, Outcome.bind_ok, Outcome.ensure_ok, Outcome.pure_ok] at encoded
  obtain ⟨_, version, spends, entries, rfl⟩ := encoded
  have pairs : spends.mapM spendPairFromSurrogate = .ok raw.spends := by
    refine Outcome.mapM_inverse (fun pair member image => ?_) entries
    exact spendPairFromSurrogate_signedSpendEntry fun spend same =>
      readable pair.1 spend (same ▸ member)
  obtain ⟨_, id, _⟩ := raw
  subst version
  simp [rawTxFromSurrogate, pairs, ensure]

end RoundTrip

/-! ### What has a surrogate -/

/-- Every public key that signs a spend has a base58 form. -/
def Spend1.PubkeysEncode (spend : Spend1) : Prop :=
  ∀ entry ∈ spend.witness.pkhSignature, ∃ text, pubkeyToBase58 entry.pubkey = .ok text

/-- A spend of a v1 note whose public keys encode. -/
def Spend.Encodable (spend : Spend) : Prop := ∃ witnessed, spend = .witness witnessed ∧ witnessed.PubkeysEncode

theorem signedWitness_succeeds {spend : Spend1} (encode : spend.PubkeysEncode) :
    ∃ signed, signedWitness spend.witness = .ok signed := by
  have each : ∀ entry ∈ spend.witness.pkhSignature, ∃ image, signedPkhEntry entry = .ok image := by
    intro entry member
    obtain ⟨text, printed⟩ := encode entry member
    exact ⟨⟨hashToBase58 entry.hash, text, schnorrToAtoms entry.signature⟩, by simp [signedPkhEntry, printed]⟩
  obtain ⟨entries, encoded⟩ := Outcome.mapM_succeeds each
  simp [signedWitness, encoded]

/-- A witness spend is encoded once its public keys are; a legacy spend never is. -/
theorem signedSpendEntry_succeeds_iff {name : Name} {spend : Spend} :
    (∃ signed, signedSpendEntry (name, spend) = .ok signed) ↔ spend.Encodable := by
  constructor
  · rintro ⟨signed, encoded⟩
    cases spend with
    | legacy spend => cases encoded
    | witness spend =>
      refine ⟨spend, rfl, fun entry member => ?_⟩
      simp only [signedSpendEntry, signedSpend, signedWitness, Outcome.bind_ok] at encoded
      obtain ⟨_, ⟨_, ⟨entries, encoded, _⟩, _⟩, _⟩ := encoded
      obtain ⟨image, printed⟩ := Outcome.mapM_each encoded entry member
      simp only [signedPkhEntry, Outcome.bind_ok, Outcome.mapError_ok] at printed
      obtain ⟨text, printed, _⟩ := printed
      exact ⟨text, printed⟩
  · rintro ⟨witnessed, rfl, encode⟩
    obtain ⟨witness, encoded⟩ := signedWitness_succeeds encode
    simp [signedSpendEntry, signedSpend, encoded]

/-- A transaction has a surrogate exactly when it is a v1 transaction of encodable spends. -/
theorem surrogateFromRawTx_succeeds_iff {raw : RawTx} :
    (∃ signed, surrogateFromRawTx raw = .ok signed) ↔
      raw.version = .v1 ∧ ∀ name spend, (name, spend) ∈ raw.spends → spend.Encodable := by
  simp only [surrogateFromRawTx, Outcome.bind_ok, Outcome.ensure_ok, Outcome.pure_ok]
  constructor
  · rintro ⟨signed, _, version, spends, encoded, rfl⟩
    exact ⟨version, fun name spend member =>
      signedSpendEntry_succeeds_iff.mp (Outcome.mapM_each encoded (name, spend) member)⟩
  · rintro ⟨version, encodable⟩
    obtain ⟨spends, encoded⟩ := Outcome.mapM_succeeds (f := signedSpendEntry) fun pair member =>
      signedSpendEntry_succeeds_iff.mpr (encodable pair.1 pair.2 member)
    exact ⟨_, (), version, spends, encoded, rfl⟩

/-- A v1 transaction of encodable witness spends survives its surrogate, and any
transaction of another version or with a legacy spend has none. -/
theorem surrogate_round_trip [LawfulNockchain] [LawfulBase64] :
    (∀ raw : RawTx, raw.version = .v1 →
      (∀ name spend, (name, spend) ∈ raw.spends → spend.Encodable) → raw.Readable →
        ∃ signed, surrogateFromRawTx raw = .ok signed ∧ rawTxFromSurrogate signed = .ok raw) ∧
    ∀ raw : RawTx, raw.version ≠ .v1 ∨ (∃ name spend, (name, .legacy spend) ∈ raw.spends) →
      ∃ error, surrogateFromRawTx raw = .error error := by
  constructor
  · intro raw version encodable readable
    obtain ⟨signed, encoded⟩ := surrogateFromRawTx_succeeds_iff.mpr ⟨version, encodable⟩
    exact ⟨signed, encoded, rawTxFromSurrogate_surrogateFromRawTx readable encoded⟩
  · intro raw other
    cases outcome : surrogateFromRawTx raw with
    | error error => exact ⟨error, rfl⟩
    | ok signed =>
      obtain ⟨version, encodable⟩ := surrogateFromRawTx_succeeds_iff.mp ⟨signed, outcome⟩
      rcases other with newer | ⟨name, spend, member⟩
      · exact absurd version newer
      · obtain ⟨_, same, _⟩ := encodable name (.legacy spend) member
        cases same

end Surrogates

/-! ### A transaction with every kind of part -/

namespace Transparent

attribute [local instance] transparentChain transparentChain_lawful spelledBase64 spelledBase64_lawful

def parts : Spend1 where
  witness := {
    lockMerkleProof := ([1] : List UInt8)
    pkhSignature := [{
      hash := ([2] : List UInt8)
      pubkey := (7 : Crypto.Belt)
      signature := ⟨List.Vector.replicate 8 3, List.Vector.replicate 8 4⟩ }]
    hax := [⟨([5] : List UInt8), [6]⟩]
    tim := 9 }
  seeds := [⟨some (), ([1] : List UInt8), [()], 5, ([2] : List UInt8)⟩,
    ⟨none, ([3] : List UInt8), [], 6, ([4] : List UInt8)⟩]
  fee := 2

def transaction (version : Version) (spend : Spend) : RawTx where
  version := version
  id := ([8] : List UInt8)
  spends := [(⟨([5] : List UInt8), ([6] : List UInt8)⟩, spend)]

theorem parts_readable : (transaction .v1 (.witness parts)).Readable := by
  intro name spend member seed seeds
  refine ⟨fun source _ => rfl, fun _ => ?_⟩
  have counted : (List.replicate seed.noteData.length (0 : UInt8)).length = seed.noteData.length := by simp
  change Except.ok (List.replicate (List.replicate seed.noteData.length (0 : UInt8)).length ()) = _
  rw [counted]
  exact congrArg Except.ok (List.eq_replicate_length.mpr fun _ _ => rfl).symm

theorem surrogate_round_trip_parts :
    (∃ signed, surrogateFromRawTx (transaction .v1 (.witness parts)) = .ok signed ∧
      rawTxFromSurrogate signed = .ok (transaction .v1 (.witness parts))) ∧
    (∃ error, surrogateFromRawTx (transaction (.other 2) (.witness parts)) = .error error) ∧
    ∃ error, surrogateFromRawTx (transaction .v1 (.legacy ())) = .error error := by
  obtain ⟨returned, refused⟩ := surrogate_round_trip
  refine ⟨returned _ rfl ?_ parts_readable, refused _ (.inl nofun),
    refused _ (.inr ⟨_, (), List.mem_cons_self⟩)⟩
  intro name spend member
  obtain ⟨_, rfl⟩ := Prod.mk.inj (List.mem_singleton.mp member)
  exact ⟨parts, rfl, fun entry _ => ⟨_, rfl⟩⟩

end Transparent

end X402Nockchain.Wallet
