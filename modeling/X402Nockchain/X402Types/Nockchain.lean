import X402Nockchain.X402Types.Payment

/-! The Nockchain payload of `x402-types::nockchain` and the JSON surrogate of a
signed transaction. -/

namespace X402Nockchain.X402Types

open Foundation.Serde

structure SignedNoteName where
  first : String
  last : String
  deriving DecidableEq

structure SignedSchnorrAtoms where
  chal : List.Vector String 8
  sig : List.Vector String 8
  deriving DecidableEq

structure SignedPkhSignatureEntry where
  hash : String
  pubkey : String
  signature : SignedSchnorrAtoms
  deriving DecidableEq

structure SignedHaxPreimage where
  hash : String
  valueNoun : String
  deriving DecidableEq

structure SignedWitness where
  lockMerkleProofNoun : String
  pkhSignature : List SignedPkhSignatureEntry
  hax : List SignedHaxPreimage := []
  tim : UInt64 := 0
  deriving DecidableEq

structure SignedSeed where
  outputSourceNoun : Option String := none
  lockRoot : String
  noteDataNoun : Option String := none
  gift : String
  parentHash : String
  deriving DecidableEq

structure SignedSpend where
  witness : SignedWitness
  seeds : List SignedSeed
  fee : String
  deriving DecidableEq

structure SignedSpendEntry where
  name : SignedNoteName
  spend : SignedSpend
  deriving DecidableEq

/-- JSON surrogate of a chain-ready, fully signed `RawTx`. -/
structure SignedRawTx where
  version : String
  txId : String
  spends : List SignedSpendEntry
  deriving DecidableEq

/-- The `payload` of a Nockchain payment. The transaction travels beside the
signed authorization, not inside it. -/
structure ExactNockchainPayload where
  signature : SchnorrSignatureJson
  authorization : Authorization
  signedRawTx : Option SignedRawTx := none
  deriving DecidableEq

/-- `upto` changes what a verifier accepts, not the wire shape. -/
abbrev UptoNockchainPayload := ExactNockchainPayload

/-! ### JSON forms -/

instance : Struct SignedNoteName where
  width := 2
  fields name := [("first", some (toValue name.first)), ("last", some (toValue name.last))]
  read source := do
    return {
      first := ← source.required 0 "first"
      last := ← source.required 1 "last" }

instance : RoundTrips SignedNoteName := Struct.roundTrips fun name => by
  simp (disch := simp) [Struct.read, Struct.fields, List.lookup_cons]

instance : Struct SignedSchnorrAtoms where
  width := 2
  fields atoms := [("chal", some (toValue atoms.chal)), ("sig", some (toValue atoms.sig))]
  read source := do
    return {
      chal := ← source.required 0 "chal"
      sig := ← source.required 1 "sig" }

instance : RoundTrips SignedSchnorrAtoms := Struct.roundTrips fun atoms => by
  simp (disch := simp) [Struct.read, Struct.fields, List.lookup_cons]

instance : Struct SignedPkhSignatureEntry where
  width := 3
  fields entry := [("hash", some (toValue entry.hash)), ("pubkey", some (toValue entry.pubkey)),
    ("signature", some (toValue entry.signature))]
  read source := do
    return {
      hash := ← source.required 0 "hash"
      pubkey := ← source.required 1 "pubkey"
      signature := ← source.required 2 "signature" }

instance : RoundTrips SignedPkhSignatureEntry := Struct.roundTrips fun entry => by
  simp (disch := simp) [Struct.read, Struct.fields, List.lookup_cons]

instance : Struct SignedHaxPreimage where
  width := 2
  fields preimage := [("hash", some (toValue preimage.hash)),
    ("valueNoun", some (toValue preimage.valueNoun))]
  read source := do
    return {
      hash := ← source.required 0 "hash"
      valueNoun := ← source.required 1 "valueNoun" }

instance : RoundTrips SignedHaxPreimage := Struct.roundTrips fun preimage => by
  simp (disch := simp) [Struct.read, Struct.fields, List.lookup_cons]

instance : Struct SignedWitness where
  width := 4
  fields witness := [("lockMerkleProofNoun", some (toValue witness.lockMerkleProofNoun)),
    ("pkhSignature", some (toValue witness.pkhSignature)),
    ("hax", if witness.hax.isEmpty then none else some (toValue witness.hax)),
    ("tim", some (toValue witness.tim))]
  read source := do
    return {
      lockMerkleProofNoun := ← source.required 0 "lockMerkleProofNoun"
      pkhSignature := ← source.required 1 "pkhSignature"
      hax := ← source.defaulted 2 "hax" []
      tim := ← source.defaulted 3 "tim" 0 }

instance : RoundTrips SignedWitness := Struct.roundTrips fun witness => by
  obtain ⟨lockMerkleProofNoun, pkhSignature, hax, tim⟩ := witness
  cases hax <;> simp (disch := simp) [Struct.read, Struct.fields, List.lookup_cons]

instance : Struct SignedSeed where
  width := 5
  fields seed := [("outputSourceNoun", skipNone seed.outputSourceNoun),
    ("lockRoot", some (toValue seed.lockRoot)), ("noteDataNoun", skipNone seed.noteDataNoun),
    ("gift", some (toValue seed.gift)), ("parentHash", some (toValue seed.parentHash))]
  read source := do
    return {
      outputSourceNoun := ← source.defaulted 0 "outputSourceNoun" none
      lockRoot := ← source.required 1 "lockRoot"
      noteDataNoun := ← source.defaulted 2 "noteDataNoun" none
      gift := ← source.required 3 "gift"
      parentHash := ← source.required 4 "parentHash" }

instance : RoundTrips SignedSeed := Struct.roundTrips fun seed => by
  simp (disch := simp) [Struct.read, Struct.fields, List.lookup_cons, elim_skipNone]

instance : Struct SignedSpend where
  width := 3
  fields spend := [("witness", some (toValue spend.witness)),
    ("seeds", some (toValue spend.seeds)), ("fee", some (toValue spend.fee))]
  read source := do
    return {
      witness := ← source.required 0 "witness"
      seeds := ← source.required 1 "seeds"
      fee := ← source.required 2 "fee" }

instance : RoundTrips SignedSpend := Struct.roundTrips fun spend => by
  simp (disch := simp) [Struct.read, Struct.fields, List.lookup_cons]

instance : Struct SignedSpendEntry where
  width := 2
  fields entry := [("name", some (toValue entry.name)), ("spend", some (toValue entry.spend))]
  read source := do
    return {
      name := ← source.required 0 "name"
      spend := ← source.required 1 "spend" }

instance : RoundTrips SignedSpendEntry := Struct.roundTrips fun entry => by
  simp (disch := simp) [Struct.read, Struct.fields, List.lookup_cons]

instance : Struct SignedRawTx where
  width := 3
  fields tx := [("version", some (toValue tx.version)), ("txId", some (toValue tx.txId)),
    ("spends", some (toValue tx.spends))]
  read source := do
    return {
      version := ← source.required 0 "version"
      txId := ← source.required 1 "txId"
      spends := ← source.required 2 "spends" }

instance : RoundTrips SignedRawTx := Struct.roundTrips fun tx => by
  simp (disch := simp) [Struct.read, Struct.fields, List.lookup_cons]

instance : Struct ExactNockchainPayload where
  width := 3
  fields payload := [("signature", some (toValue payload.signature)),
    ("authorization", some (toValue payload.authorization)),
    ("signedRawTx", skipNone payload.signedRawTx)]
  read source := do
    return {
      signature := ← source.required 0 "signature"
      authorization := ← source.required 1 "authorization"
      signedRawTx := ← source.defaulted 2 "signedRawTx" none }

instance : RoundTrips ExactNockchainPayload := Struct.roundTrips fun payload => by
  simp (disch := simp) [Struct.read, Struct.fields, List.lookup_cons, elim_skipNone]

end X402Nockchain.X402Types
