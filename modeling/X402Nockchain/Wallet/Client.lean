import X402Nockchain.Foundation.Clock
import X402Nockchain.Crypto.Verifier
import X402Nockchain.Wallet.Surrogate

/-! `NockchainWalletClient`: the wallet that signs an authorization and builds
the chain transaction that pays it. -/

namespace X402Nockchain.Wallet

open Foundation X402Types Crypto Nockchain

inductive WalletBackendError where
  | transport (message : String)
  | insufficientFunds (message : String)
  | rejected (message : String)
  | unsupported (message : String)
  | other (message : String)
  deriving DecidableEq

def WalletBackendError.display : WalletBackendError → String
  | transport message => s!"wallet transport error: {message}"
  | insufficientFunds message => s!"insufficient funds: {message}"
  | rejected message => s!"user rejected signing: {message}"
  | unsupported message => s!"wallet does not support this transaction shape: {message}"
  | other message => message

/-- How a wallet call can end without a payment: with an error, or with a panic
of the code that it calls. -/
inductive WalletFailure where
  | error (error : WalletBackendError)
  | panic (message : String)
  deriving DecidableEq

/-- `Err(WalletBackendError::Other(…))`. -/
def other (message : String) : WalletFailure := .error (.other message)

structure AuthorizedPayment where
  envelopeSignature : SchnorrSignatureJson
  signedRawTx : SignedRawTx

/-- `trait WalletBackend`. -/
structure WalletBackend where
  payerPkh : String
  payerPubkeyBase58 : String
  authorizeAndSign : Authorization → PaymentRequirements → Except WalletFailure AuthorizedPayment

variable [Nockchain]

/-- `Seeds::to_noun`, the canonical encoder of a set of seeds. -/
class SeedsEncode where
  seedsToNoun : List Seed → Noun

/-- The two pokes of the wallet kernel. A poke leaves the kernel as it was. -/
structure WalletKernelHandle where
  sigHash : (seedsJammed : List UInt8) → (fee : UInt64) → Except String Hash
  txId : List (Name × Spend) → Except String Hash

/-- Built from a signing key alone, so its forms of the public key agree. -/
structure NockchainWalletClient [Vesl] where
  payerPkhEnvelopeB58 : String
  payerPkhChain : Hash
  payerPubkeyB58 : String
  payerPubkey : SchnorrPubkey
  skT8 : List.Vector Belt 8
  walletKernel : WalletKernelHandle
  derived : payerPubkey = derivePubkey skT8
  chainForm : payerPkhChain = pubkeyHash payerPubkey
  printed : pubkeyToBase58 payerPubkey = .ok payerPubkeyB58
  envelopeForm : ∃ bytes, Base58.decode payerPubkeyB58 = .ok bytes ∧
    payerPkhEnvelopeB58 = pkhFromPubkeyBytes bytes

/-- The condition under which the witness spends a note of the payer. -/
def buildInputCondition (payerPkh : Hash) : NoteLock → SpendCondition
  | .simplePkh => simplePkh payerPkh
  | .coinbasePkh timelockMin => coinbasePkh payerPkh timelockMin

def base58Hash (text field : String) : Except WalletFailure Hash :=
  (hashFromBase58 text).mapError fun e => other s!"decode {field}: {e}"

omit [Nockchain] in
def parseDecimal (text field : String) : Except WalletFailure UInt64 :=
  okOr (other s!"decode {field} `{text}` as u64") (Decimal.parseU64 text)

/-- The lock root of a condition, under the name of its role. -/
def lockRoot (condition : SpendCondition) (role : String) : Except WalletFailure Hash :=
  (lockHash condition).mapError fun e => other s!"{role} lock hash: {e}"

/-- `nockvm_macros::tas!`. -/
def tas (text : String) : Nat := Nat.ofDigits 256 ((asBytes text).map UInt8.toNat)

/-- `nockvm`'s `D`: a direct atom, which panics from `2^63` on. -/
def directAtom (value : UInt64) : Except WalletFailure UInt64 :=
  if value.toNat < 2 ^ 63 then .ok value else .error (.panic "direct atom out of range")

def jamSeedsCanonical [SeedsEncode] (seeds : List Seed) : List UInt8 :=
  jam (SeedsEncode.seedsToNoun seeds)

def kernelSigHashCanonical [SeedsEncode] (kernel : WalletKernelHandle) (seeds : List Seed)
    (fee : Nicks) : Except WalletFailure Hash := do
  let seedsJammed := jamSeedsCanonical seeds
  let feeNoun ← directAtom fee
  (kernel.sigHash seedsJammed feeNoun).mapError fun e => other s!"kernel %sig-hash poke: {e}"

namespace NockchainWalletClient

variable [Vesl]

def fromSigningKey (walletKernel : WalletKernelHandle) (skT8 : List.Vector Belt 8) :
    Except WalletBackendError NockchainWalletClient :=
  let payerPubkey := derivePubkey skT8
  match printed : pubkeyToBase58 payerPubkey with
  | .error e => .error (.other s!"encode pubkey base58: {e}")
  | .ok payerPubkeyB58 =>
    match decoded : Base58.decode payerPubkeyB58 with
    | .error e => .error (.other s!"decode pubkey b58: {e.display}")
    | .ok pkBytes => .ok {
        payerPkhEnvelopeB58 := pkhFromPubkeyBytes pkBytes
        payerPkhChain := pubkeyHash payerPubkey
        payerPubkeyB58, payerPubkey, skT8, walletKernel
        derived := rfl
        chainForm := rfl
        printed
        envelopeForm := ⟨pkBytes, decoded, rfl⟩ }

def payerPkh (wallet : NockchainWalletClient) : String := wallet.payerPkhEnvelopeB58

def payerPkhChainB58 (wallet : NockchainWalletClient) : String := hashToBase58 wallet.payerPkhChain

def cryptoSecretKey (wallet : NockchainWalletClient) : Except WalletFailure Vesl.SchnorrPrivateKey :=
  let scalar := Nat.ofDigits (2 ^ 32) (wallet.skT8.toList.map UInt64.toNat)
  (Vesl.newKey scalar).mapError fun e => other s!"rebuild secret scalar: {e}"

/-- What the checks before construction settle: the note to spend, and how its
assets are divided. -/
structure SpendPlan where
  note : NoteRef
  value : UInt64
  fee : UInt64
  change : UInt64

/-- Step 2: exactly one input note. -/
def inputNote (auth : Authorization) : Except WalletFailure NoteRef :=
  match auth.notes with
  | [note] => .ok note
  | notes => .error (.error (.unsupported
      (s!"NockchainWalletClient currently supports exactly one input note (auth.notes had " ++
        s!"{notes.length}). Multi-input spend support is deferred — it depends on lifting the " ++
        "single-spend constraint in `vesl_core::tx_builder::jam_spends_manual`.")))

/-- Steps 1 to 3: payer binding, one input note, solvency. -/
def planSpend (wallet : NockchainWalletClient) (auth : Authorization) :
    Except WalletFailure SpendPlan := do
  ensure (auth.from = wallet.payerPkhEnvelopeB58)
    (other (s!"authorization.from ({auth.from}) does not match this wallet's envelope PKH " ++
      s!"({wallet.payerPkhEnvelopeB58})"))
  let note ← inputNote auth
  let value ← parseDecimal auth.value "auth.value"
  let fee ← parseDecimal auth.fee "auth.fee"
  let assets ← parseDecimal note.assets "auth.notes[0].assets"
  let needed ← okOr (other "value + fee overflows u64") (checkedAdd value fee)
  ensure (¬ assets < needed) (.error (.insufficientFunds
    s!"input note carries {assets.toNat} nicks but auth.value + auth.fee = {needed.toNat}"))
  return { note, value, fee, change := assets - needed }

/-- The change seed of step 4, if anything is left over. -/
def changeSeeds (auth : Authorization) (change : UInt64) (parentHash : Hash) :
    Except WalletFailure (List Seed) :=
  if 0 < change then do
    let changePkh ← base58Hash auth.changeAddress "auth.change_address"
    let changeLockRoot ← lockRoot (simplePkh changePkh) "change"
    return [{
      outputSource := none
      lockRoot := changeLockRoot
      noteData := []
      gift := change
      parentHash }]
  else .ok []

/-- Steps 4 to 9: the outputs, the chain signature and the transaction id. -/
def buildRawTx [SeedsEncode] (wallet : NockchainWalletClient) (auth : Authorization)
    (plan : SpendPlan) : Except WalletFailure RawTx := do
  let recipientPkh ← base58Hash auth.to "auth.to"
  let parentHash ← base58Hash plan.note.name.last "auth.notes[0].name.last"
  let inputFirst ← base58Hash plan.note.name.first "auth.notes[0].name.first"
  let recipientLockRoot ← lockRoot (simplePkh recipientPkh) "output"
  let inputCondition := buildInputCondition wallet.payerPkhChain plan.note.lock
  let inputLockRoot ← lockRoot inputCondition "input"
  let paymentSeed : Seed := {
    outputSource := none
    lockRoot := recipientLockRoot
    noteData := []
    gift := plan.value
    parentHash }
  let change ← changeSeeds auth plan.change parentHash
  let seeds := paymentSeed :: change
  let sigHash ← kernelSigHashCanonical wallet.walletKernel seeds plan.fee
  let (chal, sig) ← (sign wallet.skT8 (hashToArray sigHash)).mapError fun e =>
    other s!"vesl_core::signing::sign (chain): {e}"
  let witness : Witness := {
    lockMerkleProof := fullProof {
      version := tas "full"
      spendCondition := inputCondition
      axis := 1
      proof := { root := inputLockRoot, path := [] } }
    pkhSignature := [{
      hash := wallet.payerPkhChain
      pubkey := wallet.payerPubkey
      signature := { chal, sig } }]
    hax := []
    tim := 0 }
  let name : Name := { first := inputFirst, last := parentHash }
  let spends := [(name, Spend.witness { witness, seeds, fee := plan.fee })]
  let txId ← (wallet.walletKernel.txId spends).mapError fun e => other s!"kernel %tx-id poke: {e}"
  return { version := .v1, id := txId, spends }

/-- Step 11: the envelope signature, with the same key. -/
def signEnvelope (wallet : NockchainWalletClient) (auth : Authorization) :
    Except WalletFailure SchnorrSignatureJson := do
  let envelopeMsg ← (x402SignMessageDigest auth).mapError fun e =>
    other s!"x402 sign_message: {e.display}"
  let skPriv ← wallet.cryptoSecretKey
  let (chal, sig) ← (Vesl.schnorrSign skPriv envelopeMsg).mapError fun e =>
    other s!"schnorr_sign envelope: {e}"
  let envelopeSignature ← (Vesl.encodeSignature (Vesl.publicKey skPriv) chal sig).mapError fun e =>
    other s!"encode envelope sig: {e}"
  return veslToX402 envelopeSignature

def authorizeAndSign [SeedsEncode] [Base64] (wallet : NockchainWalletClient) (auth : Authorization)
    (_requirements : PaymentRequirements) : Except WalletFailure AuthorizedPayment := do
  let plan ← wallet.planSpend auth
  let raw ← wallet.buildRawTx auth plan
  let signedRawTx ← (surrogateFromRawTx raw).mapError fun e => other s!"surrogate encode: {e}"
  let envelopeSignature ← wallet.signEnvelope auth
  return { envelopeSignature, signedRawTx }

def backend [SeedsEncode] [Base64] (wallet : NockchainWalletClient) : WalletBackend where
  payerPkh := wallet.payerPkh
  payerPubkeyBase58 := wallet.payerPubkeyB58
  authorizeAndSign := wallet.authorizeAndSign

/-! ### What an authorized payment is -/

omit [Nockchain] [Vesl] in
theorem inputNote_ok_iff {auth : Authorization} : inputNote auth = .ok note ↔ auth.notes = [note] := by
  unfold inputNote
  split
  · rename_i only notes
    simp [notes]
  · rename_i others
    simp only [reduceCtorEq, false_iff]
    exact others note

omit [Nockchain] [Vesl] in
/-- Enough assets are what is needed and the change. -/
theorem covers_iff {assets needed change : UInt64} :
    (¬ assets < needed ∧ assets - needed = change) ↔ assets.toNat = needed.toNat + change.toNat := by
  rw [UInt64.not_lt, ← UInt64.toNat_inj]
  constructor
  · rintro ⟨covered, rest⟩
    rw [UInt64.toNat_sub_of_le _ _ covered] at rest
    have := UInt64.le_iff_toNat_le.mp covered
    omega
  · intro total
    have covered : needed ≤ assets := UInt64.le_iff_toNat_le.mpr (by omega)
    rw [UInt64.toNat_sub_of_le _ _ covered]
    exact ⟨covered, by omega⟩

/-- The checks accept exactly one note whose assets split into value, fee and change. -/
theorem planSpend_ok_iff {wallet : NockchainWalletClient} {auth : Authorization} {plan : SpendPlan} :
    wallet.planSpend auth = .ok plan ↔
      auth.from = wallet.payerPkhEnvelopeB58 ∧ auth.notes = [plan.note] ∧
      Decimal.parseU64 auth.value = some plan.value ∧ Decimal.parseU64 auth.fee = some plan.fee ∧
      ∃ assets, Decimal.parseU64 plan.note.assets = some assets ∧
        assets.toNat = plan.value.toNat + plan.fee.toNat + plan.change.toNat := by
  simp only [planSpend, parseDecimal, Outcome.bind_ok, Outcome.ensure_ok, Outcome.okOr_ok,
    Outcome.pure_ok, inputNote_ok_iff, checkedAdd_eq_some]
  constructor
  · rintro ⟨_, own, note, notes, value, valueText, fee, feeText, assets, assetsText, needed, sum, _,
      covered, rfl⟩
    refine ⟨own, notes, valueText, feeText, assets, assetsText, ?_⟩
    rw [← sum]
    exact covers_iff.mp ⟨covered, rfl⟩
  · rintro ⟨own, notes, valueText, feeText, assets, assetsText, total⟩
    have sum : (plan.value + plan.fee).toNat = plan.value.toNat + plan.fee.toNat := by
      rw [UInt64.toNat_add]
      have := assets.toNat_lt
      omega
    obtain ⟨covered, change⟩ := covers_iff.mpr (sum ▸ total)
    exact ⟨(), own, plan.note, notes, plan.value, valueText, plan.fee, feeText, assets, assetsText,
      _, sum, (), covered, by rw [change]⟩

omit [Vesl] in
theorem changeSeeds_ok {auth : Authorization} {change : UInt64} {parentHash : Hash}
    (built : changeSeeds auth change parentHash = .ok seeds) :
    (change = 0 ∧ seeds = []) ∨ (0 < change ∧ ∃ changePkh changeLockRoot,
      hashFromBase58 auth.changeAddress = .ok changePkh ∧
      lockHash (simplePkh changePkh) = .ok changeLockRoot ∧
      seeds = [{
        outputSource := none
        lockRoot := changeLockRoot
        noteData := []
        gift := change
        parentHash }]) := by
  unfold changeSeeds at built
  by_cases positive : 0 < change
  · simp only [if_pos positive, Outcome.bind_ok, Outcome.pure_ok, base58Hash, Wallet.lockRoot, Outcome.mapError_ok]
      at built
    obtain ⟨changePkh, decoded, changeLockRoot, hashed, rfl⟩ := built
    exact .inr ⟨positive, changePkh, changeLockRoot, decoded, hashed, rfl⟩
  · rw [if_neg positive] at built
    obtain rfl := Except.ok.inj built
    exact .inl ⟨by simpa using positive, rfl⟩

/-- The shape of a built transaction: one spend of the planned note, whose first
seed pays the recipient. -/
structure Built (auth : Authorization) (plan : SpendPlan) (raw : RawTx) (name : Name)
    (recipientLockRoot : Hash) (change : List Seed) (witness : Witness) : Prop where
  first : hashFromBase58 plan.note.name.first = .ok name.first
  last : hashFromBase58 plan.note.name.last = .ok name.last
  recipient : ∃ recipientPkh, hashFromBase58 auth.to = .ok recipientPkh ∧
    lockHash (simplePkh recipientPkh) = .ok recipientLockRoot
  left : changeSeeds auth plan.change name.last = .ok change
  version : raw.version = .v1
  spends : raw.spends = [(name, .witness {
    witness
    seeds := {
      outputSource := none
      lockRoot := recipientLockRoot
      noteData := []
      gift := plan.value
      parentHash := name.last } :: change
    fee := plan.fee })]

theorem buildRawTx_ok [SeedsEncode] {wallet : NockchainWalletClient} {auth : Authorization}
    {plan : SpendPlan} (built : wallet.buildRawTx auth plan = .ok raw) :
    ∃ name recipientLockRoot change witness, Built auth plan raw name recipientLockRoot change witness := by
  simp only [buildRawTx, Outcome.bind_ok, Outcome.pure_ok, base58Hash, Wallet.lockRoot,
    Outcome.mapError_ok] at built
  obtain ⟨recipientPkh, recipient, parentHash, last, inputFirst, first, recipientLockRoot, hashed,
    inputLockRoot, _, change, left, sigHash, _, ⟨chal, sig⟩, _, txId, _, rfl⟩ := built
  exact ⟨⟨inputFirst, parentHash⟩, recipientLockRoot, change, _, {
    first, last
    recipient := ⟨recipientPkh, recipient, hashed⟩
    left
    version := rfl
    spends := rfl }⟩

omit [Vesl] in
/-- The wallet writes no note data and names no output source. -/
theorem Built.readable {raw : RawTx}
    (built : Built auth plan raw name recipientLockRoot change witness) : raw.Readable := by
  have plain : ∀ seed ∈ change, seed.outputSource = none ∧ seed.noteData = [] := by
    obtain ⟨_, rfl⟩ | ⟨_, _, _, _, _, rfl⟩ := changeSeeds_ok built.left <;> simp
  intro name' spend member seed inside
  rw [built.spends, List.mem_singleton, Prod.mk.injEq, Spend.witness.injEq] at member
  obtain ⟨_, rfl⟩ := member
  obtain rfl | rest := List.mem_cons.mp inside
  · exact ⟨by simp, by simp⟩
  · obtain ⟨source, data⟩ := plain seed rest
    exact ⟨by simp [source], by simp [data]⟩

theorem authorizeAndSign_ok [SeedsEncode] [Base64] {wallet : NockchainWalletClient}
    {auth : Authorization} {requirements : PaymentRequirements}
    (signed : wallet.authorizeAndSign auth requirements = .ok payment) :
    ∃ plan raw, wallet.planSpend auth = .ok plan ∧ wallet.buildRawTx auth plan = .ok raw ∧
      surrogateFromRawTx raw = .ok payment.signedRawTx ∧
      wallet.signEnvelope auth = .ok payment.envelopeSignature := by
  simp only [authorizeAndSign, Outcome.bind_ok, Outcome.pure_ok, Outcome.mapError_ok] at signed
  obtain ⟨plan, planned, raw, built, signedRawTx, encoded, envelopeSignature, sealed, rfl⟩ := signed
  exact ⟨plan, raw, planned, built, encoded, sealed⟩

end NockchainWalletClient

end X402Nockchain.Wallet
