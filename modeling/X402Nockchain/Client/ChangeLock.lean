import X402Nockchain.Client.Builder
import X402Nockchain.Facilitator.Honest
import X402Nockchain.Wallet.Fulfilment

/-! Where the change of a payment goes. The builder names the payer's
envelope-form PKH, and the payer's notes are locked to the chain-form PKH. -/

namespace X402Nockchain.Client

open Foundation Foundation.Serde X402Types Crypto Wallet NockchainWalletClient

section Change

variable [Vesl] [Nockchain] [SeedsEncode] [Base64]

/-- The note holds more than the requirements ask for. -/
def Surplus (requirements : PaymentRequirements) (note : NoteRef) : Prop :=
  ∃ value fee assets, Decimal.parseU64 requirements.maxAmountRequired = some value ∧
    Decimal.parseU64 (offeredFee requirements) = some fee ∧
    Decimal.parseU64 note.assets = some assets ∧ value.toNat + fee.toNat < assets.toNat

/-- The outputs beside the payment, which is the first of its spend. -/
def changeSeedsOf (signed : SignedRawTx) : List SignedSeed :=
  signed.spends.flatMap fun entry => entry.spend.seeds.tail

/-- The input lock root that the wallet computes for a plain note of its own. -/
def OwnLockRoot (wallet : NockchainWalletClient) (text : String) : Prop :=
  ∃ root, lockHash (buildInputCondition wallet.payerPkhChain .simplePkh) = .ok root ∧
    text = hashToBase58 root

/-- The payload carries one change output, and the wallet can spend it. -/
def ChangeReturns (wallet : NockchainWalletClient) (payload : PaymentPayload Value) : Prop :=
  ∃ (nock : ExactNockchainPayload) (signed : SignedRawTx) (seed : SignedSeed),
    fromValue payload.payload = some nock ∧ nock.signedRawTx = some signed ∧
    changeSeedsOf signed = [seed] ∧ OwnLockRoot wallet seed.lockRoot

/-- `Lock::hash` tells the two forms of the wallet's key apart, if they differ. -/
def LockCollisionFree (wallet : NockchainWalletClient) : Prop :=
  ∀ pkh root, hashFromBase58 wallet.payerPkh = .ok pkh → lockHash (simplePkh pkh) = .ok root →
    lockHash (simplePkh wallet.payerPkhChain) = .ok root → pkh = wallet.payerPkhChain

variable {wallet : NockchainWalletClient} {requirements : PaymentRequirements} {note : NoteRef}
  {payload : PaymentPayload Value} {nonce : RandomBytes}
  {echoExtensions : Option (List (String × Value))}

omit [Vesl] [SeedsEncode] in
/-- The surrogate lists the outputs of a single spend in their order. -/
theorem changeSeedsOf_surrogate {raw : RawTx} {spend : Spend1} (spends : raw.spends = [(name, .witness spend)])
    (encoded : surrogateFromRawTx raw = .ok signed) :
    changeSeedsOf signed = spend.seeds.tail.map signedSeed := by
  simp only [surrogateFromRawTx, spends, List.mapM_cons, List.mapM_nil, signedSpendEntry, signedSpend,
    Outcome.bind_ok, Outcome.pure_ok] at encoded
  obtain ⟨_, _, entries, ⟨entry, ⟨_, ⟨witness, _, rfl⟩, rfl⟩, rest, rfl, rfl⟩, rfl⟩ := encoded
  simp [changeSeedsOf]

omit [Vesl] [Nockchain] [SeedsEncode] [Base64] in
/-- A spend with a surplus has change. -/
theorem change_pos {plan : SpendPlan} (surplus : Surplus requirements plan.note)
    (value : Decimal.parseU64 requirements.maxAmountRequired = some plan.value)
    (fee : Decimal.parseU64 (offeredFee requirements) = some plan.fee)
    (assets : Decimal.parseU64 plan.note.assets = some total)
    (split : total.toNat = plan.value.toNat + plan.fee.toNat + plan.change.toNat) :
    0 < plan.change := by
  obtain ⟨value', fee', assets', valueText, feeText, assetsText, more⟩ := surplus
  obtain rfl := Option.some.inj (valueText.symm.trans value)
  obtain rfl := Option.some.inj (feeText.symm.trans fee)
  obtain rfl := Option.some.inj (assetsText.symm.trans assets)
  rw [UInt64.lt_iff_toNat_lt]
  change 0 < plan.change.toNat
  omega

/-- The change is locked to what the envelope-form PKH decodes to. -/
theorem change_lock
    (built : buildExactNockchainPayloadWithWallet requirements wallet.backend [note] echoExtensions
      now nonce = .ok payload) (surplus : Surplus requirements note) :
    ∃ (nock : ExactNockchainPayload) (signed : SignedRawTx) (seed : SignedSeed) (pkh root : Hash),
      fromValue payload.payload = some nock ∧
      nock.signedRawTx = some signed ∧ changeSeedsOf signed = [seed] ∧
      hashFromBase58 wallet.payerPkh = .ok pkh ∧ lockHash (simplePkh pkh) = .ok root ∧
      seed.lockRoot = hashToBase58 root := by
  obtain ⟨payment, authorized, rfl⟩ := buildExactNockchainPayloadWithWallet_ok_iff.mp built
  have answered : wallet.authorizeAndSign _ requirements = .ok payment := authorized
  obtain ⟨plan, raw, planned, constructed, encoded, _⟩ := authorizeAndSign_ok answered
  obtain ⟨_, notes, value, fee, assets, assetsText, split⟩ := planSpend_ok_iff.mp planned
  obtain rfl : note = plan.note := List.singleton_inj.mp notes
  obtain ⟨name, recipientLockRoot, change, witness, shape⟩ := buildRawTx_ok constructed
  have positive := change_pos surplus value fee assetsText split
  obtain ⟨zero, _⟩ | ⟨_, pkh, root, decoded, hashed, rfl⟩ := changeSeeds_ok shape.left
  · rw [zero] at positive
    exact absurd positive (by decide)
  · exact ⟨_, payment.signedRawTx, _, pkh, root, fromValue_toValue _, rfl,
      changeSeedsOf_surrogate shape.spends encoded, decoded, hashed, rfl⟩

theorem agree_of_returns [LawfulNockchain]
    (built : buildExactNockchainPayloadWithWallet requirements wallet.backend [note] echoExtensions
      now nonce = .ok payload) (surplus : Surplus requirements note)
    (free : LockCollisionFree wallet) (returns : ChangeReturns wallet payload) :
    hashFromBase58 wallet.payerPkh = .ok wallet.payerPkhChain := by
  obtain ⟨nock, signed, seed, pkh, root, carried, transaction, change, decoded, hashed, locked⟩ :=
    change_lock built surplus
  obtain ⟨nock', signed', seed', carried', transaction', change', own, ownHashed, ownLocked⟩ := returns
  obtain rfl := Option.some.inj (carried.symm.trans carried')
  obtain rfl := Option.some.inj (transaction.symm.trans transaction')
  obtain rfl := List.singleton_inj.mp (change.symm.trans change')
  obtain rfl := hashToBase58_injective (locked.symm.trans ownLocked)
  rw [decoded, free pkh root decoded hashed ownHashed]

/-- Change comes back to the payer exactly if the two forms of its key agree. -/
theorem change_returns_iff [LawfulNockchain]
    (built : buildExactNockchainPayloadWithWallet requirements wallet.backend [note] echoExtensions
      now nonce = .ok payload) (surplus : Surplus requirements note)
    (free : LockCollisionFree wallet) :
    ChangeReturns wallet payload ↔ hashFromBase58 wallet.payerPkh = .ok wallet.payerPkhChain := by
  refine ⟨agree_of_returns built surplus free, fun agree => ?_⟩
  obtain ⟨nock, signed, seed, pkh, root, carried, transaction, change, decoded, hashed, locked⟩ :=
    change_lock built surplus
  obtain rfl := Except.ok.inj (decoded.symm.trans agree)
  exact ⟨nock, signed, seed, carried, transaction, change, root, hashed, locked⟩

end Change

/-! ### A wallet whose two forms differ -/

namespace Transparent

open Facilitator.Transparent Crypto.Transparent Wallet.Transparent

attribute [local instance] transparent transparent_lawful transparentChain transparentChain_lawful
  spelledBase64 spelledBase64_lawful spelledSeeds

def noteOfNine : NoteRef where
  name := { first := "5", last := "6" }
  assets := "9"
  lock := .simplePkh

def zeroes : RandomBytes := .replicate 32 0

def paidWithNine : Except BuildFailure (PaymentPayload Value) :=
  buildExactNockchainPayloadWithWallet requirements wallet.backend [noteOfNine] none 1000 zeroes

theorem surplus_of_nine : Surplus requirements noteOfNine := by
  have value : Decimal.parseU64 "5" = some 5 := by decide
  have assets : Decimal.parseU64 "9" = some 9 := by decide
  exact ⟨5, 0, 9, value, Decimal.parseU64_zero, assets, by decide⟩

/-- The number that the envelope form of the wallet's key spells. -/
def envelopeValue : Nat :=
  Nat.ofDigits prime ((Crypto.Transparent.hash (bytesToBelts (pubkeyBytes 7))).toList.map UInt64.toNat)

theorem envelope_decoded :
    hashFromBase58 wallet.payerPkh = .ok (Base58.toBeBytes envelopeValue : List UInt8) := by
  change readBase58 (pkhBeltsToBase58 (Crypto.Transparent.hash (bytesToBelts (pubkeyBytes 7)))) = _
  rw [pkhBeltsToBase58_eq, readBase58_encode]
  rfl

theorem forms_differ : hashFromBase58 wallet.payerPkh ≠ .ok wallet.payerPkhChain := by
  rw [envelope_decoded]
  intro same
  have values : envelopeValue = Base58.fromBeBytes (7 :: pubkeyBytes 7) := by
    rw [← Base58.fromBeBytes_toBeBytes envelopeValue]
    exact congrArg Base58.fromBeBytes (Except.ok.inj same)
  exact absurd values (by decide)

theorem locks_apart : LockCollisionFree wallet := by
  intro pkh root _ left right
  have same : (0 :: pkh : List UInt8) = 0 :: wallet.payerPkhChain :=
    Except.ok.inj (left.trans right.symm)
  exact (List.cons.inj same).2

theorem nine_built : ∃ payload, paidWithNine = .ok payload := by
  let auth := authorizationFor requirements wallet.payerPkh (generateNonceBase58 zeroes) [noteOfNine] 1000
  have value : Decimal.parseU64 "5" = some 5 := by decide
  have signable : Signable auth :=
    { sender := spells_pkh _
      recipient := spending_signable.recipient
      value := ⟨5, value⟩
      fee := ⟨0, Decimal.parseU64_zero⟩
      nonce := spells_random zeroes
      notes := spending_signable.notes
      changeAddress := spells_pkh _ }
  obtain ⟨payment, authorized⟩ := authorizes_nine auth rfl rfl value Decimal.parseU64_zero
    (by decide) signable payee_hash envelope_decoded requirements
  exact ⟨_, buildExactNockchainPayloadWithWallet_ok_iff.mpr ⟨payment, authorized, rfl⟩⟩

theorem change_returns_iff_nine : ∃ payload, paidWithNine = .ok payload ∧
    (ChangeReturns wallet payload ↔ hashFromBase58 wallet.payerPkh = .ok wallet.payerPkhChain) := by
  obtain ⟨payload, success⟩ := nine_built
  exact ⟨payload, success, change_returns_iff success surplus_of_nine locks_apart⟩

/-- Four nicks of change go to a lock that is not the payer's. -/
theorem change_does_not_return : ∃ payload, paidWithNine = .ok payload ∧
    Surplus requirements noteOfNine ∧ ¬ ChangeReturns wallet payload := by
  obtain ⟨payload, success⟩ := nine_built
  exact ⟨payload, success, surplus_of_nine, fun returns =>
    forms_differ (agree_of_returns success surplus_of_nine locks_apart returns)⟩

end Transparent

end X402Nockchain.Client
