import X402Nockchain.Wallet.Client
import Mathlib.Data.List.Perm.Basic

/-! When a transaction is the payment that an authorization describes. -/

namespace X402Nockchain.Wallet

open Foundation X402Types Crypto

section Payments

variable [Nockchain]

namespace RawTx

/-- The witness spends of a transaction. -/
def witnessSpends (raw : RawTx) : List Spend1 :=
  raw.spends.filterMap fun
    | (_, .witness spend) => some spend
    | (_, .legacy _) => none

def seeds (raw : RawTx) : List Seed := raw.witnessSpends.flatMap Spend1.seeds

/-- What the outputs under one lock root receive together. -/
def giftsTo (raw : RawTx) (lockRoot : Hash) : Nat :=
  ((raw.seeds.filter fun seed => seed.lockRoot = lockRoot).map fun seed => seed.gift.toNat).sum

def fees (raw : RawTx) : Nat := (raw.witnessSpends.map fun spend => spend.fee.toNat).sum

end RawTx

/-- The note that a name refers to. -/
def noteName (name : NoteName) : Except String Name := do
  let first ← hashFromBase58 name.first
  let last ← hashFromBase58 name.last
  return { first, last }

/-- The transaction spends exactly the authorized notes, pays the recipient at
least the authorized value, and pays the authorized fee. -/
structure Fulfils (raw : RawTx) (auth : Authorization) : Prop where
  notes : ∃ names, (auth.notes.mapM fun note => noteName note.name) = .ok names ∧
    (raw.spends.map Prod.fst).Perm names
  paid : ∃ recipientPkh lockRoot value, hashFromBase58 auth.to = .ok recipientPkh ∧
    lockHash (simplePkh recipientPkh) = .ok lockRoot ∧
    Decimal.parseU64 auth.value = some value ∧ value.toNat ≤ raw.giftsTo lockRoot
  fee : ∃ fee, Decimal.parseU64 auth.fee = some fee ∧ raw.fees = fee.toNat

namespace NockchainWalletClient

variable [Vesl]

omit [Vesl] in
theorem Built.witnessSpends {raw : RawTx}
    (built : Built auth plan raw name recipientLockRoot change witness) :
    raw.witnessSpends = [{
      witness
      seeds := {
        outputSource := none
        lockRoot := recipientLockRoot
        noteData := []
        gift := plan.value
        parentHash := name.last } :: change
      fee := plan.fee }] := by
  rw [RawTx.witnessSpends, built.spends]
  rfl

omit [Vesl] in
/-- A lock root receives the value if it is the recipient's, and change if it is
the payer's. -/
theorem Built.giftsTo {raw : RawTx}
    (built : Built auth plan raw name recipientLockRoot change witness) (lockRoot : Hash) :
    raw.giftsTo lockRoot = (if recipientLockRoot = lockRoot then plan.value.toNat else 0) +
      ((change.filter fun seed => seed.lockRoot = lockRoot).map fun seed => seed.gift.toNat).sum := by
  by_cases same : recipientLockRoot = lockRoot <;>
    simp [RawTx.giftsTo, RawTx.seeds, built.witnessSpends, same]

/-- The wallet builds the payment it is asked for. -/
theorem Built.fulfils {wallet : NockchainWalletClient} {raw : RawTx}
    (planned : wallet.planSpend auth = .ok plan)
    (built : Built auth plan raw name recipientLockRoot change witness) : Fulfils raw auth := by
  obtain ⟨_, notes, value, fee, _⟩ := planSpend_ok_iff.mp planned
  obtain ⟨recipientPkh, recipient, hashed⟩ := built.recipient
  refine ⟨⟨[name], ?_, ?_⟩, ⟨recipientPkh, recipientLockRoot, plan.value, recipient, hashed, value, ?_⟩,
    ⟨plan.fee, fee, ?_⟩⟩
  · simp [notes, noteName, built.first, built.last]
  · rw [built.spends]
    exact .refl _
  · rw [built.giftsTo, if_pos rfl]
    exact Nat.le_add_right _ _
  · simp [RawTx.fees, built.witnessSpends]

/-- The transaction that the wallet ships is read back as the payment. -/
theorem authorizeAndSign_fulfils [SeedsEncode] [Base64] [LawfulNockchain] [LawfulBase64]
    {wallet : NockchainWalletClient} {auth : Authorization} {requirements : PaymentRequirements}
    (signed : wallet.authorizeAndSign auth requirements = .ok payment) :
    ∃ raw, rawTxFromSurrogate payment.signedRawTx = .ok raw ∧ Fulfils raw auth := by
  obtain ⟨plan, raw, planned, built, encoded, _⟩ := authorizeAndSign_ok signed
  obtain ⟨name, recipientLockRoot, change, witness, built⟩ := buildRawTx_ok built
  exact ⟨raw, rawTxFromSurrogate_surrogateFromRawTx built.readable encoded, built.fulfils planned⟩

end NockchainWalletClient

end Payments

/-! ### The stand-in's wallet -/

namespace Transparent

open Crypto.Transparent

attribute [local instance] transparent transparent_lawful transparentChain transparentChain_lawful
  spelledBase64 spelledBase64_lawful

@[reducible] def spelledSeeds : SeedsEncode where
  seedsToNoun seeds := seeds.flatMap fun seed => seed.lockRoot ++ pubkeyBytes seed.gift

attribute [local instance] spelledSeeds

/-- A kernel whose transaction ids are the names of the spent notes. -/
def kernel : WalletKernelHandle where
  sigHash seedsJammed _ := .ok seedsJammed
  txId spends := .ok (spends.flatMap fun (name, _) => List.append name.first name.last)

/-- The wallet of `payer`. -/
def wallet : NockchainWalletClient where
  payerPkhEnvelopeB58 := pkhFromPubkeyBytes (pubkeyBytes 7)
  payerPkhChain := 7 :: pubkeyBytes 7
  payerPubkeyB58 := Base58.encode (pubkeyBytes 7)
  payerPubkey := (7 : Belt)
  skT8 := 7 ::ᵥ List.Vector.replicate 7 0
  walletKernel := kernel
  derived := rfl
  chainForm := rfl
  printed := rfl
  envelopeForm := ⟨pubkeyBytes 7, Base58.decode_encode _, rfl⟩

/-- `payer` spends one note of nine nicks, three of which come back. -/
def spending : Authorization :=
  { authorization with
    notes := [{ name := { first := "5", last := "6" }, assets := "9", lock := .simplePkh }] }

theorem spending_signable : Signable spending where
  sender := authorization_signable.sender
  recipient := authorization_signable.recipient
  value := authorization_signable.value
  fee := authorization_signable.fee
  nonce := authorization_signable.nonce
  notes := by
    simp only [spending, List.mem_singleton, forall_eq]
    exact ⟨⟨4, rfl, by decide⟩, ⟨5, rfl, by decide⟩⟩
  changeAddress := authorization_signable.changeAddress

section Answers

variable {auth : Authorization} {plan : NockchainWalletClient.SpendPlan}
  {recipient first last change : Hash}

theorem changeSeeds_succeeds (changeText : hashFromBase58 auth.changeAddress = .ok change)
    (remainder : UInt64) (parentHash : Hash) :
    ∃ seeds, NockchainWalletClient.changeSeeds auth remainder parentHash = .ok seeds := by
  unfold NockchainWalletClient.changeSeeds
  split
  · exact ⟨_, by simp only [base58Hash, changeText]; rfl⟩
  · exact ⟨_, rfl⟩

theorem kernelSigHash_succeeds (seeds : List Seed) (small : fee.toNat < 2 ^ 63) :
    ∃ hash, kernelSigHashCanonical wallet.walletKernel seeds fee = .ok hash :=
  ⟨_, by simp only [kernelSigHashCanonical, directAtom, small, if_true]; rfl⟩

theorem buildRawTx_succeeds (recipientText : hashFromBase58 auth.to = .ok recipient)
    (firstText : hashFromBase58 plan.note.name.first = .ok first)
    (lastText : hashFromBase58 plan.note.name.last = .ok last)
    (changeText : hashFromBase58 auth.changeAddress = .ok change)
    (small : plan.fee.toNat < 2 ^ 63) : ∃ raw, wallet.buildRawTx auth plan = .ok raw := by
  obtain ⟨seeds, built⟩ := changeSeeds_succeeds changeText plan.change last
  have locked (condition : Nockchain.SpendCondition) (role : String) :
      ∃ root, lockRoot condition role = .ok root := ⟨condition, rfl⟩
  obtain ⟨root, output⟩ := locked (simplePkh recipient) "output"
  obtain ⟨inputRoot, input⟩ :=
    locked (buildInputCondition wallet.payerPkhChain plan.note.lock) "input"
  obtain ⟨sigHash, poked⟩ := kernelSigHash_succeeds ({
    outputSource := none
    lockRoot := root
    noteData := []
    gift := plan.value
    parentHash := last } :: seeds) small
  simp only [NockchainWalletClient.buildRawTx, base58Hash, recipientText, firstText, lastText,
    output, input, built, poked, Outcome.mapError_of_ok, Outcome.ok_bind]
  exact ⟨_, rfl⟩

theorem surrogate_succeeds {raw : RawTx}
    (built : NockchainWalletClient.Built auth plan raw name recipientLockRoot seeds witness) :
    ∃ signed, surrogateFromRawTx raw = .ok signed := by
  refine surrogateFromRawTx_succeeds_iff.mpr ⟨built.version, ?_⟩
  rw [built.spends]
  intro name spend member
  obtain ⟨_, rfl⟩ := Prod.mk.inj (List.mem_singleton.mp member)
  exact ⟨_, rfl, fun entry _ => ⟨_, rfl⟩⟩

theorem signEnvelope_succeeds (signable : Signable auth) :
    ∃ signature, wallet.signEnvelope auth = .ok signature := by
  obtain ⟨belts, message⟩ := signable_iff.mpr signable
  simp only [NockchainWalletClient.signEnvelope, x402SignMessageDigest, message,
    Outcome.map_of_ok, Outcome.mapError_of_ok, Outcome.ok_bind]
  exact ⟨_, rfl⟩

/-- The wallet answers every signable request whose plan and hashes are in order. -/
theorem authorizes (planned : wallet.planSpend auth = .ok plan) (signable : Signable auth)
    (recipientText : hashFromBase58 auth.to = .ok recipient)
    (firstText : hashFromBase58 plan.note.name.first = .ok first)
    (lastText : hashFromBase58 plan.note.name.last = .ok last)
    (changeText : hashFromBase58 auth.changeAddress = .ok change)
    (small : plan.fee.toNat < 2 ^ 63) (requirements : PaymentRequirements) :
    ∃ payment, wallet.authorizeAndSign auth requirements = .ok payment := by
  obtain ⟨raw, constructed⟩ :=
    buildRawTx_succeeds recipientText firstText lastText changeText small
  obtain ⟨name, _, _, witness, shape⟩ := NockchainWalletClient.buildRawTx_ok constructed
  obtain ⟨signed, encoded⟩ := surrogate_succeeds shape
  obtain ⟨signature, sealed⟩ := signEnvelope_succeeds signable
  refine ⟨⟨signature, signed⟩, ?_⟩
  simp [NockchainWalletClient.authorizeAndSign, planned, constructed, encoded, sealed]

/-- An authorization of the wallet's that spends the note of nine and is covered by it. -/
theorem authorizes_nine (auth : Authorization) (own : auth.from = wallet.payerPkhEnvelopeB58)
    (notes : auth.notes = spending.notes) (value : Decimal.parseU64 auth.value = some paid)
    (fee : Decimal.parseU64 auth.fee = some charged) (covered : paid.toNat + charged.toNat ≤ 9)
    (signable : Signable auth) (recipientText : hashFromBase58 auth.to = .ok recipient)
    (changeText : hashFromBase58 auth.changeAddress = .ok change)
    (requirements : PaymentRequirements) :
    ∃ payment, wallet.authorizeAndSign auth requirements = .ok payment := by
  have nine : Decimal.parseU64 "9" = some 9 := by decide
  have rest : (9 : UInt64).toNat = paid.toNat + charged.toNat +
      (UInt64.ofNat (9 - (paid.toNat + charged.toNat))).toNat := by
    rw [UInt64.toNat_ofNat_of_lt' (by change _ < 2 ^ 64; omega)]
    change 9 = _
    omega
  have planned : wallet.planSpend auth = .ok {
      note := { name := { first := "5", last := "6" }, assets := "9", lock := .simplePkh }
      value := paid
      fee := charged
      change := .ofNat (9 - (paid.toNat + charged.toNat)) } :=
    NockchainWalletClient.planSpend_ok_iff.mpr ⟨own, notes, value, fee, 9, nine, rest⟩
  have first : hashFromBase58 "5" = .ok ([4] : List UInt8) := rfl
  have last : hashFromBase58 "6" = .ok ([5] : List UInt8) := rfl
  have small : charged.toNat < 2 ^ 63 := by omega
  exact authorizes planned signable recipientText first last changeText small requirements

end Answers

theorem payee_hash : hashFromBase58 "2" = .ok ([1] : List UInt8) := rfl

end Transparent

end X402Nockchain.Wallet
