import X402Nockchain.Wallet.Fulfilment

/-! The wallet neither loses nor creates nicks: the outputs and the fee of an
authorized payment are the assets of its note. -/

namespace X402Nockchain.Wallet

open Foundation X402Types Crypto Nockchain Outcome

/-- The amounts of an authorization of one note, all of which are `u64` texts. -/
structure Amounts (auth : Authorization) (note : NoteRef) (value fee assets : UInt64) : Prop where
  notes : auth.notes = [note]
  value : Decimal.parseU64 auth.value = some value
  fee : Decimal.parseU64 auth.fee = some fee
  assets : Decimal.parseU64 note.assets = some assets

theorem Amounts.unique {auth : Authorization} {note note' : NoteRef}
    {value value' fee fee' assets assets' : UInt64}
    (amounts : Amounts auth note value fee assets)
    (amounts' : Amounts auth note' value' fee' assets') :
    note = note' ∧ value = value' ∧ fee = fee' ∧ assets = assets' := by
  obtain rfl : note = note' := by simpa using amounts.notes.symm.trans amounts'.notes
  exact ⟨rfl, Option.some.inj (amounts.value.symm.trans amounts'.value),
    Option.some.inj (amounts.fee.symm.trans amounts'.fee),
    Option.some.inj (amounts.assets.symm.trans amounts'.assets)⟩

section Conservation

variable [Nockchain]

/-- An output of this gift, locked to the hash that a base58 text spells. -/
structure PaysTo (text : String) (gift : Nat) (parentHash : Hash) (seed : Seed) : Prop where
  locked : ∃ pkh, hashFromBase58 text = .ok pkh ∧ lockHash (simplePkh pkh) = .ok seed.lockRoot
  gift : seed.gift.toNat = gift
  parent : seed.parentHash = parentHash

/-- One spend of the note, which pays the recipient and returns what is left over. -/
structure Conserves (auth : Authorization) (note : NoteRef) (value fee assets : UInt64)
    (raw : RawTx) : Prop where
  spends : ∃ name witness seeds, raw.spends = [(name, .witness { witness, seeds, fee })] ∧
    noteName note.name = .ok name ∧
    ∃ payment change, seeds = payment :: change ∧
      PaysTo auth.to value.toNat name.last payment ∧
      (value.toNat + fee.toNat < assets.toNat → ∃ rest, change = [rest] ∧
        PaysTo auth.changeAddress (assets.toNat - value.toNat - fee.toNat) name.last rest) ∧
      (¬ value.toNat + fee.toNat < assets.toNat → change = [])
  conserved : (raw.seeds.map fun seed => seed.gift.toNat).sum + raw.fees = assets.toNat

namespace NockchainWalletClient

variable [Vesl]

theorem Built.conserves {wallet : NockchainWalletClient} {auth : Authorization} {raw : RawTx}
    (planned : wallet.planSpend auth = .ok plan)
    (built : Built auth plan raw name recipientLockRoot change witness) :
    ∃ note value fee assets, Amounts auth note value fee assets ∧ Conserves auth note value fee assets raw := by
  obtain ⟨_, notes, value, fee, assets, assetsText, total⟩ := planSpend_ok_iff.mp planned
  refine ⟨plan.note, plan.value, plan.fee, assets, ⟨notes, value, fee, assetsText⟩,
    ⟨name, witness, _, built.spends, ?_, _, change, rfl, ⟨built.recipient, rfl, rfl⟩, ?_, ?_⟩, ?_⟩
  · simp only [noteName, built.first, built.last, Outcome.ok_bind]
    rfl
  · intro more
    obtain ⟨nothing, _⟩ | ⟨_, pkh, root, decoded, hashed, rfl⟩ := changeSeeds_ok built.left
    · rw [nothing] at total
      change assets.toNat = _ + 0 at total
      omega
    · refine ⟨_, rfl, ⟨pkh, decoded, hashed⟩, ?_, rfl⟩
      change plan.change.toNat = _
      omega
  · intro exact'
    obtain ⟨_, nothing⟩ | ⟨positive, _⟩ := changeSeeds_ok built.left
    · exact nothing
    · have := UInt64.lt_iff_toNat_lt.mp positive
      change 0 < plan.change.toNat at this
      omega
  · have gifts : (change.map fun seed => seed.gift.toNat).sum = plan.change.toNat := by
      obtain ⟨nothing, rfl⟩ | ⟨_, _, _, _, _, rfl⟩ := changeSeeds_ok built.left
      · rw [nothing]
        rfl
      · exact Nat.add_zero _
    simp only [RawTx.seeds, RawTx.fees, built.witnessSpends, List.flatMap_cons, List.flatMap_nil,
      List.append_nil, List.map_cons, List.map_nil, List.sum_cons, List.sum_nil, gifts]
    omega

/-! ### When the wallet reports too few funds -/

/-- A failure that does not report too few funds. -/
def NotShort (failure : WalletFailure) : Prop := ∀ message, failure ≠ .error (.insufficientFunds message)

section FailsOnly

variable {kind : WalletFailure → Prop} (wraps : ∀ text, kind (other text))

include wraps

omit [Nockchain] [Vesl] in
/-- Every foreign error is wrapped as `other`. -/
theorem wrapped_failsOnly (outcome : Except ε α) (text : ε → String) :
    FailsOnly kind (outcome.mapError fun e => other (text e)) :=
  failsOnly_mapError (fun _ => wraps _) outcome

omit [Vesl] in
theorem changeSeeds_failsOnly (auth : Authorization) (change : UInt64) (parentHash : Hash) :
    FailsOnly kind (changeSeeds auth change parentHash) := by
  unfold changeSeeds
  split
  · exact failsOnly_bind (wrapped_failsOnly wraps _ _) fun _ =>
      failsOnly_bind (wrapped_failsOnly wraps _ _) fun _ => failsOnly_pure _
  · exact failsOnly_pure _

theorem buildRawTx_failsOnly [SeedsEncode] (wallet : NockchainWalletClient) (auth : Authorization)
    (plan : SpendPlan) (fees : FailsOnly kind (directAtom plan.fee)) : FailsOnly kind (wallet.buildRawTx auth plan) :=
  failsOnly_bind (wrapped_failsOnly wraps _ _) fun _ => failsOnly_bind (wrapped_failsOnly wraps _ _) fun _ =>
    failsOnly_bind (wrapped_failsOnly wraps _ _) fun _ => failsOnly_bind (wrapped_failsOnly wraps _ _) fun _ =>
    failsOnly_bind (wrapped_failsOnly wraps _ _) fun _ => failsOnly_bind (changeSeeds_failsOnly wraps _ _ _) fun _ =>
    failsOnly_bind (failsOnly_bind fees fun _ => wrapped_failsOnly wraps _ _) fun _ =>
    failsOnly_bind (wrapped_failsOnly wraps _ _) fun _ => failsOnly_bind (wrapped_failsOnly wraps _ _) fun _ =>
    failsOnly_pure _

theorem signEnvelope_failsOnly (wallet : NockchainWalletClient) (auth : Authorization) :
    FailsOnly kind (wallet.signEnvelope auth) :=
  failsOnly_bind (wrapped_failsOnly wraps _ _) fun _ => failsOnly_bind (wrapped_failsOnly wraps _ _) fun _ =>
    failsOnly_bind (wrapped_failsOnly wraps _ _) fun _ => failsOnly_bind (wrapped_failsOnly wraps _ _) fun _ =>
    failsOnly_pure _

end FailsOnly

omit [Nockchain] [Vesl] in
theorem wraps_notShort (text : String) : NotShort (other text) := fun _ => nofun

omit [Nockchain] [Vesl] in
theorem directAtom_notShort (fee : UInt64) : FailsOnly NotShort (directAtom fee) := by
  unfold directAtom
  split
  · exact failsOnly_pure _
  · intro failure failed
    obtain rfl := Except.error.inj failed
    exact fun _ => nofun

/-- Nothing after the plan reports too few funds. -/
theorem authorizeAndSign_short_iff [SeedsEncode] [Base64] {wallet : NockchainWalletClient} {auth : Authorization}
    {requirements : PaymentRequirements} :
    wallet.authorizeAndSign auth requirements = .error (.error (.insufficientFunds message)) ↔
      wallet.planSpend auth = .error (.error (.insufficientFunds message)) := by
  have later (plan : SpendPlan) : FailsOnly NotShort (do
      let raw ← wallet.buildRawTx auth plan
      let signedRawTx ← (surrogateFromRawTx raw).mapError fun e => other s!"surrogate encode: {e}"
      let envelopeSignature ← wallet.signEnvelope auth
      return ({ envelopeSignature, signedRawTx } : AuthorizedPayment)) :=
    failsOnly_bind (buildRawTx_failsOnly wraps_notShort wallet auth plan (directAtom_notShort _)) fun _ =>
      failsOnly_bind (wrapped_failsOnly wraps_notShort _ _) fun _ =>
      failsOnly_bind (signEnvelope_failsOnly wraps_notShort wallet auth) fun _ => failsOnly_pure _
  unfold authorizeAndSign
  rw [bind_error]
  constructor
  · rintro (planning | ⟨plan, _, failed⟩)
    · exact planning
    · exact absurd rfl (later plan _ failed message)
  · exact .inl

omit [Nockchain] [Vesl] in
theorem inputNote_notShort (auth : Authorization) : FailsOnly NotShort (inputNote auth) := by
  unfold inputNote
  split
  · exact failsOnly_pure _
  · intro failure failed
    obtain rfl := Except.error.inj failed
    exact fun _ => nofun

omit [Nockchain] [Vesl] in
/-- Two amounts have no sum when the sum does not fit. -/
theorem checkedAdd_eq_none {a b : UInt64} : checkedAdd a b = none ↔ 2 ^ 64 ≤ a.toNat + b.toNat := by
  unfold checkedAdd
  split <;> simp_all

/-- The plan reports too few funds when every check before it passes. -/
theorem planSpend_short_iff {wallet : NockchainWalletClient} {auth : Authorization} :
    (∃ message, wallet.planSpend auth = .error (.error (.insufficientFunds message))) ↔
      auth.from = wallet.payerPkhEnvelopeB58 ∧ ∃ note value fee assets, Amounts auth note value fee assets ∧
        value.toNat + fee.toNat < 2 ^ 64 ∧ assets.toNat < value.toNat + fee.toNat := by
  have counted (message : String) : inputNote auth ≠ .error (.error (.insufficientFunds message)) := fun failed =>
    inputNote_notShort auth _ failed message rfl
  have unrelated (text message : String) : other text ≠ .error (.insufficientFunds message) := nofun
  simp only [planSpend, parseDecimal, bind_error, ensure_error, ensure_ok, okOr_error, okOr_ok, inputNote_ok_iff,
    checkedAdd_eq_some, counted, unrelated, and_false, false_or, not_not]
  constructor
  · rintro ⟨message, _, own, note, notes, value, valueText, fee, feeText, assets, assetsText, needed, sum,
      ⟨short, _⟩ | ⟨_, _, returned⟩⟩
    · refine ⟨own, note, value, fee, assets, ⟨notes, valueText, feeText, assetsText⟩, ?_, ?_⟩
      · rw [← sum]
        exact needed.toNat_lt
      · rw [← sum]
        exact UInt64.lt_iff_toNat_lt.mp short
    · cases returned
  · rintro ⟨own, note, value, fee, assets, amounts, fits, short⟩
    have sum : (value + fee).toNat = value.toNat + fee.toNat := by
      rw [UInt64.toNat_add, Nat.mod_eq_of_lt fits]
    refine ⟨_, (), own, note, amounts.notes, value, amounts.value, fee, amounts.fee, assets, amounts.assets,
      value + fee, sum, .inl ⟨UInt64.lt_iff_toNat_lt.mpr (sum ▸ short), rfl⟩⟩

/-- An authorized payment conserves the assets of its note, and too few funds
are reported exactly when a sum that fits is not covered. -/
theorem value_conserved [SeedsEncode] [Base64] (wallet : NockchainWalletClient) (auth : Authorization)
    (requirements : PaymentRequirements) :
    (∀ payment, wallet.authorizeAndSign auth requirements = .ok payment →
      ∃ plan raw note value fee assets, wallet.planSpend auth = .ok plan ∧ wallet.buildRawTx auth plan = .ok raw ∧
        surrogateFromRawTx raw = .ok payment.signedRawTx ∧
        Amounts auth note value fee assets ∧ Conserves auth note value fee assets raw) ∧
    ((∃ message, wallet.authorizeAndSign auth requirements = .error (.error (.insufficientFunds message))) ↔
      auth.from = wallet.payerPkhEnvelopeB58 ∧ ∃ note value fee assets, Amounts auth note value fee assets ∧
        value.toNat + fee.toNat < 2 ^ 64 ∧ assets.toNat < value.toNat + fee.toNat) ∧
    ∀ value fee assets : UInt64, (checkedAdd value fee = none ↔ 2 ^ 64 ≤ value.toNat + fee.toNat) ∧
      ∀ needed, checkedAdd value fee = some needed → needed.toNat = value.toNat + fee.toNat ∧
        (¬ assets < needed → (assets - needed).toNat = assets.toNat - (value.toNat + fee.toNat) ∧
          value.toNat + fee.toNat ≤ assets.toNat) := by
  refine ⟨?_, ?_, fun value fee assets => ⟨checkedAdd_eq_none, ?_⟩⟩
  · intro payment signed
    obtain ⟨plan, raw, planned, constructed, encoded, _⟩ := authorizeAndSign_ok signed
    obtain ⟨name, recipientLockRoot, change, witness, built⟩ := buildRawTx_ok constructed
    obtain ⟨note, value, fee, assets, amounts, conserves⟩ := built.conserves planned
    exact ⟨plan, raw, note, value, fee, assets, planned, constructed, encoded, amounts, conserves⟩
  · simp only [authorizeAndSign_short_iff]
    exact planSpend_short_iff
  · intro needed sum
    have sum := checkedAdd_eq_some.mp sum
    refine ⟨sum, fun covered => ?_⟩
    have total := covers_iff.mp ⟨covered, rfl⟩
    omega

end NockchainWalletClient

end Conservation

/-! ### The note of nine -/

namespace Transparent

open Crypto.Transparent

attribute [local instance] transparent transparent_lawful transparentChain transparentChain_lawful
  spelledBase64 spelledBase64_lawful spelledSeeds

def asked : PaymentRequirements where
  scheme := "exact"
  network := "nockchain:fakenet"
  maxAmountRequired := "5"
  resource := "https://shop.test/paid"
  asset := "NOCK"
  payTo := "2"
  maxTimeoutSeconds := 60

def noteOfNine : NoteRef := { name := { first := "5", last := "6" }, assets := "9", lock := .simplePkh }

/-- Ten nicks of nine. -/
def overspending : Authorization := { spending with value := "9" }

theorem spending_amounts : Amounts spending noteOfNine 5 1 9 := ⟨rfl, by decide, by decide, by decide⟩

theorem overspending_amounts : Amounts overspending noteOfNine 9 1 9 := ⟨rfl, by decide, by decide, by decide⟩

/-- Five nicks and a fee of one leave three of nine; nine and a fee of one are too many. -/
theorem value_conserved_nine :
    (∃ payment raw, wallet.authorizeAndSign spending asked = .ok payment ∧
      surrogateFromRawTx raw = .ok payment.signedRawTx ∧ Conserves spending noteOfNine 5 1 9 raw) ∧
    ∃ message, wallet.authorizeAndSign overspending asked = .error (.error (.insufficientFunds message)) := by
  constructor
  · have change : hashFromBase58 spending.changeAddress = .ok ([3] : List UInt8) := rfl
    obtain ⟨payment, signed⟩ := authorizes_nine spending rfl rfl spending_amounts.value spending_amounts.fee
      (by decide) spending_signable payee_hash change asked
    obtain ⟨plan, raw, note, value, fee, assets, _, _, encoded, amounts, conserves⟩ :=
      (NockchainWalletClient.value_conserved wallet spending asked).1 payment signed
    obtain ⟨rfl, rfl, rfl, rfl⟩ := amounts.unique spending_amounts
    exact ⟨payment, raw, signed, encoded, conserves⟩
  · exact (NockchainWalletClient.value_conserved wallet overspending asked).2.1.mpr
      ⟨rfl, noteOfNine, 9, 1, 9, overspending_amounts, by decide, by decide⟩

end Transparent

end X402Nockchain.Wallet
