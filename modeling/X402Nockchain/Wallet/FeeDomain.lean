import X402Nockchain.Wallet.Conservation

/-! The fee on its way into the `%sig-hash` poke. The checks bound it by `u64` and
by the assets, the direct atom that carries it by `2^63`. -/

namespace X402Nockchain.Wallet

open Foundation X402Types Crypto Nockchain Outcome

section Fees

variable [Nockchain]

/-- A base58 text spells a hash, and the lock to that hash has a root. -/
def Locks (text : String) : Prop :=
  ∃ pkh root, hashFromBase58 text = .ok pkh ∧ lockHash (simplePkh pkh) = .ok root

/-- Nothing fails before the poke: the recipient, the names of the note and, where
something is left over, the change address are read, and their locks have roots. -/
structure ReachesPoke [Vesl] (wallet : NockchainWalletClient) (auth : Authorization) (note : NoteRef)
    (left : Nat) : Prop where
  recipient : Locks auth.to
  last : ∃ hash, hashFromBase58 note.name.last = .ok hash
  first : ∃ hash, hashFromBase58 note.name.first = .ok hash
  input : ∃ root, lockHash (buildInputCondition wallet.payerPkhChain note.lock) = .ok root
  change : 0 < left → Locks auth.changeAddress

namespace NockchainWalletClient

/-- A failure that is answered with an error. -/
def NotPanic (failure : WalletFailure) : Prop := ∀ message, failure ≠ .panic message

omit [Nockchain] in
theorem wraps_notPanic (text : String) : NotPanic (other text) := fun _ => nofun

omit [Nockchain] in
theorem ne_panic_of_failsOnly {outcome : Except WalletFailure α} (fails : FailsOnly NotPanic outcome)
    (message : String) : outcome ≠ .error (.panic message) := fun failed => fails _ failed message rfl

omit [Nockchain] in
theorem wrapped_ne_panic (outcome : Except ε α) (text : ε → String) (message : String) :
    (outcome.mapError fun e => other (text e)) ≠ .error (.panic message) :=
  ne_panic_of_failsOnly (wrapped_failsOnly wraps_notPanic outcome text) message

theorem changeSeeds_ne_panic (auth : Authorization) (change : UInt64) (parentHash : Hash) (message : String) :
    changeSeeds auth change parentHash ≠ .error (.panic message) :=
  ne_panic_of_failsOnly (changeSeeds_failsOnly wraps_notPanic auth change parentHash) message

/-- The change seed is built when nothing is left over or its address can be locked to. -/
theorem changeSeeds_succeeds_iff {auth : Authorization} {change : UInt64} {parentHash : Hash} :
    (∃ seeds, changeSeeds auth change parentHash = .ok seeds) ↔ (0 < change.toNat → Locks auth.changeAddress) := by
  have positive : 0 < change ↔ 0 < change.toNat := UInt64.lt_iff_toNat_lt
  unfold changeSeeds
  split
  · rename_i more
    rw [imp_iff_right (positive.mp more)]
    simp only [base58Hash, Wallet.lockRoot, bind_ok, mapError_ok, pure_ok, Locks]
    constructor
    · rintro ⟨_, pkh, decoded, root, hashed, _⟩
      exact ⟨pkh, root, decoded, hashed⟩
    · rintro ⟨pkh, root, decoded, hashed⟩
      exact ⟨_, pkh, decoded, root, hashed, rfl⟩
  · rename_i nothing
    exact iff_of_true ⟨[], rfl⟩ fun more => absurd (positive.mpr more) nothing

theorem kernelSigHash_panic_iff [SeedsEncode] {kernel : WalletKernelHandle} {seeds : List Seed} {fee : Nicks} :
    kernelSigHashCanonical kernel seeds fee = .error (.panic message) ↔ directAtom fee = .error (.panic message) := by
  simp only [kernelSigHashCanonical, bind_error, wrapped_ne_panic, and_false, exists_false, or_false]

omit [Nockchain] in
theorem directAtom_panic_iff : directAtom fee = .error (.panic message) ↔
    2 ^ 63 ≤ fee.toNat ∧ message = "direct atom out of range" := by
  unfold directAtom
  split
  · rename_i small
    exact iff_of_false nofun fun ⟨large, _⟩ => Nat.not_le.mpr small large
  · rename_i large
    rw [and_iff_right (Nat.not_lt.mp large), Except.error.injEq, WalletFailure.panic.injEq, eq_comm]

variable [Vesl] {wallet : NockchainWalletClient} {auth : Authorization} {plan : SpendPlan}

/-- The construction panics in the poke only. -/
theorem buildRawTx_panic_iff [SeedsEncode] : wallet.buildRawTx auth plan = .error (.panic message) ↔
    ReachesPoke wallet auth plan.note plan.change.toNat ∧ directAtom plan.fee = .error (.panic message) := by
  simp only [buildRawTx, base58Hash, Wallet.lockRoot, bind_error, wrapped_ne_panic, changeSeeds_ne_panic,
    kernelSigHash_panic_iff, pure_ne_error, mapError_ok, false_or, and_false, exists_false, or_false]
  constructor
  · rintro ⟨pkh, recipient, last, lastText, first, firstText, root, rooted, inputRoot, input, seeds, change, poked⟩
    exact ⟨{
      recipient := ⟨pkh, root, recipient, rooted⟩
      last := ⟨last, lastText⟩
      first := ⟨first, firstText⟩
      input := ⟨inputRoot, input⟩
      change := changeSeeds_succeeds_iff.mp ⟨seeds, change⟩ }, poked⟩
  · rintro ⟨reached, poked⟩
    obtain ⟨pkh, root, recipient, rooted⟩ := reached.recipient
    obtain ⟨last, lastText⟩ := reached.last
    obtain ⟨first, firstText⟩ := reached.first
    obtain ⟨inputRoot, input⟩ := reached.input
    obtain ⟨seeds, change⟩ := changeSeeds_succeeds_iff.mpr reached.change
    exact ⟨pkh, recipient, last, lastText, first, firstText, root, rooted, inputRoot, input, seeds, change, poked⟩

theorem signEnvelope_ne_panic (auth : Authorization) (message : String) :
    wallet.signEnvelope auth ≠ .error (.panic message) :=
  ne_panic_of_failsOnly (signEnvelope_failsOnly wraps_notPanic wallet auth) message

/-- A planned payment panics when the poke is reached with a fee that the direct atom does not carry. -/
theorem authorizeAndSign_panic_iff [SeedsEncode] [Base64] {requirements : PaymentRequirements}
    (planned : wallet.planSpend auth = .ok plan) :
    wallet.authorizeAndSign auth requirements = .error (.panic message) ↔
      ReachesPoke wallet auth plan.note plan.change.toNat ∧ 2 ^ 63 ≤ plan.fee.toNat ∧
        message = "direct atom out of range" := by
  rw [← directAtom_panic_iff, ← buildRawTx_panic_iff, authorizeAndSign, planned, ok_bind]
  simp only [bind_error, wrapped_ne_panic, signEnvelope_ne_panic, pure_ne_error, and_false, exists_false,
    or_self, or_false]

/-- An authorization that passes the checks of payer, note count, amounts and solvency is planned. -/
theorem planSpend_of_amounts {note : NoteRef} {value fee assets : UInt64}
    (own : auth.from = wallet.payerPkhEnvelopeB58) (amounts : Amounts auth note value fee assets)
    (covered : value.toNat + fee.toNat ≤ assets.toNat) : ∃ plan, wallet.planSpend auth = .ok plan ∧
      plan.note = note ∧ plan.fee = fee ∧ plan.change.toNat = assets.toNat - (value.toNat + fee.toNat) := by
  have bound := assets.toNat_lt
  have left : (UInt64.ofNat (assets.toNat - (value.toNat + fee.toNat))).toNat =
      assets.toNat - (value.toNat + fee.toNat) :=
    UInt64.toNat_ofNat_of_lt' (Nat.lt_of_le_of_lt (Nat.sub_le _ _) bound)
  refine ⟨{ note, value, fee, change := .ofNat (assets.toNat - (value.toNat + fee.toNat)) }, ?_, rfl, rfl, left⟩
  refine planSpend_ok_iff.mpr ⟨own, amounts.notes, amounts.value, amounts.fee, assets, amounts.assets, ?_⟩
  change assets.toNat = value.toNat + fee.toNat + _
  rw [left, Nat.add_sub_cancel' covered]

/-- A payment that passes the checks does not panic exactly when its fee is within the
direct atom, or something fails before the poke. -/
theorem no_fee_panic_iff [SeedsEncode] [Base64] (wallet : NockchainWalletClient) (auth : Authorization)
    (requirements : PaymentRequirements) {note : NoteRef} {value fee assets : UInt64}
    (own : auth.from = wallet.payerPkhEnvelopeB58) (amounts : Amounts auth note value fee assets) (covered : value.toNat + fee.toNat ≤ assets.toNat) :
    (∀ message, wallet.authorizeAndSign auth requirements ≠ .error (.panic message)) ↔
      (ReachesPoke wallet auth note (assets.toNat - (value.toNat + fee.toNat)) → fee.toNat < 2 ^ 63) := by
  obtain ⟨plan, planned, rfl, rfl, left⟩ := planSpend_of_amounts own amounts covered
  simp only [ne_eq, authorizeAndSign_panic_iff planned, left]
  constructor
  · intro calm reached
    exact Nat.lt_of_not_le fun large => calm _ ⟨reached, large, rfl⟩
  · rintro within message ⟨reached, large, _⟩
    exact absurd (within reached) (Nat.not_lt.mpr large)

end NockchainWalletClient

end Fees

namespace Transparent

open Crypto.Transparent

attribute [local instance] transparent transparent_lawful transparentChain transparentChain_lawful
  spelledBase64 spelledBase64_lawful spelledSeeds

/-- A fee of one is within the direct atom. -/
theorem spending_does_not_panic : ¬ ∃ message, wallet.authorizeAndSign spending asked = .error (.panic message) := by
  have calm := (NockchainWalletClient.no_fee_panic_iff wallet spending asked rfl spending_amounts (by decide)).mpr
    fun _ => by decide
  rintro ⟨message, failed⟩
  exact calm message failed

/-- A value of five and a fee of `2^63`, from a note that carries just that. -/
def dear : Authorization := {
  spending with
  fee := "9223372036854775808"
  notes := [{ noteOfNine with assets := "9223372036854775813" }] }

theorem dear_amounts : Amounts dear { noteOfNine with assets := "9223372036854775813" } 5 9223372036854775808
    9223372036854775813 := ⟨rfl, by decide, by decide, by decide⟩

/-- The checks pass this authorization, and the poke panics. -/
theorem dear_panics : (∃ plan, wallet.planSpend dear = .ok plan ∧ 2 ^ 63 ≤ plan.fee.toNat) ∧
    wallet.authorizeAndSign dear asked = .error (.panic "direct atom out of range") := by
  obtain ⟨plan, planned, note, fee, left⟩ : ∃ plan, wallet.planSpend dear = .ok plan ∧ _ :=
    NockchainWalletClient.planSpend_of_amounts rfl dear_amounts (by decide)
  have large : 2 ^ 63 ≤ plan.fee.toNat := by
    rw [fee]
    decide
  refine ⟨⟨plan, planned, large⟩, ?_⟩
  refine (NockchainWalletClient.authorizeAndSign_panic_iff planned).mpr ⟨?_, large, rfl⟩
  rw [note, left]
  exact {
    recipient := ⟨_, _, payee_hash, rfl⟩
    last := ⟨_, rfl⟩
    first := ⟨_, rfl⟩
    input := ⟨_, rfl⟩
    change := fun more => absurd more (by decide) }

end Transparent

end X402Nockchain.Wallet
