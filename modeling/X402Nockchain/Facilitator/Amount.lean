import X402Nockchain.Facilitator.Honest

/-! What an accepted payment under `exact` is worth. The handler enforces the cap
alone, so the price is paid for certain only where there is no price. -/

namespace X402Nockchain.Facilitator

open Foundation Foundation.Serde X402Types Crypto

/-- `extra.minFee`, where it is a decimal string. -/
def minFee (requirements : PaymentRequirements) : Option Nat :=
  ((requirements.extra.bind (·.get "minFee")).bind Value.asStr).bind Decimal.decimalNumber

/-- The value covers `maxAmountRequired` and the fee covers `extra.minFee`. -/
structure Pays (auth : Authorization) (requirements : PaymentRequirements) : Prop where
  value : ∃ value cap, Decimal.parseU128 auth.value = some value ∧
    Decimal.parseU128 requirements.maxAmountRequired = some cap ∧ cap ≤ value
  fee : ∀ least, minFee requirements = some least →
    ∃ fee, Decimal.parseU64 auth.fee = some fee ∧ least ≤ fee.toNat

/-- The requirements ask for no amount and for no fee. -/
structure AsksNothing (requirements : PaymentRequirements) : Prop where
  cap : Decimal.parseU128 requirements.maxAmountRequired = some 0
  fee : ∀ least, minFee requirements = some least → least = 0

/-- Some payment could meet the requirements. -/
structure Payable (requirements : PaymentRequirements) : Prop where
  network : startsWith requirements.network "nockchain:" = true
  recipient : Spells requirements.payTo
  cap : ∃ cap, Decimal.parseU128 requirements.maxAmountRequired = some cap
  native : requirements.asset = nockchainNativeAsset

section Payments

variable [Vesl] [ErrorText] {Chain : Type} {state : AppState Chain}
  {requirements : PaymentRequirements} {nock : ExactNockchainPayload}

/-- Every accepted request with these requirements pays them in full. -/
def AlwaysPaid (Cache : Type) [LawfulReplayCache Cache] (state : AppState Chain)
    (requirements : PaymentRequirements) : Prop :=
  ∀ (now : UInt64) (cache : Cache) (req : VerifyRequest) (nock : ExactNockchainPayload),
    req.requirements = requirements → fromValue req.payload.payload = some nock →
    (verifyEnvelope state now cache req).1 = .ok () → Pays nock.authorization requirements

omit [ErrorText] in
theorem signable_of_attested (attested : Attested nock pk chal sig digest) :
    Signable nock.authorization := by
  obtain ⟨belts, message, _⟩ := Outcome.map_ok.mp attested.signed
  exact signable_iff.mp ⟨belts, message⟩

variable {Cache : Type} [LawfulReplayCache Cache] {cache : Cache} {req : VerifyRequest}

/-- What the shipped handlers admitted of an accepted request. -/
theorem admitted (registry : state.schemeRegistry = .withDefaultHandlers)
    (accepted : (verifyEnvelope state now cache req).1 = .ok ())
    (carried : fromValue req.payload.payload = some nock) :
    startsWith req.requirements.network "nockchain:" = true ∧ Admissible nock req.requirements := by
  obtain ⟨handler, auth, screened, _, verified⟩ := verifyEnvelope_ok_iff.mp accepted
  obtain ⟨_, _, _, found, extracted⟩ := preDispatch_ok_iff.mp (screen_ok_iff.mp screened).1
  rw [registry] at found
  obtain ⟨network, _⟩ := handlerFor_withDefaultHandlers found
  obtain ⟨nock', carried', _, admissible⟩ := admissible_of_verified found extracted verified
  obtain rfl := Option.some.inj (carried.symm.trans carried')
  exact ⟨network, admissible⟩

omit [ErrorText] in
theorem pays_of_asksNothing (admissible : Admissible nock requirements)
    (free : AsksNothing requirements) : Pays nock.authorization requirements where
  value := by
    obtain ⟨value, _, valueText, _, _⟩ := admissible.capped
    exact ⟨value, 0, valueText, free.cap, Nat.zero_le value⟩
  fee := by
    intro least asked
    obtain ⟨pk, chal, sig, digest, attested⟩ := admissible.attested
    obtain ⟨fee, feeText⟩ := (signable_of_attested attested).fee
    rw [free.fee least asked]
    exact ⟨fee, feeText, Nat.zero_le _⟩

omit [ErrorText] in
theorem payable_of_admissible (network : startsWith requirements.network "nockchain:" = true)
    (admissible : Admissible nock requirements) : Payable requirements where
  network := network
  recipient := by
    obtain ⟨pk, chal, sig, digest, attested⟩ := admissible.attested
    rw [← admissible.recipient]
    exact (signable_of_attested attested).recipient
  cap := by
    obtain ⟨_, cap, _, capText, _⟩ := admissible.capped
    exact ⟨cap, capText⟩
  native := admissible.native

/-- An authorization of nothing at all to the payee. -/
def unpaid (payer : NockchainSigner) (requirements : PaymentRequirements) : Authorization where
  «from» := payer.fromIdentifier
  «to» := requirements.payTo
  value := "0"
  fee := "0"
  nonce := "2"
  validAfter := 0
  validBefore := 18446744073709551615
  notes := []
  changeAddress := "2"

omit [Vesl] [ErrorText] in
theorem two_spelled : Spells "2" := ⟨1, rfl, by decide⟩

omit [ErrorText] in
theorem unpaid_signable [LawfulVesl] (payer : NockchainSigner) (payable : Payable requirements) :
    Signable (unpaid payer requirements) where
  sender := payer.spells_fromIdentifier
  recipient := payable.recipient
  value := ⟨0, Decimal.parseU64_zero⟩
  fee := ⟨0, Decimal.parseU64_zero⟩
  nonce := two_spelled
  notes := by simp [unpaid]
  changeAddress := two_spelled

/-- A request that presents a payment under its requirements. -/
def presenting (nock : ExactNockchainPayload) (requirements : PaymentRequirements) : VerifyRequest where
  payload := {
    x402Version := 2
    scheme := requirements.scheme
    network := requirements.network
    payload := toValue nock }
  requirements

theorem unpaid_accepted [LawfulVesl] (registry : state.schemeRegistry = .withDefaultHandlers)
    (exact' : requirements.scheme = "exact") (payable : Payable requirements) {payer : NockchainSigner}
    (signs : payer.signAuthorization (unpaid payer requirements) requirements = .ok signature) :
    (verifyEnvelope state 0 (LawfulReplayCache.new : Cache)
      (presenting { signature, authorization := unpaid payer requirements } requirements)).1 = .ok () := by
  obtain ⟨cap, capText⟩ := payable.cap
  have honest : Honest payer { signature, authorization := unpaid payer requirements }
      (presenting { signature, authorization := unpaid payer requirements } requirements) := {
    version := rfl
    scheme := exact'
    offered := exact'
    network := rfl
    nockchain := payable.network
    carried := fromValue_toValue _
    own := rfl
    signed := ⟨requirements, signs⟩
    recipient := rfl
    capped := ⟨0, cap, Decimal.parseU128_zero, capText, Nat.zero_le cap⟩
    native := payable.native }
  refine (honest.accepted_iff registry).mpr ⟨checkTimeWindow_ok_iff.mpr ⟨?_, ?_⟩,
    LawfulReplayCache.not_remembered_new _ _ _⟩
  · exact Nat.zero_le _
  · exact Nat.zero_le _

omit [Vesl] [ErrorText] in
/-- A payment of nothing covers only requirements that ask for nothing. -/
theorem asksNothing_of_pays (pays : Pays auth requirements) (value : auth.value = "0")
    (fee : auth.fee = "0") : AsksNothing requirements where
  cap := by
    obtain ⟨paid, cap, valueText, capText, covers⟩ := pays.value
    rw [value, Decimal.parseU128_zero] at valueText
    obtain rfl := Option.some.inj valueText
    rw [capText, Nat.le_zero.mp covers]
  fee := by
    intro least asked
    obtain ⟨paid, feeText, covers⟩ := pays.fee least asked
    rw [fee, Decimal.parseU64_zero] at feeText
    obtain rfl := Option.some.inj feeText
    exact Nat.le_zero.mp covers

/-- Payments under `exact` are never below the price exactly where the price is
nothing, or where no payment can be made at all. -/
theorem always_paid_iff [LawfulVesl] (Cache : Type) [LawfulReplayCache Cache]
    (registry : state.schemeRegistry = .withDefaultHandlers) (exact' : requirements.scheme = "exact")
    (payer : NockchainSigner)
    (signs : ∀ auth, Signable auth → ∃ signature, payer.signAuthorization auth requirements = .ok signature) :
    AlwaysPaid Cache state requirements ↔ AsksNothing requirements ∨ ¬ Payable requirements := by
  constructor
  · intro paid
    by_cases payable : Payable requirements
    · obtain ⟨signature, signed⟩ := signs _ (unpaid_signable payer payable)
      left
      exact asksNothing_of_pays (paid 0 LawfulReplayCache.new _ _ rfl (fromValue_toValue _)
        (unpaid_accepted registry exact' payable signed)) rfl rfl
    · exact .inr payable
  · rintro priced now cache req nock rfl carried accepted
    obtain ⟨network, admissible⟩ := admitted registry accepted carried
    rcases priced with free | closed
    · exact pays_of_asksNothing admissible free
    · exact absurd (payable_of_admissible network admissible) closed

end Payments

/-! ### A priced resource for nothing -/

namespace Transparent

open Crypto.Transparent

attribute [local instance] transparent transparent_lawful plainErrors

def free : PaymentRequirements := { requirements with maxAmountRequired := "0" }

theorem always_paid_when_free : AlwaysPaid RecordLog facilitator free :=
  (always_paid_iff RecordLog rfl rfl payer fun _ signable => signs 7 signable free).mpr
    (.inl { cap := Decimal.parseU128_zero, fee := nofun })

/-- Five nicks are asked, nothing is paid, and the payment is accepted. -/
theorem unpaid_is_accepted : ¬ ∀ (now : UInt64) (cache : RecordLog) (req : VerifyRequest)
    (nock : ExactNockchainPayload), req.requirements.scheme = "exact" →
    fromValue req.payload.payload = some nock →
    (verifyEnvelope facilitator now cache req).1 = .ok () →
    Pays nock.authorization req.requirements := by
  intro claim
  have payable : Payable requirements := {
    network := by decide
    recipient := ⟨1, rfl, by decide⟩
    cap := ⟨5, by decide⟩
    native := rfl }
  obtain ⟨signature, signed⟩ := signs 7 (unpaid_signable payer payable) requirements
  have pays := claim 0 LawfulReplayCache.new _ _ rfl (fromValue_toValue _)
    (unpaid_accepted rfl rfl payable signed)
  have free : Decimal.parseU128 "5" = some 0 := (asksNothing_of_pays pays rfl rfl).cap
  exact absurd free (by decide)

end Transparent

end X402Nockchain.Facilitator
