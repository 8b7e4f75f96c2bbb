import X402Nockchain.Client.Builder
import X402Nockchain.Facilitator.Honest

/-! What `build_exact_nockchain_payload` builds with a `NockchainSigner` is what
`verify_envelope` accepts. -/

namespace X402Nockchain.Client

open Foundation Foundation.Serde X402Types Crypto Facilitator

/-- Requirements that a Nockchain payment can meet. -/
structure Offers (requirements : PaymentRequirements) : Prop where
  scheme : requirements.scheme = "exact" ∨ requirements.scheme = "upto"
  network : startsWith requirements.network "nockchain:" = true
  native : requirements.asset = nockchainNativeAsset
  recipient : Spells requirements.payTo
  amount : ∃ amount, Decimal.parseU64 requirements.maxAmountRequired = some amount
  fee : ∀ text, requirements.extra.bind (·.get "minFee") = some (.string text) →
    ∃ fee, Decimal.parseU64 text = some fee

/-- Two clock readings that are apart by no more than the skew tolerance. -/
structure ClocksAgree (tolerance : Duration) (now now' : UInt64) : Prop where
  behind : (now.toNat - now'.toNat) * 1000000000 ≤ tolerance.asNanos
  ahead : (now'.toNat - now.toNat) * 1000000000 ≤ tolerance.asNanos

section Payments

variable [Vesl]

/-- `schnorr_sign` and `encode_signature` do not fail on a digest. -/
def SignsDigests (signer : NockchainSigner) : Prop :=
  ∀ digest : List.Vector Belt 5, (∀ belt ∈ digest.toList, belt.toNat < prime) → ∃ chal sig json,
    Vesl.schnorrSign signer.sk digest = .ok (chal, sig) ∧
      Vesl.encodeSignature signer.pk chal sig = .ok json

omit [Vesl] in
/-- The fee that is offered is always a number. -/
theorem Offers.offeredFee {requirements : PaymentRequirements} (offers : Offers requirements) :
    ∃ fee, Decimal.parseU64 (offeredFee requirements) = some fee := by
  unfold Client.offeredFee
  cases asked : requirements.extra.bind (·.get "minFee") with
  | none => exact ⟨0, Decimal.parseU64_zero⟩
  | some value =>
    cases value with
    | string text => exact offers.fee text asked
    | _ => exact ⟨0, Decimal.parseU64_zero⟩

/-- Every text of the authorization spells its number. -/
theorem Offers.signable [LawfulVesl] {requirements : PaymentRequirements} (offers : Offers requirements)
    (signer : NockchainSigner) (drawn : Draws) (now : UInt64) :
    Signable (drawn.authorization requirements signer.fromIdentifier now) where
  sender := signer.spells_fromIdentifier
  recipient := offers.recipient
  value := offers.amount
  fee := offers.offeredFee
  nonce := spells_random drawn.nonce
  notes := by
    intro note member
    obtain rfl := List.mem_singleton.mp member
    exact ⟨spells_random drawn.first, spells_random drawn.last⟩
  changeAddress := signer.spells_fromIdentifier

/-- A signer whose key signs every digest signs every signable authorization. -/
theorem signAuthorization_succeeds [LawfulVesl] {signer : NockchainSigner} (signs : SignsDigests signer)
    (signable : Signable auth) (requirements : PaymentRequirements) :
    ∃ signature, signer.signAuthorization auth requirements = .ok signature := by
  obtain ⟨belts, message⟩ := signable_iff.mpr signable
  obtain ⟨chal, sig, json, sealed, encoded⟩ := signs (hashVarlen belts) (LawfulVesl.hash_lt belts)
  have hashed : x402SignMessageDigest auth = .ok (hashVarlen belts) := by
    rw [x402SignMessageDigest, message]
    rfl
  simp only [NockchainSigner.signAuthorization, hashed, sealed, encoded, Outcome.mapError_of_ok,
    Outcome.ok_bind]
  exact ⟨_, rfl⟩

omit [Vesl] in
/-- The window of a payment is open on a clock that agrees with the payer's. -/
theorem window_of_clocksAgree {Chain : Type} {state : AppState Chain}
    (agree : ClocksAgree state.clockSkewTolerance now now') (drawn : Draws)
    (requirements : PaymentRequirements) (payer : String) :
    checkTimeWindow state now' (drawn.authorization requirements payer now) = .ok () := by
  have behind := (Duration.le_asNanos_iff _ _).mp agree.behind
  have ahead := (Duration.le_asNanos_iff _ _).mp agree.ahead
  have bound := now.toNat_lt
  rw [checkTimeWindow_ok_iff]
  change (saturatingSub now 5).toNat ≤ _ ∧ _ ≤ (saturatingAdd now requirements.maxTimeoutSeconds).toNat + _
  rw [toNat_saturatingSub, toNat_saturatingAdd]
  omega

/-- The payload that a signer's signature completes. -/
def nockOf (drawn : Draws) (requirements : PaymentRequirements) (signer : NockchainSigner) (now : UInt64)
    (signature : SchnorrSignatureJson) : ExactNockchainPayload where
  signature
  authorization := drawn.authorization requirements signer.fromIdentifier now

theorem Offers.admissible [LawfulVesl] {requirements : PaymentRequirements} {signer : NockchainSigner}
    {drawn : Draws} (offers : Offers requirements)
    (signed : signer.signAuthorization (drawn.authorization requirements signer.fromIdentifier now)
      requirements = .ok signature) :
    Admissible (nockOf drawn requirements signer now signature) requirements where
  recipient := rfl
  attested := NockchainSigner.attested rfl signed
  capped := by
    obtain ⟨amount, amountText⟩ := offers.amount
    obtain ⟨cap, capText⟩ := Decimal.parseU128_of_parseU64 amountText
    exact ⟨cap, cap, capText, capText, Nat.le_refl cap⟩
  native := offers.native

variable [ErrorText] {Chain Cache : Type} [LawfulReplayCache Cache]

/-- The payment is built, and accepted by every facilitator whose clock agrees and
whose cache does not remember the nonce. -/
theorem honest_payment_accepted [LawfulVesl] {state : AppState Chain} {cache : Cache}
    {requirements : PaymentRequirements} {signer : NockchainSigner} {drawn : Draws}
    (registry : state.schemeRegistry = .withDefaultHandlers) (offers : Offers requirements)
    (signs : SignsDigests signer) (agree : ClocksAgree state.clockSkewTolerance now now')
    (fresh : ¬ Consumed state now' cache (drawn.authorization requirements signer.fromIdentifier now))
    (echoExtensions : Option (List (String × Value))) :
    ∃ payload, buildExactNockchainPayload requirements (ofNockchain signer) echoExtensions now drawn =
        .ok payload ∧
      (verifyEnvelope state now' cache { payload, requirements }).1 = .ok () := by
  obtain ⟨signature, signed⟩ :=
    signAuthorization_succeeds signs (offers.signable signer drawn now) requirements
  refine ⟨_, buildExactNockchainPayload_ok_iff.mpr ⟨signature, signed, rfl⟩, ?_⟩
  obtain ⟨handler, found, extracts, verifies⟩ := handlerFor_shipped offers.network offers.scheme
  have carried : fromValue (toValue (nockOf drawn requirements signer now signature)) =
      some (nockOf drawn requirements signer now signature) := fromValue_toValue _
  refine verifyEnvelope_ok_iff.mpr ⟨handler, drawn.authorization requirements signer.fromIdentifier now,
    screen_ok_iff.mpr ⟨preDispatch_ok_iff.mpr ⟨rfl, rfl, rfl, ?_, ?_⟩,
      window_of_clocksAgree agree drawn requirements signer.fromIdentifier⟩, fresh, ?_⟩
  · rw [registry]
    exact found
  · rw [extracts]
    exact extractNockchainAuthorization_ok_iff.mpr ⟨_, carried, rfl⟩
  · rw [verifies]
    exact verifyNockchain_ok_iff.mpr ⟨_, carried, offers.admissible signed⟩

end Payments

/-! ### A payment of the stand-in's payer under `upto` -/

namespace Transparent

open Crypto.Transparent Facilitator.Transparent

attribute [local instance] transparent transparent_lawful plainErrors

def metered : PaymentRequirements :=
  { requirements with scheme := "upto", extra := some (.object [("minFee", .string "3")]) }

theorem metered_offers : Offers metered where
  scheme := .inr rfl
  network := fakenet_nockchain
  native := rfl
  recipient := authorization_signable.recipient
  amount := authorization_signable.value
  fee := by
    rintro text ⟨⟩
    exact ⟨3, by decide⟩

theorem payer_signs : SignsDigests payer := fun _ _ => ⟨_, _, _, rfl, rfl⟩

def draws : Draws := { nonce := .replicate 32 4, first := .replicate 32 5, last := .replicate 32 6 }

/-- Built a minute behind the facilitator's clock. -/
theorem honest_payment_accepted_metered :
    ∃ payload, buildExactNockchainPayload metered (ofNockchain payer) none 1000 draws = .ok payload ∧
      (verifyEnvelope facilitator 1060 ({} : RecordLog) { payload, requirements := metered }).1 = .ok () :=
  honest_payment_accepted rfl metered_offers payer_signs ⟨by decide, by decide⟩ (empty_fresh _ _ _) none

end Transparent

end X402Nockchain.Client
