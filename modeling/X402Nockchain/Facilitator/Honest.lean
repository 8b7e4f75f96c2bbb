import X402Nockchain.Facilitator.Verify

/-! Payments that a facilitator with the shipped handlers has no reason to refuse
but the clock and the replay cache. -/

namespace X402Nockchain.Facilitator

open Foundation Foundation.Serde X402Types Crypto

section Payments

variable [Vesl] {Chain Cache : Type}

/-- A payment under the `exact` scheme, signed by the payer it names and matching
the requirements it is presented with. -/
structure Honest (signer : NockchainSigner) (nock : ExactNockchainPayload) (req : VerifyRequest) :
    Prop where
  version : req.payload.x402Version = 2
  scheme : req.payload.scheme = "exact"
  offered : req.requirements.scheme = "exact"
  network : req.payload.network = req.requirements.network
  nockchain : startsWith req.requirements.network "nockchain:" = true
  carried : fromValue req.payload.payload = some nock
  own : nock.authorization.from = signer.fromIdentifier
  signed : ∃ requirements,
    signer.signAuthorization nock.authorization requirements = .ok nock.signature
  recipient : nock.authorization.to = req.requirements.payTo
  capped : ∃ value cap, Decimal.parseU128 nock.authorization.value = some value ∧
    Decimal.parseU128 req.requirements.maxAmountRequired = some cap ∧ value ≤ cap
  native : req.requirements.asset = nockchainNativeAsset

namespace Honest

variable {signer : NockchainSigner} {nock : ExactNockchainPayload} {req : VerifyRequest}

theorem admissible [LawfulVesl] (honest : Honest signer nock req) : Admissible nock req.requirements where
  recipient := honest.recipient
  attested := by
    obtain ⟨requirements, signed⟩ := honest.signed
    exact NockchainSigner.attested honest.own signed
  capped := honest.capped
  native := honest.native

theorem dispatched [ErrorText] {state : AppState Chain} (honest : Honest signer nock req)
    (registry : state.schemeRegistry = .withDefaultHandlers) :
    preDispatch state req = .ok (exactNockchainHandler, nock.authorization) := by
  refine preDispatch_ok_iff.mpr ⟨honest.version, honest.scheme.trans honest.offered.symm,
    honest.network, ?_, extractNockchainAuthorization_ok_iff.mpr ⟨nock, honest.carried, rfl⟩⟩
  rw [registry, honest.offered]
  exact handlerFor_exact honest.nockchain

theorem verified [LawfulVesl] [ErrorText] (honest : Honest signer nock req) :
    verifyNockchain req.payload req.requirements = .ok () :=
  verifyNockchain_ok_iff.mpr ⟨nock, honest.carried, honest.admissible⟩

/-- An honest payment is accepted whenever it is in its time window and its nonce is fresh. -/
theorem accepted_iff [LawfulVesl] [ErrorText] [LawfulReplayCache Cache] {state : AppState Chain} {cache : Cache}
    (honest : Honest signer nock req)
    (registry : state.schemeRegistry = .withDefaultHandlers) :
    (verifyEnvelope state now cache req).1 = .ok () ↔
      checkTimeWindow state now nock.authorization = .ok () ∧
        ¬ Consumed state now cache nock.authorization := by
  have found := honest.dispatched registry
  rw [verifyEnvelope_ok_iff]
  constructor
  · rintro ⟨handler, auth, screened, fresh, _⟩
    obtain ⟨dispatched, window⟩ := screen_ok_iff.mp screened
    rw [found] at dispatched
    cases dispatched
    exact ⟨window, fresh⟩
  · rintro ⟨window, fresh⟩
    exact ⟨_, _, screen_ok_iff.mpr ⟨found, window⟩, fresh, honest.verified⟩

/-- `/settle` verifies an honest payment throughout its time window. -/
theorem settles [LawfulVesl] [ErrorText] [ReplayCache Cache] {state : AppState Chain} {cache : Cache}
    (honest : Honest signer nock req) (registry : state.schemeRegistry = .withDefaultHandlers)
    (window : checkTimeWindow state now nock.authorization = .ok ()) :
    (verifyEnvelopeForSettle state now cache req).1 = .ok () := by
  rw [verifyEnvelopeForSettle_eq, screen_ok_iff.mpr ⟨honest.dispatched registry, window⟩]
  exact honest.verified

/-- A consumed nonce is the answer of an honest payment that comes back in its window. -/
theorem replayed [ErrorText] [LawfulReplayCache Cache] {state : AppState Chain} {cache : Cache}
    (honest : Honest signer nock req) (registry : state.schemeRegistry = .withDefaultHandlers)
    (window : checkTimeWindow state now nock.authorization = .ok ())
    (consumed : Consumed state now cache nock.authorization) :
    verifyEnvelope state now cache req = (.error (.nonceReplayed nock.authorization.nonce), cache) :=
  replayed_unchanged (screen_ok_iff.mpr ⟨honest.dispatched registry, window⟩) consumed

/-- An accepted payment leaves its nonce behind. -/
theorem records [ErrorText] [LawfulReplayCache Cache] {state : AppState Chain} {cache : Cache}
    (honest : Honest signer nock req) (registry : state.schemeRegistry = .withDefaultHandlers)
    (window : checkTimeWindow state now nock.authorization = .ok ())
    (fresh : ¬ Consumed state now cache nock.authorization) :
    Records nock.authorization now cache (verifyEnvelope state now cache req).2 :=
  (handled_records (screen_ok_iff.mpr ⟨honest.dispatched registry, window⟩) fresh).2

end Honest

theorem replayKey_inj [LawfulVesl] {auth auth' : Authorization} :
    replayKey auth = replayKey auth' ↔ auth.nonce = auth'.nonce :=
  ⟨fun same => asBytes_injective (LawfulVesl.prefixed_injective _ same), fun same => by
    rw [replayKey, replayKey, same]⟩

end Payments

/-! ### Requests of the stand-in's payer -/

namespace Transparent

open Crypto.Transparent

attribute [local instance] transparent transparent_lawful plainErrors

def requirements : PaymentRequirements where
  scheme := "exact"
  network := "nockchain:fakenet"
  maxAmountRequired := "5"
  resource := "https://example.test/weather"
  asset := "NOCK"
  payTo := "2"
  maxTimeoutSeconds := 60

/-- The payload of `payer` for `auth`. -/
def payment (auth : Authorization) (signedRawTx : Option SignedRawTx := none) :
    ExactNockchainPayload where
  signature := match payer.signAuthorization auth requirements with
    | .ok signature => signature
    | .error _ => { pubkey := "", schnorr := { chal := .replicate 8 "0", sig := .replicate 8 "0" } }
  authorization := auth
  signedRawTx

def request (nock : ExactNockchainPayload) : VerifyRequest where
  payload := {
    x402Version := 2
    scheme := "exact"
    network := "nockchain:fakenet"
    payload := toValue nock }
  requirements

theorem payment_signed (signable : Signable auth) (signedRawTx : Option SignedRawTx) :
    payer.signAuthorization auth requirements = .ok (payment auth signedRawTx).signature := by
  obtain ⟨signature, signed⟩ := signs 7 signable requirements
  have signed : payer.signAuthorization auth requirements = .ok signature := signed
  simp only [payment, signed]

theorem fakenet_nockchain : startsWith "nockchain:fakenet" "nockchain:" = true := by decide

theorem five_nicks : Decimal.parseU128 "5" = some 5 := by decide

/-- Any authorization of five nicks by `payer` to the payee is honest. -/
theorem honest (signable : Signable auth) (own : auth.from = payer.fromIdentifier)
    (recipient : auth.to = "2") (value : auth.value = "5") (signedRawTx : Option SignedRawTx) :
    Honest payer (payment auth signedRawTx) (request (payment auth signedRawTx)) where
  version := rfl
  scheme := rfl
  offered := rfl
  network := rfl
  nockchain := fakenet_nockchain
  carried := fromValue_toValue _
  own := own
  signed := ⟨requirements, payment_signed signable signedRawTx⟩
  recipient := recipient
  capped := ⟨5, 5, (congrArg Decimal.parseU128 value).trans five_nicks, five_nicks, Nat.le_refl 5⟩
  native := rfl

def original : VerifyRequest := request (payment authorization)

theorem original_honest : Honest payer (payment authorization) original :=
  honest authorization_signable rfl rfl rfl none

/-- The window of `authorization`, a minute wider at both ends. -/
theorem in_window {Chain : Type} {state : AppState Chain} (skew : state.clockSkewTolerance = defaultClockSkewTolerance)
    (starts : auth.validAfter = 1000) (ends : auth.validBefore = 1300) (now : UInt64)
    (early : 940 ≤ now.toNat) (late : now.toNat ≤ 1360) : checkTimeWindow state now auth = .ok () := by
  rw [checkTimeWindow_ok_iff, starts, ends, skew]
  change 1000 ≤ _ + 60 ∧ _ ≤ 1300 + 60
  omega

/-- The default facilitator over the stub chain, and its empty replay cache. -/
abbrev facilitator : AppState Unit := .new stubChainClient

theorem empty_fresh (state : AppState Unit) (now : UInt64) (auth : Authorization) :
    ¬ Consumed state now ({} : RecordLog) auth :=
  @LawfulReplayCache.not_remembered_new RecordLog _ _ _ _

theorem original_window (now : UInt64) (early : 940 ≤ now.toNat) (late : now.toNat ≤ 1360) :
    checkTimeWindow facilitator now (payment authorization).authorization = .ok () :=
  in_window rfl rfl rfl now early late

theorem original_accepted : (verifyEnvelope facilitator 1100 ({} : RecordLog) original).1 = .ok () :=
  (original_honest.accepted_iff rfl).mpr ⟨original_window 1100 (by decide) (by decide), empty_fresh _ _ _⟩

theorem original_recorded : Records authorization 1100 ({} : RecordLog)
    (verifyEnvelope facilitator 1100 {} original).2 :=
  original_honest.records rfl (original_window 1100 (by decide) (by decide)) (empty_fresh _ _ _)

end Transparent

end X402Nockchain.Facilitator
