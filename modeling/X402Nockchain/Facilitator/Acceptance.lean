import X402Nockchain.Facilitator.Honest

/-! The decision of `/verify` as one condition, and the order of its checks. -/

namespace X402Nockchain.Facilitator

open Foundation Foundation.Serde X402Types Crypto

variable {Chain Cache : Type}

/-- The checks behind an acceptance, in the order in which a failure is reported. -/
inductive Stage where
  | version
  | scheme
  | network
  | dispatch
  | decode
  | window
  | nonce
  | recipient
  | signature
  | amount
  | asset
  deriving DecidableEq

/-- The checks of a shipped handler's `verify`. -/
def Stage.handled : List Stage := [.recipient, .signature, .amount, .asset]

def Stage.all : List Stage :=
  [.version, .scheme, .network, .dispatch, .decode, .window, .nonce] ++ handled

/-- A scheme and network that a handler ships for. -/
def Shipped (req : VerifyRequest) : Prop :=
  (req.requirements.scheme = "exact" ∨ req.requirements.scheme = "upto") ∧
    startsWith req.requirements.network "nockchain:" = true

/-- The authorization is running, give or take the skew. -/
def Running (state : AppState Chain) (now : UInt64) (auth : Authorization) : Prop :=
  auth.validAfter.toNat ≤ now.toNat + state.clockSkewTolerance.asSecs.toNat ∧
    now.toNat ≤ auth.validBefore.toNat + state.clockSkewTolerance.asSecs.toNat

section Decision

variable [Vesl] [ErrorText] [LawfulReplayCache Cache] {state : AppState Chain} {now : UInt64}
  {cache : Cache} {req : VerifyRequest}

/-- A check that looks at the decoded payload. None is made of one that does not decode. -/
def onPayload (req : VerifyRequest) (check : ExactNockchainPayload → Except VerifyError Unit) :
    Except VerifyError Unit :=
  match fromValue req.payload.payload with
  | none => .ok ()
  | some nock => check nock

open Classical in
/-- What each check asks of a request, and the error that it reports otherwise. -/
noncomputable def Stage.check (state : AppState Chain) (now : UInt64) (cache : Cache) (req : VerifyRequest) :
    Stage → Except VerifyError Unit
  | .version => ensure (req.payload.x402Version = 2) (spec "invalid_version" "x402Version MUST be 2")
  | .scheme => ensure (req.payload.scheme = req.requirements.scheme)
      (spec "invalid_scheme" "payload.scheme does not match requirements.scheme")
  | .network => ensure (req.payload.network = req.requirements.network)
      (spec "invalid_network" "payload.network does not match requirements.network")
  | .dispatch => ensure (Shipped req) (.unknownScheme req.requirements.scheme req.requirements.network)
  | .decode => (decodePayload req.payload).map fun _ => ()
  | .window => onPayload req fun nock => ensure (Running state now nock.authorization)
      (.outsideTimeWindow now nock.authorization.validAfter nock.authorization.validBefore)
  | .nonce => onPayload req fun nock => ensure (¬ Consumed state now cache nock.authorization)
      (.nonceReplayed nock.authorization.nonce)
  | .recipient => onPayload req fun nock => ensure (nock.authorization.to = req.requirements.payTo)
      (spec "invalid_recipient" "authorization.to does not match requirements.payTo")
  | .signature => (verifyPayment req.payload req.requirements).mapError fun error =>
      spec "invalid_signature" error.display
  | .amount => onPayload req fun nock => checkMaxAmount nock.authorization req.requirements
  | .asset => ensure (req.requirements.asset = nockchainNativeAsset)
      (.assetMismatch nockchainNativeAsset req.requirements.asset)

omit [Vesl] [ErrorText] [LawfulReplayCache Cache] in
open Classical in
/-- Both edges of the window report the same error. -/
theorem checkTimeWindow_eq (auth : Authorization) :
    checkTimeWindow state now auth = ensure (Running state now auth)
      (.outsideTimeWindow now auth.validAfter auth.validBefore) := by
  by_cases running : Running state now auth
  · rw [checkTimeWindow_ok_iff.mpr running, ensure, if_pos running]
  · cases checked : checkTimeWindow state now auth with
    | ok done => exact absurd (checkTimeWindow_ok_iff.mp checked) running
    | error error =>
      rw [ensure, if_neg running]
      simp only [checkTimeWindow, ensure] at checked
      split at checked
      · split at checked <;> cases checked
        rfl
      · cases checked
        rfl

omit [LawfulReplayCache Cache] in
/-- A shipped handler is found, and is one of the two. -/
theorem Shipped.handler (Chain : Type) (shipped : Shipped req) : ∃ handler : SchemeHandler Chain,
    SchemeHandlerRegistry.withDefaultHandlers.handlerFor req.requirements.scheme req.requirements.network =
      some handler ∧
    handler.extractAuthorization = extractNockchainAuthorization ∧ handler.verify = verifyNockchain :=
  handlerFor_shipped shipped.2 shipped.1

omit [LawfulReplayCache Cache] in
theorem shipped_of_found {handler : SchemeHandler Chain}
    (found : SchemeHandlerRegistry.withDefaultHandlers.handlerFor req.requirements.scheme
      req.requirements.network = some handler) : Shipped req := by
  obtain ⟨network, ⟨scheme, _⟩ | ⟨scheme, _⟩⟩ := handlerFor_withDefaultHandlers found
  · exact ⟨.inl scheme, network⟩
  · exact ⟨.inr scheme, network⟩

omit [LawfulReplayCache Cache] in
theorem not_shipped_of_missing (missing : (SchemeHandlerRegistry.withDefaultHandlers :
    SchemeHandlerRegistry Chain).handlerFor req.requirements.scheme req.requirements.network = none) :
    ¬ Shipped req := by
  intro shipped
  obtain ⟨handler, found, _⟩ := shipped.handler Chain
  cases missing.symm.trans found

omit [LawfulReplayCache Cache] in
/-- What is found before the clock is read. -/
theorem preDispatch_eq {nock : ExactNockchainPayload} (registry : state.schemeRegistry = .withDefaultHandlers)
    (carried : fromValue req.payload.payload = some nock) (version : req.payload.x402Version = 2)
    (scheme : req.payload.scheme = req.requirements.scheme)
    (network : req.payload.network = req.requirements.network) (shipped : Shipped req) :
    ∃ handler, handler.verify = verifyNockchain ∧
      preDispatch state req = .ok (handler, nock.authorization) := by
  obtain ⟨handler, found, extracts, verifies⟩ := shipped.handler Chain
  refine ⟨handler, verifies, preDispatch_ok_iff.mpr ⟨version, scheme, network, ?_, ?_⟩⟩
  · rw [registry]
    exact found
  · rw [extracts]
    exact extractNockchainAuthorization_ok_iff.mpr ⟨nock, carried, rfl⟩

omit [ErrorText] in
open Classical in
theorem checkReplay_fst (auth : Authorization) : (checkReplay state now cache auth).1 =
    ensure (¬ Consumed state now cache auth) (.nonceReplayed auth.nonce) := by
  obtain ⟨known, hit⟩ | ⟨unknown, _, missed, _⟩ := checkReplay_cases state now cache auth
  · rw [hit, ensure, if_neg (not_not.mpr known)]
  · rw [missed, ensure, if_pos unknown]

omit [ErrorText] in
/-- The outcome of `verify_envelope`, apart from what it leaves in the cache. -/
theorem verifyEnvelope_fst : (verifyEnvelope state now cache req).1 =
    (preDispatch state req >>= fun found => checkTimeWindow state now found.2 >>= fun _ =>
      (checkReplay state now cache found.2).1 >>= fun _ => found.1.verify req.payload req.requirements) := by
  cases dispatched : preDispatch state req with
  | error error => simp [verifyEnvelope, verifyEnvelopeInner, screen, dispatched, bind, Except.bind]
  | ok found =>
    cases window : checkTimeWindow state now found.2 with
    | error error => simp [verifyEnvelope, verifyEnvelopeInner, screen, dispatched, window, bind, Except.bind]
    | ok done =>
      rcases replayed : checkReplay state now cache found.2 with ⟨error | done, after⟩ <;>
        simp [verifyEnvelope, verifyEnvelopeInner, screen, dispatched, window, replayed, bind, Except.bind,
          pure, Except.pure]

/-- The checks of both shipped handlers, of a payload that decodes. -/
theorem verifyNockchain_eq_stages (state : AppState Chain) (now : UInt64) (cache : Cache)
    {nock : ExactNockchainPayload} (carried : fromValue req.payload.payload = some nock) :
    verifyNockchain req.payload req.requirements =
      Stage.handled.forM (Stage.check state now cache req) := by
  have decoded := decodePayload_of_carried carried
  have trailing : ∀ last : Except VerifyError Unit, (last >>= fun _ => pure ()) = last := bind_pure
  simp only [Stage.handled, List.forM_eq_forM, List.forM_cons, List.forM_nil, Stage.check, onPayload, carried,
    trailing]
  simp only [verifyNockchain, decoded, Outcome.ok_bind, checkAsset, ensure]

/-- `/verify` is its checks, one after another. -/
theorem verifyEnvelope_eq_stages (registry : state.schemeRegistry = .withDefaultHandlers) :
    (verifyEnvelope state now cache req).1 = Stage.all.forM (Stage.check state now cache req) := by
  rw [Stage.all, Outcome.forM_append, verifyEnvelope_fst, preDispatch, registry]
  simp only [List.forM_eq_forM, List.forM_cons, List.forM_nil, Stage.check, bind_assoc]
  refine bind_congr fun _ => bind_congr fun _ => bind_congr fun _ => ?_
  cases found : (SchemeHandlerRegistry.withDefaultHandlers : SchemeHandlerRegistry Chain).handlerFor
      req.requirements.scheme req.requirements.network with
  | none =>
    rw [ensure, if_neg (not_shipped_of_missing found)]
    rfl
  | some handler =>
    obtain ⟨extracts, verifies, _⟩ := shared_methods found
    rw [ensure, if_pos (shipped_of_found found), okOr, Outcome.ok_bind, Outcome.ok_bind, extracts]
    cases carried : (fromValue req.payload.payload : Option ExactNockchainPayload) with
    | none =>
      simp only [extractNockchainAuthorization, decodePayload, carried, okOr]
      rfl
    | some nock =>
      have decoded := decodePayload_of_carried carried
      have handled := verifyNockchain_eq_stages state now cache carried
      rw [List.forM_eq_forM] at handled
      simp only [extractNockchainAuthorization, decoded, Outcome.ok_bind, Outcome.map_of_ok, onPayload, carried,
        pure_bind, checkTimeWindow_eq, checkReplay_fst, verifies, handled]

/-- Everything that an accepted request has, with the payload that it decodes to. -/
structure Acceptable (state : AppState Chain) (now : UInt64) (cache : Cache) (req : VerifyRequest)
    (nock : ExactNockchainPayload) : Prop where
  version : req.payload.x402Version = 2
  scheme : req.payload.scheme = req.requirements.scheme
  network : req.payload.network = req.requirements.network
  shipped : Shipped req
  carried : fromValue req.payload.payload = some nock
  running : Running state now nock.authorization
  fresh : ¬ Consumed state now cache nock.authorization
  admissible : Admissible nock req.requirements

theorem accepted_iff (registry : state.schemeRegistry = .withDefaultHandlers) :
    (verifyEnvelope state now cache req).1 = .ok () ↔ ∃ nock, Acceptable state now cache req nock := by
  rw [verifyEnvelope_ok_iff]
  constructor
  · rintro ⟨handler, auth, screened, fresh, verified⟩
    obtain ⟨dispatched, window⟩ := screen_ok_iff.mp screened
    obtain ⟨version, scheme, network, found, extracted⟩ := preDispatch_ok_iff.mp dispatched
    rw [registry] at found
    obtain ⟨nock, carried, rfl, admissible⟩ := admissible_of_verified found extracted verified
    exact ⟨nock, version, scheme, network, shipped_of_found found, carried, checkTimeWindow_ok_iff.mp window,
      fresh, admissible⟩
  · rintro ⟨nock, version, scheme, network, shipped, carried, running, fresh, admissible⟩
    obtain ⟨handler, verifies, dispatched⟩ := preDispatch_eq registry carried version scheme network shipped
    refine ⟨handler, nock.authorization, screen_ok_iff.mpr ⟨dispatched, checkTimeWindow_ok_iff.mpr running⟩,
      fresh, ?_⟩
    rw [verifies]
    exact verifyNockchain_ok_iff.mpr ⟨nock, carried, admissible⟩

/-- What the three decodes of a request see: before the dispatch, in the handler,
and in the verifier. -/
def decodedAuthorizations (handler : SchemeHandler Chain) (req : VerifyRequest) : List (Option Authorization) :=
  [(handler.extractAuthorization req.payload).toOption,
    (decodePayload req.payload).toOption.map ExactNockchainPayload.authorization,
    (fromValue (toValue req.payload.payload)).map ExactNockchainPayload.authorization]

theorem decodedAuthorizations_eq {handler : SchemeHandler Chain}
    (found : SchemeHandlerRegistry.withDefaultHandlers.handlerFor scheme network = some handler) :
    ∃ seen, decodedAuthorizations handler req = List.replicate 3 seen := by
  have again : (fromValue (toValue req.payload.payload) : Option ExactNockchainPayload) =
      fromValue req.payload.payload := rfl
  refine ⟨(fromValue req.payload.payload).map ExactNockchainPayload.authorization, ?_⟩
  rw [decodedAuthorizations, (shared_methods found).1, extractNockchainAuthorization, decodePayload, again]
  cases (fromValue req.payload.payload : Option ExactNockchainPayload) <;> rfl

/-- The decision of `/verify`: what it accepts, the error of what it rejects, and
that it judges one authorization throughout. -/
theorem exact_acceptance (registry : state.schemeRegistry = .withDefaultHandlers) :
    ((verifyEnvelope state now cache req).1 = .ok () ↔ ∃ nock, Acceptable state now cache req nock) ∧
    (∀ error, (verifyEnvelope state now cache req).1 = .error error ↔
      ∃ before stage after, Stage.all = before ++ stage :: after ∧
        (∀ earlier ∈ before, earlier.check state now cache req = .ok ()) ∧
        stage.check state now cache req = .error error) ∧
    ∀ handler, state.schemeRegistry.handlerFor req.requirements.scheme req.requirements.network =
        some handler →
      ∃ seen, decodedAuthorizations handler req = List.replicate 3 seen := by
  refine ⟨accepted_iff registry, fun error => ?_, fun handler found => ?_⟩
  · rw [verifyEnvelope_eq_stages registry]
    exact Outcome.forM_error_iff
  · rw [registry] at found
    exact decodedAuthorizations_eq found

end Decision

/-! ### An accepted payment, and one with two faults -/

namespace Transparent

open Crypto.Transparent

attribute [local instance] transparent transparent_lawful plainErrors

/-- Of a wrong version and for another scheme. -/
def faulty : VerifyRequest :=
  { original with payload := { original.payload with x402Version := 1, scheme := "upto" } }

theorem original_acceptable : Acceptable facilitator 1100 ({} : RecordLog) original (payment authorization) where
  version := rfl
  scheme := rfl
  network := rfl
  shipped := ⟨.inl rfl, fakenet_nockchain⟩
  carried := fromValue_toValue _
  running := checkTimeWindow_ok_iff.mp (original_window 1100 (by decide) (by decide))
  fresh := empty_fresh _ _ _
  admissible := ⟨rfl, NockchainSigner.attested rfl (payment_signed authorization_signable none),
    original_honest.capped, rfl⟩

theorem exact_acceptance_samples : (verifyEnvelope facilitator 1100 ({} : RecordLog) original).1 = .ok () ∧
    (verifyEnvelope facilitator 1100 ({} : RecordLog) faulty).1 =
      .error (spec "invalid_version" "x402Version MUST be 2") := by
  have decided (req : VerifyRequest) :=
    @exact_acceptance Unit RecordLog _ _ _ facilitator 1100 ({} : RecordLog) req rfl
  constructor
  · exact (decided original).1.mpr ⟨_, original_acceptable⟩
  · have wrong : ¬ faulty.payload.x402Version = 2 := by decide
    refine ((decided faulty).2.1 _).mpr ⟨[], .version, _, rfl, nofun, ?_⟩
    rw [Stage.check, ensure, if_neg wrong]

end Transparent

end X402Nockchain.Facilitator
