import X402Nockchain.Facilitator.State

/-! `verify_envelope`: the checks of `/verify` and `/settle` in their order. -/

namespace X402Nockchain.Facilitator

open Foundation Foundation.Serde X402Types Crypto

variable {Chain Cache : Type}

inductive ReplayMode where
  | consume
  | skip
  deriving DecidableEq

/-- The checks before the clock is read: envelope, handler lookup and payload decode. -/
def preDispatch (state : AppState Chain) (req : VerifyRequest) :
    Except VerifyError (SchemeHandler Chain × Authorization) := do
  ensure (req.payload.x402Version = 2) (spec "invalid_version" "x402Version MUST be 2")
  ensure (req.payload.scheme = req.requirements.scheme)
    (spec "invalid_scheme" "payload.scheme does not match requirements.scheme")
  ensure (req.payload.network = req.requirements.network)
    (spec "invalid_network" "payload.network does not match requirements.network")
  let handler ← okOr (.unknownScheme req.requirements.scheme req.requirements.network)
    (state.schemeRegistry.handlerFor req.requirements.scheme req.requirements.network)
  let authorization ← handler.extractAuthorization req.payload
  return (handler, authorization)

def checkTimeWindow (state : AppState Chain) (now : UInt64) (auth : Authorization) :
    Except VerifyError Unit := do
  let skew := state.clockSkewTolerance.asSecs
  let upperEdge := saturatingAdd now skew
  let lowerEdge := saturatingSub now skew
  ensure (¬ upperEdge < auth.validAfter)
    (.outsideTimeWindow now auth.validAfter auth.validBefore)
  ensure (¬ auth.validBefore < lowerEdge)
    (.outsideTimeWindow now auth.validAfter auth.validBefore)

/-- The key is made of the nonce as it is spelled. -/
def replayKey [Vesl] (auth : Authorization) : List UInt8 :=
  Vesl.prefixedReplayKey ReplayDomains.authorization (asBytes auth.nonce)

def checkReplay [Vesl] [ReplayCache Cache] (state : AppState Chain) (now : UInt64) (cache : Cache)
    (auth : Authorization) : Except VerifyError Unit × Cache :=
  let (seen, cache) := ReplayCache.seen cache now (replayKey auth) state.replayTtl
  (ensure (¬ seen) (.nonceReplayed auth.nonce), cache)

/-- Everything before the nonce check. -/
def screen (state : AppState Chain) (now : UInt64) (req : VerifyRequest) :
    Except VerifyError (SchemeHandler Chain × Authorization) := do
  let (handler, authorization) ← preDispatch state req
  checkTimeWindow state now authorization
  return (handler, authorization)

/-- `verify_envelope_inner` while the clock shows `now`. -/
def verifyEnvelopeInner [Vesl] [ReplayCache Cache] (state : AppState Chain) (now : UInt64)
    (cache : Cache) (req : VerifyRequest) (replayMode : ReplayMode) :
    Except VerifyError Unit × Cache :=
  match screen state now req with
  | .error error => (.error error, cache)
  | .ok (handler, authorization) =>
    let (fresh, cache) := match replayMode with
      | .consume => checkReplay state now cache authorization
      | .skip => (.ok (), cache)
    match fresh with
    | .error error => (.error error, cache)
    | .ok () => (handler.verify req.payload req.requirements, cache)

def verifyEnvelope [Vesl] [ReplayCache Cache] (state : AppState Chain) (now : UInt64)
    (cache : Cache) (req : VerifyRequest) : Except VerifyError Unit × Cache :=
  verifyEnvelopeInner state now cache req .consume

def verifyEnvelopeForSettle [Vesl] [ReplayCache Cache] (state : AppState Chain) (now : UInt64)
    (cache : Cache) (req : VerifyRequest) : Except VerifyError Unit × Cache :=
  verifyEnvelopeInner state now cache req .skip

/-- Requests verified one after another, each at its own clock reading. -/
def verifyAll [Vesl] [ReplayCache Cache] (state : AppState Chain) (cache : Cache) :
    List (UInt64 × VerifyRequest) → List (Except VerifyError Unit) × Cache
  | [] => ([], cache)
  | (now, req) :: rest =>
    let (outcome, cache) := verifyEnvelope state now cache req
    let (outcomes, cache) := verifyAll state cache rest
    (outcome :: outcomes, cache)

/-- The body that `POST /verify` answers with. -/
def verifyResponse (outcome : Except VerifyError Unit) : VerifyResponse :=
  match outcome with
  | .ok () => { valid := true }
  | .error error => { valid := false, error := some error.toFacilitatorError }

theorem verifyResponse_valid {outcome : Except VerifyError Unit} :
    (verifyResponse outcome).valid = true ↔ outcome = .ok () := by
  cases outcome <;> simp [verifyResponse]

section Screening

variable {state : AppState Chain} {req : VerifyRequest} {now : UInt64}

theorem preDispatch_ok_iff : preDispatch state req = .ok (handler, auth) ↔
    req.payload.x402Version = 2 ∧ req.payload.scheme = req.requirements.scheme ∧
    req.payload.network = req.requirements.network ∧
    state.schemeRegistry.handlerFor req.requirements.scheme req.requirements.network = some handler ∧
    handler.extractAuthorization req.payload = .ok auth := by
  simp only [preDispatch, Outcome.bind_ok, Outcome.ensure_ok, Outcome.okOr_ok, Outcome.pure_ok,
    Prod.mk.injEq]
  constructor
  · rintro ⟨_, version, _, scheme, _, network, _, found, _, extracted, rfl, rfl⟩
    exact ⟨version, scheme, network, found, extracted⟩
  · rintro ⟨version, scheme, network, found, extracted⟩
    exact ⟨(), version, (), scheme, (), network, handler, found, auth, extracted, rfl, rfl⟩

/-- The window widened by the skew at both ends. Saturation changes nothing. -/
theorem checkTimeWindow_ok_iff {done : Unit} : checkTimeWindow state now auth = .ok done ↔
    auth.validAfter.toNat ≤ now.toNat + state.clockSkewTolerance.asSecs.toNat ∧
    now.toNat ≤ auth.validBefore.toNat + state.clockSkewTolerance.asSecs.toNat := by
  simp only [checkTimeWindow, Outcome.bind_ok, Outcome.ensure_ok, exists_const, UInt64.lt_iff_toNat_lt,
    toNat_saturatingAdd, toNat_saturatingSub, Nat.not_lt]
  have after := auth.validAfter.toNat_lt
  omega

theorem screen_ok_iff : screen state now req = .ok (handler, auth) ↔
    preDispatch state req = .ok (handler, auth) ∧ checkTimeWindow state now auth = .ok () := by
  simp only [screen, Outcome.bind_ok, Outcome.pure_ok, Prod.mk.injEq]
  constructor
  · rintro ⟨⟨_, _⟩, dispatched, _, window, rfl, rfl⟩
    exact ⟨dispatched, window⟩
  · rintro ⟨dispatched, window⟩
    exact ⟨(handler, auth), dispatched, (), window, rfl, rfl⟩

/-- A request always shows the same handler and authorization. -/
theorem screen_unique (left : screen state now req = .ok (handler, auth))
    (right : screen state later req = .ok (handler', auth')) : handler = handler' ∧ auth = auth' := by
  have same := (screen_ok_iff.mp left).1.symm.trans (screen_ok_iff.mp right).1
  simpa only [Except.ok.injEq, Prod.mk.injEq] using same

/-- The authorization that a request shows to the checks before the handler. -/
def Shows (state : AppState Chain) (req : VerifyRequest) (auth : Authorization) : Prop :=
  ∃ handler, preDispatch state req = .ok (handler, auth)

theorem Shows.unique {state : AppState Chain} (left : Shows state req auth)
    (right : Shows state req auth') : auth = auth' := by
  obtain ⟨_, left⟩ := left
  obtain ⟨_, right⟩ := right
  have same := left.symm.trans right
  simp only [Except.ok.injEq, Prod.mk.injEq] at same
  exact same.2

end Screening

section Replay

variable [Vesl] [LawfulReplayCache Cache] {state : AppState Chain} {req : VerifyRequest} {now : UInt64}
  {cache : Cache}

open LawfulReplayCache (recordedAt)

/-- The nonce of an authorization is remembered at `now`. -/
def Consumed (state : AppState Chain) (now : UInt64) (cache : Cache) (auth : Authorization) : Prop :=
  Remembered (recordedAt cache (replayKey auth)) now state.replayTtl

/-- `after` is `before` with the nonce of `auth` recorded at `now`. -/
def Records (auth : Authorization) (now : UInt64) (before after : Cache) : Prop :=
  ∀ key, recordedAt after key = if key = replayKey auth then some now else recordedAt before key

theorem checkReplay_cases (state : AppState Chain) (now : UInt64) (cache : Cache)
    (auth : Authorization) :
    (Consumed state now cache auth ∧
      checkReplay state now cache auth = (.error (.nonceReplayed auth.nonce), cache)) ∨
    (¬ Consumed state now cache auth ∧ ∃ after, checkReplay state now cache auth = (.ok (), after) ∧
      Records auth now cache after) := by
  rcases LawfulReplayCache.seen_cases cache now (replayKey auth) state.replayTtl with
    ⟨known, hit⟩ | ⟨unknown, missed, recorded⟩
  · refine .inl ⟨known, ?_⟩
    simp [checkReplay, hit, ensure]
  · refine .inr ⟨unknown, _, ?_, recorded⟩
    simp [checkReplay, missed, ensure]

/-- The three ways through `verify_envelope`. The cache changes only in the last. -/
theorem verifyEnvelope_cases (state : AppState Chain) (now : UInt64) (cache : Cache)
    (req : VerifyRequest) :
    (∃ error, screen state now req = .error error ∧
      verifyEnvelope state now cache req = (.error error, cache)) ∨
    (∃ handler auth, screen state now req = .ok (handler, auth) ∧ Consumed state now cache auth ∧
      verifyEnvelope state now cache req = (.error (.nonceReplayed auth.nonce), cache)) ∨
    (∃ handler auth after, screen state now req = .ok (handler, auth) ∧
      ¬ Consumed state now cache auth ∧ Records auth now cache after ∧
      verifyEnvelope state now cache req = (handler.verify req.payload req.requirements, after)) := by
  cases screened : screen state now req with
  | error error => exact .inl ⟨error, rfl, by simp [verifyEnvelope, verifyEnvelopeInner, screened]⟩
  | ok found =>
    obtain ⟨handler, auth⟩ := found
    rcases checkReplay_cases state now cache auth with ⟨known, hit⟩ | ⟨unknown, after, missed, records⟩
    · refine .inr (.inl ⟨handler, auth, rfl, known, ?_⟩)
      simp [verifyEnvelope, verifyEnvelopeInner, screened, hit]
    · refine .inr (.inr ⟨handler, auth, after, rfl, unknown, records, ?_⟩)
      simp [verifyEnvelope, verifyEnvelopeInner, screened, missed]

/-- A replayed nonce is the end of its request, and is not recorded again. -/
theorem replayed_unchanged (passed : screen state now req = .ok (handler, auth))
    (consumed : Consumed state now cache auth) :
    verifyEnvelope state now cache req = (.error (.nonceReplayed auth.nonce), cache) := by
  rcases verifyEnvelope_cases state now cache req with
    ⟨_, failed, _⟩ | ⟨_, _, passed', _, same⟩ | ⟨_, _, _, passed', fresh, _⟩
  · cases passed.symm.trans failed
  · obtain ⟨_, rfl⟩ := screen_unique passed passed'
    exact same
  · obtain ⟨_, rfl⟩ := screen_unique passed passed'
    exact absurd consumed fresh

/-- A fresh nonce is recorded before the handler is asked, whatever it answers. -/
theorem handled_records (passed : screen state now req = .ok (handler, auth))
    (fresh : ¬ Consumed state now cache auth) :
    (verifyEnvelope state now cache req).1 = handler.verify req.payload req.requirements ∧
      Records auth now cache (verifyEnvelope state now cache req).2 := by
  rcases verifyEnvelope_cases state now cache req with
    ⟨_, failed, _⟩ | ⟨_, _, passed', consumed, _⟩ | ⟨_, _, after, passed', _, records, same⟩
  · cases passed.symm.trans failed
  · obtain ⟨_, rfl⟩ := screen_unique passed passed'
    exact absurd consumed fresh
  · obtain ⟨rfl, rfl⟩ := screen_unique passed passed'
    rw [same]
    exact ⟨rfl, records⟩

/-- `verify_envelope` accepts exactly the requests that are screened, fresh and
verified by their handler. -/
theorem verifyEnvelope_ok_iff {done : Unit} : (verifyEnvelope state now cache req).1 = .ok done ↔
    ∃ handler auth, screen state now req = .ok (handler, auth) ∧ ¬ Consumed state now cache auth ∧
      handler.verify req.payload req.requirements = .ok () := by
  constructor
  · intro accepted
    rcases verifyEnvelope_cases state now cache req with
      ⟨error, _, same⟩ | ⟨handler, auth, _, _, same⟩ | ⟨handler, auth, after, screened, fresh, _, same⟩
    · simp [same] at accepted
    · simp [same] at accepted
    · exact ⟨handler, auth, screened, fresh, by simpa [same] using accepted⟩
  · rintro ⟨handler, auth, screened, fresh, verified⟩
    rcases verifyEnvelope_cases state now cache req with
      ⟨error, failed, _⟩ | ⟨handler', auth', screened', consumed, _⟩ |
      ⟨handler', auth', after, screened', _, _, same⟩
    · simp [screened] at failed
    · obtain ⟨rfl, rfl⟩ := screen_unique screened screened'
      exact absurd consumed fresh
    · obtain ⟨rfl, rfl⟩ := screen_unique screened screened'
      simp [same, verified]

/-- A request that was accepted is a replay when it comes again at once. -/
theorem verifyEnvelope_again (accepted : (verifyEnvelope state now cache req).1 = .ok ()) :
    ∃ nonce, (verifyEnvelope state now (verifyEnvelope state now cache req).2 req).1 =
      .error (.nonceReplayed nonce) := by
  obtain ⟨handler, auth, screened, fresh, _⟩ := verifyEnvelope_ok_iff.mp accepted
  have records := (handled_records screened fresh).2
  have consumed : Consumed state now (verifyEnvelope state now cache req).2 auth := by
    rw [Consumed, remembered_iff]
    exact ⟨now, by rw [records, if_pos rfl], Nat.le_add_right _ _⟩
  exact ⟨auth.nonce, by rw [replayed_unchanged screened consumed]⟩

end Replay

/-- `/settle` screens and verifies a request and never looks at the cache. -/
theorem verifyEnvelopeForSettle_eq [Vesl] [ReplayCache Cache] (state : AppState Chain) (now : UInt64)
    (cache : Cache) (req : VerifyRequest) : verifyEnvelopeForSettle state now cache req =
      (do let (handler, _) ← screen state now req
          handler.verify req.payload req.requirements, cache) := by
  cases screened : screen state now req <;>
    simp [verifyEnvelopeForSettle, verifyEnvelopeInner, screened, bind, Except.bind]

/-- `/settle` accepts exactly the requests that are screened and verified by their
handler. -/
theorem verifyEnvelopeForSettle_ok_iff [Vesl] [ReplayCache Cache] {state : AppState Chain} {cache : Cache}
    {done : Unit} : (verifyEnvelopeForSettle state now cache req).1 = .ok done ↔
      ∃ handler auth, screen state now req = .ok (handler, auth) ∧
        handler.verify req.payload req.requirements = .ok () := by
  simp only [verifyEnvelopeForSettle_eq, Outcome.bind_ok, Prod.exists]

theorem verifyEnvelopeForSettle_cache [Vesl] [ReplayCache Cache] (state : AppState Chain) (now : UInt64)
    (cache : Cache) (req : VerifyRequest) : (verifyEnvelopeForSettle state now cache req).2 = cache := by
  rw [verifyEnvelopeForSettle_eq]

/-- Whatever the cache does, an accepted request was screened and verified by its handler. -/
theorem verifyEnvelope_passed [Vesl] [ReplayCache Cache] {state : AppState Chain} {cache : Cache}
    (accepted : (verifyEnvelope state now cache req).1 = .ok ()) :
    ∃ handler auth, screen state now req = .ok (handler, auth) ∧
      handler.verify req.payload req.requirements = .ok () := by
  cases screened : screen state now req with
  | error error => simp [verifyEnvelope, verifyEnvelopeInner, screened] at accepted
  | ok found =>
    obtain ⟨handler, auth⟩ := found
    simp only [verifyEnvelope, verifyEnvelopeInner, screened] at accepted
    refine ⟨handler, auth, rfl, ?_⟩
    cases fresh : (checkReplay state now cache auth).1 with
    | error error => simp [fresh] at accepted
    | ok done => simpa [fresh] using accepted

end X402Nockchain.Facilitator
