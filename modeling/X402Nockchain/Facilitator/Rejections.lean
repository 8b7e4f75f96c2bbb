import X402Nockchain.Facilitator.Honest

/-! What a rejected `/verify` leaves in the replay cache. The nonce check stands
before the handler, so a payment that the handler rejects has used its nonce up. -/

namespace X402Nockchain.Facilitator

open Foundation X402Types Crypto
open LawfulReplayCache (recordedAt)

section Traces

variable [Vesl] {Chain Cache : Type} [LawfulReplayCache Cache] {state : AppState Chain}
  {cache cache' : Cache}

/-- A request that was rejected by the handler, after its fresh nonce was recorded. -/
structure RefusedByHandler (state : AppState Chain) (now : UInt64) (cache : Cache)
    (req : VerifyRequest) (error : VerifyError) (after : Cache) : Prop where
  refused : ∃ handler auth, screen state now req = .ok (handler, auth) ∧
    ¬ Consumed state now cache auth ∧
    handler.verify req.payload req.requirements = .error error ∧ Records auth now cache after

/-- A rejection leaves the cache as it was, or comes from the handler and records
exactly the nonce of its own request. -/
theorem rejected_cases (rejected : (verifyEnvelope state now cache req).1 = .error error) :
    (verifyEnvelope state now cache req).2 = cache ∨
      RefusedByHandler state now cache req error (verifyEnvelope state now cache req).2 := by
  rcases verifyEnvelope_cases state now cache req with
    ⟨_, _, same⟩ | ⟨handler, auth, _, _, same⟩ | ⟨handler, auth, after, passed, fresh, records, same⟩
  · exact .inl (by rw [same])
  · exact .inl (by rw [same])
  · rw [same] at rejected ⊢
    exact .inr ⟨handler, auth, passed, fresh, rejected, records⟩

/-- A rejection before the nonce check leaves the cache as it was. -/
theorem declined_unchanged (declined : screen state now req = .error error) :
    verifyEnvelope state now cache req = (.error error, cache) := by
  rcases verifyEnvelope_cases state now cache req with
    ⟨error', failed, same⟩ | ⟨handler, auth, passed, _⟩ | ⟨handler, auth, after, passed, _⟩
  · cases declined.symm.trans failed
    exact same
  · cases declined.symm.trans passed
  · cases declined.symm.trans passed

/-- Only the key of the request's own nonce can change. -/
theorem recordedAt_frame (other : ∀ auth, Shows state req auth → replayKey auth ≠ key) :
    recordedAt (verifyEnvelope state now cache req).2 key = recordedAt cache key := by
  rcases verifyEnvelope_cases state now cache req with
    ⟨_, _, same⟩ | ⟨handler, auth, _, _, same⟩ | ⟨handler, auth, after, passed, _, records, same⟩
  · rw [same]
  · rw [same]
  · have apart := other auth ⟨handler, (screen_ok_iff.mp passed).1⟩
    rw [same, records, if_neg (Ne.symm apart)]

/-- An answer depends on the cache only through the record of the request's own nonce. -/
theorem verifyEnvelope_congr (same : ∀ auth, Shows state req auth →
      recordedAt cache (replayKey auth) = recordedAt cache' (replayKey auth)) :
    (verifyEnvelope state now cache req).1 = (verifyEnvelope state now cache' req).1 := by
  cases screened : screen state now req with
  | error error => rw [declined_unchanged screened, declined_unchanged screened]
  | ok found =>
    obtain ⟨handler, auth⟩ := found
    have alike : Consumed state now cache auth ↔ Consumed state now cache' auth := by
      rw [Consumed, Consumed, same auth ⟨handler, (screen_ok_iff.mp screened).1⟩]
    simp only [verifyEnvelope, verifyEnvelopeInner, screened]
    rcases checkReplay_cases state now cache auth with ⟨known, hit⟩ | ⟨fresh, after, missed, _⟩ <;>
      rcases checkReplay_cases state now cache' auth with
        ⟨known', hit'⟩ | ⟨fresh', after', missed', _⟩
    · simp [hit, hit']
    · exact absurd (alike.mp known) fresh'
    · exact absurd (alike.mpr known') fresh
    · simp [missed, missed']

open Classical in
/-- The record of a screened request's own nonce. -/
theorem recordedAt_own (screened : screen state now req = .ok (handler, auth)) :
    recordedAt (verifyEnvelope state now cache req).2 (replayKey auth) =
      if Consumed state now cache auth then recordedAt cache (replayKey auth) else some now := by
  by_cases consumed : Consumed state now cache auth
  · rw [if_pos consumed, replayed_unchanged screened consumed]
  · rw [if_neg consumed, (handled_records screened consumed).2, if_pos rfl]

/-- Caches with the same record of a key keep it the same through a request. -/
theorem recordedAt_congr (same : recordedAt cache key = recordedAt cache' key) :
    recordedAt (verifyEnvelope state now cache req).2 key =
      recordedAt (verifyEnvelope state now cache' req).2 key := by
  cases screened : screen state now req with
  | error error =>
    rw [declined_unchanged screened, declined_unchanged screened]
    exact same
  | ok found =>
    obtain ⟨handler, auth⟩ := found
    by_cases own : replayKey auth = key
    · rw [← own] at same ⊢
      rw [recordedAt_own screened, recordedAt_own screened, Consumed, Consumed, same]
    · have foreign : ∀ auth', Shows state req auth' → replayKey auth' ≠ key := by
        intro auth' shows'
        rwa [shows'.unique ⟨handler, (screen_ok_iff.mp screened).1⟩]
      rw [recordedAt_frame foreign, recordedAt_frame foreign, same]

/-- None of these requests shows the nonce that `req` shows. -/
def OtherNonces (state : AppState Chain) (earlier : List (UInt64 × VerifyRequest))
    (req : VerifyRequest) : Prop :=
  ∀ before ∈ earlier, ∀ auth auth', Shows state before.2 auth → Shows state req auth' →
    auth.nonce ≠ auth'.nonce

theorem recordedAt_verifyAll [LawfulVesl] (shows' : Shows state req auth)
    (other : OtherNonces state earlier req) : recordedAt (verifyAll state cache earlier).2
      (replayKey auth) = recordedAt cache (replayKey auth) := by
  induction earlier generalizing cache with
  | nil => rfl
  | cons head rest ih =>
    obtain ⟨now, before⟩ := head
    have later : OtherNonces state rest req := fun before member =>
      other before (List.mem_cons_of_mem _ member)
    rw [verifyAll, ih later]
    apply recordedAt_frame
    intro auth' showsBefore same
    exact other (now, before) List.mem_cons_self auth' auth showsBefore shows' (replayKey_inj.mp same)

/-- What a rejection leaves in the cache: nothing, where a check before the nonce check
declined the request or the nonce is replayed; exactly the request's own nonce, where the
handler rejected it. Requests with other nonces never change a later answer. -/
theorem rejections_are_private [LawfulVesl] (state : AppState Chain) (cache : Cache) :
    (∀ now req error, (verifyEnvelope state now cache req).1 = .error error →
      (verifyEnvelope state now cache req).2 = cache ∨
        RefusedByHandler state now cache req error (verifyEnvelope state now cache req).2) ∧
    (∀ now req error, screen state now req = .error error →
      verifyEnvelope state now cache req = (.error error, cache)) ∧
    (∀ now req handler auth, screen state now req = .ok (handler, auth) → Consumed state now cache auth →
      verifyEnvelope state now cache req = (.error (.nonceReplayed auth.nonce), cache)) ∧
    (∀ now req handler auth error, screen state now req = .ok (handler, auth) →
      ¬ Consumed state now cache auth → handler.verify req.payload req.requirements = .error error →
      (verifyEnvelope state now cache req).1 = .error error ∧
        Records auth now cache (verifyEnvelope state now cache req).2) ∧
    (∀ earlier later req, OtherNonces state earlier req →
      (verifyEnvelope state later (verifyAll state cache earlier).2 req).1 =
        (verifyEnvelope state later cache req).1) := by
  refine ⟨fun _ _ _ rejected => rejected_cases rejected, fun _ _ _ declined => declined_unchanged declined,
    fun _ _ _ _ passed consumed => replayed_unchanged passed consumed, ?_,
    fun _ _ _ other => verifyEnvelope_congr fun _ shows' => recordedAt_verifyAll shows' other⟩
  intro now req handler auth error passed fresh refused
  obtain ⟨answer, records⟩ := handled_records passed fresh
  exact ⟨answer.trans refused, records⟩

end Traces

/-! ### A nonce burnt by a stranger -/

namespace Transparent

open Crypto.Transparent

attribute [local instance] transparent transparent_lawful plainErrors

/-- A payment of `payer` offered for another payee. -/
def misdirected (auth : Authorization) : VerifyRequest :=
  { request (payment auth) with requirements := { requirements with payTo := "5" } }

theorem misdirected_dispatched (auth : Authorization) :
    preDispatch facilitator (misdirected auth) = .ok (exactNockchainHandler, auth) := by
  refine preDispatch_ok_iff.mpr ⟨rfl, rfl, rfl,
    handlerFor_exact fakenet_nockchain, ?_⟩
  exact extractNockchainAuthorization_ok_iff.mpr ⟨payment auth, Serde.fromValue_toValue _, rfl⟩

theorem misdirected_refused (elsewhere : auth.to ≠ "5") :
    verifyNockchain (misdirected auth).payload (misdirected auth).requirements =
      .error (spec "invalid_recipient" "authorization.to does not match requirements.payTo") := by
  have carried : Serde.fromValue (misdirected auth).payload.payload = some (payment auth) :=
    Serde.fromValue_toValue _
  have other : ¬ (payment auth).authorization.to = (misdirected auth).requirements.payTo := elsewhere
  simp [verifyNockchain, decodePayload, okOr, carried, ensure, other, bind, Except.bind]

/-- The payment of a stranger, under a nonce of its own. -/
def strangers : Authorization := { authorization with nonce := "6" }

/-- A stranger's misdirected payment burns the stranger's nonce, and does no other harm. -/
theorem rejections_are_private_here :
    let after := (verifyEnvelope facilitator 1100 ({} : RecordLog) (misdirected strangers)).2
    Records strangers 1100 ({} : RecordLog) after ∧
      verifyEnvelope facilitator 1101 after (misdirected strangers) = (.error (.nonceReplayed "6"), after) ∧
      (verifyEnvelope facilitator 1101 (verifyAll facilitator ({} : RecordLog)
        [(1100, misdirected strangers)]).2 original).1 = .ok () := by
  intro after
  obtain ⟨_, _, _, refuses, unharmed⟩ := rejections_are_private facilitator ({} : RecordLog)
  obtain ⟨_, _, replays, _⟩ := rejections_are_private facilitator after
  have opened (now : UInt64) (early : 940 ≤ now.toNat) (late : now.toNat ≤ 1360) :
      screen facilitator now (misdirected strangers) = .ok (exactNockchainHandler, strangers) :=
    screen_ok_iff.mpr ⟨misdirected_dispatched _, in_window rfl rfl rfl now early late⟩
  obtain ⟨_, records⟩ := refuses 1100 _ _ _ _ (opened 1100 (by decide) (by decide))
    (empty_fresh _ _ _) (misdirected_refused (by decide))
  refine ⟨records, ?_, ?_⟩
  · apply replays 1101 _ _ _ (opened 1101 (by decide) (by decide))
    exact remembered_iff.mpr ⟨1100, by rw [records, if_pos rfl], by decide⟩
  · rw [unharmed _ 1101 original ?_]
    · exact (original_honest.accepted_iff rfl).mpr
        ⟨in_window rfl rfl rfl 1101 (by decide) (by decide), empty_fresh _ _ _⟩
    · intro before member auth auth' shows' shows'' same
      rw [List.mem_singleton.mp member] at shows'
      rw [shows'.unique ⟨_, misdirected_dispatched _⟩,
        shows''.unique ⟨_, original_honest.dispatched rfl⟩] at same
      exact absurd same (by decide)

theorem misdirected_rejected :
    (verifyEnvelope facilitator 1100 ({} : RecordLog) (misdirected authorization)).1 =
      .error (spec "invalid_recipient" "authorization.to does not match requirements.payTo") ∧
    Records authorization 1100 ({} : RecordLog)
      (verifyEnvelope facilitator 1100 ({} : RecordLog) (misdirected authorization)).2 := by
  have screened : screen facilitator 1100 (misdirected authorization) =
      .ok (exactNockchainHandler, authorization) :=
    screen_ok_iff.mpr ⟨misdirected_dispatched _, in_window rfl rfl rfl 1100 (by decide) (by decide)⟩
  obtain ⟨answer, records⟩ := handled_records screened (empty_fresh facilitator 1100 authorization)
  exact ⟨answer.trans (misdirected_refused (by decide)), records⟩

/-- A payment presented with the wrong payee is rejected, and with it the same
payment presented correctly afterwards. -/
theorem rejection_burns_nonce : ¬ ∀ now req error,
    (verifyEnvelope facilitator now ({} : RecordLog) req).1 = .error error →
    (∀ key, recordedAt (verifyEnvelope facilitator now ({} : RecordLog) req).2 key =
      recordedAt ({} : RecordLog) key) ∧
    ∀ later req', (verifyEnvelope facilitator later
        (verifyEnvelope facilitator now ({} : RecordLog) req).2 req').1 =
      (verifyEnvelope facilitator later ({} : RecordLog) req').1 := by
  intro claim
  obtain ⟨rejected, records⟩ := misdirected_rejected
  obtain ⟨_, unharmed⟩ := claim 1100 (misdirected authorization) _ rejected
  have replayed : verifyEnvelope facilitator 1101
      (verifyEnvelope facilitator 1100 ({} : RecordLog) (misdirected authorization)).2 original =
      (.error (.nonceReplayed "3"), _) := original_honest.replayed rfl
    (in_window rfl rfl rfl 1101 (by decide) (by decide))
    (remembered_iff.mpr ⟨1100, by rw [records]; exact if_pos rfl, by decide⟩)
  have accepted : (verifyEnvelope facilitator 1101 ({} : RecordLog) original).1 = .ok () :=
    (original_honest.accepted_iff rfl).mpr
      ⟨in_window rfl rfl rfl 1101 (by decide) (by decide), empty_fresh _ _ _⟩
  have same := unharmed 1101 original
  rw [replayed, accepted] at same
  cases same

end Transparent

end X402Nockchain.Facilitator
