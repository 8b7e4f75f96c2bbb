import X402Nockchain.Facilitator.Endpoints
import X402Nockchain.Facilitator.Rejections
import X402Nockchain.Foundation.Machine

/-! `/verify` after `/settle`. The replay cache is to keep a settled authorization
from being verified, and `/settle` does not write to it. -/

namespace X402Nockchain.Facilitator

open Foundation Foundation.Serde X402Types Crypto Storage Wallet
open LawfulReplayCache (recordedAt)

/-- A service and what it answered, in order. -/
structure Session (Chain Cache Store : Type) where
  service : Service Chain Cache Store
  log : List (Arrival × Answer) := []

section Log

variable {Chain : Type}

/-- `/settle` answered success for the authorization. -/
def SettledAs (state : AppState Chain) (entry : Arrival × Answer) (auth : Authorization) : Prop :=
  Shows state entry.1.req auth ∧ ∃ body, entry.2.settlement = some body ∧ body.success = true

/-- `/verify` answered that the authorization is valid. -/
def VerifiedAs (state : AppState Chain) (entry : Arrival × Answer) (auth : Authorization) : Prop :=
  Shows state entry.1.req auth ∧ ∃ body, entry.2.verdict = some body ∧ body.valid = true

/-- At most the replay TTL after `earlier`. -/
def WithinTtlOf (state : AppState Chain) (earlier : Arrival) (now : UInt64) : Prop :=
  now.toNat ≤ earlier.now.toNat + state.replayTtl.asSecs.toNat

/-- No authorization is verified within the replay TTL of its settlement. -/
def NeverVerifiedAgain (state : AppState Chain) (log : List (Arrival × Answer)) : Prop :=
  log.Pairwise fun earlier later => ∀ auth, SettledAs state earlier auth → VerifiedAs state later auth →
    ¬ WithinTtlOf state earlier.1 later.1.now

end Log

section Sessions

variable {Chain Cache Store : Type} [Vesl] [ErrorText] [JsonSchema] [JsonText] [Base64]
  [LawfulReplayCache Cache] [CatalogStore Store] {state : AppState Chain}
  {session next final : Session Chain Cache Store} {arrival : Arrival}

/-- Any request may come at any time. -/
def sessionStep (state : AppState Chain) : Machine (Session Chain Cache Store) Arrival :=
  fun session arrival =>
    let served := serve state session.service arrival
    some { service := served.2, log := session.log ++ [(arrival, served.1)] }

/-- A `/verify` of an authorization settled within the TTL, that every other check
lets through, finds its nonce in the replay cache. -/
def Remembers (state : AppState Chain) (session : Session Chain Cache Store) (arrival : Arrival) : Prop :=
  arrival.endpoint = .verify → ∀ handler auth,
    screen state arrival.now arrival.req = .ok (handler, auth) →
    handler.verify arrival.req.payload arrival.req.requirements = .ok () →
    (∃ entry ∈ session.log, SettledAs state entry auth ∧ WithinTtlOf state entry.1 arrival.now) →
    Consumed state arrival.now session.service.cache auth

theorem settledAs_iff {service : Service Chain Cache Store} :
    SettledAs state (arrival, (serve state service arrival).1) auth ↔
      arrival.endpoint = .settle ∧ Shows state arrival.req auth ∧
        (settleBody state arrival.now service.cache service.chain arrival.req).1.success = true := by
  cases endpoint : arrival.endpoint with
  | verify => simp [SettledAs, serve_settlement_verify endpoint]
  | settle => simp [SettledAs, serve_settlement endpoint]

theorem verifiedAs_iff {service : Service Chain Cache Store} :
    VerifiedAs state (arrival, (serve state service arrival).1) auth ↔
      arrival.endpoint = .verify ∧ Shows state arrival.req auth ∧
        (verifyEnvelope state arrival.now service.cache arrival.req).1 = .ok () := by
  cases endpoint : arrival.endpoint with
  | verify => simp [VerifiedAs, serve_verdict endpoint, verifyResponse_valid]
  | settle => simp [VerifiedAs, serve_verdict_settle endpoint]

omit [ErrorText] [JsonSchema] [JsonText] [Base64] in
/-- An authorization is accepted if every other check lets it through and its nonce is fresh. -/
theorem shows_and_accepted_iff {cache : Cache} :
    Shows state req auth ∧ (verifyEnvelope state now cache req).1 = .ok () ↔
      ∃ handler, screen state now req = .ok (handler, auth) ∧ ¬ Consumed state now cache auth ∧
        handler.verify req.payload req.requirements = .ok () := by
  rw [verifyEnvelope_ok_iff]
  constructor
  · rintro ⟨shows', handler, auth', screened, fresh, verified⟩
    obtain rfl := shows'.unique ⟨handler, (screen_ok_iff.mp screened).1⟩
    exact ⟨handler, screened, fresh, verified⟩
  · rintro ⟨handler, screened, fresh, verified⟩
    exact ⟨⟨handler, (screen_ok_iff.mp screened).1⟩, handler, auth, screened, fresh, verified⟩

/-- The log grows by an answer that keeps the law exactly if the cache remembers. -/
theorem neverVerifiedAgain_step (single : NeverVerifiedAgain state session.log)
    (taken : sessionStep state session arrival = some next) :
    NeverVerifiedAgain state next.log ↔ Remembers state session arrival := by
  obtain rfl := Option.some.inj taken
  simp only [NeverVerifiedAgain] at single
  simp only [NeverVerifiedAgain, List.pairwise_append, List.pairwise_singleton, List.forall_mem_singleton,
    single, true_and, verifiedAs_iff, shows_and_accepted_iff]
  constructor
  · intro law verifies handler auth screened verified
    rintro ⟨entry, logged, settled, recent⟩
    by_contra fresh
    exact law entry logged auth settled ⟨verifies, handler, screened, fresh, verified⟩ recent
  · rintro remembers entry logged auth settled ⟨verifies, handler, screened, fresh, verified⟩ recent
    exact fresh (remembers verifies handler auth screened verified ⟨entry, logged, settled, recent⟩)

/-- Answers are never taken back. -/
theorem neverVerifiedAgain_lost (taken : sessionStep state session arrival = some next)
    (single : NeverVerifiedAgain state next.log) : NeverVerifiedAgain state session.log := by
  obtain rfl := Option.some.inj taken
  exact (List.pairwise_append.mp single).1

/-- In exactly the runs whose every `/verify` of a settled authorization finds its
nonce remembered, no authorization is verified within the TTL of its settlement. -/
theorem never_verified_again_iff (fresh : session.log = [])
    (reached : Machine.run (sessionStep state) session arrivals = some final) :
    NeverVerifiedAgain state final.log ↔
      Machine.Within (sessionStep state) (Remembers state) session arrivals := by
  refine Machine.holds_iff_within (fun _ => True) (fun _ _ => trivial)
    (fun _ single taken => neverVerifiedAgain_step single taken) neverVerifiedAgain_lost trivial ?_ reached
  rw [fresh]
  exact List.Pairwise.nil

/-! ### The condition in requests and times -/

open Classical in
/-- The time noted for a key once `entry` is served: its own, if it is a `/verify` that
comes to the nonce check with that key and the time noted before is over the TTL old. -/
noncomputable def noted (state : AppState Chain) (key : List UInt8) (before : Option UInt64)
    (entry : Arrival × Answer) : Option UInt64 :=
  if entry.1.endpoint = .verify ∧ (∃ handler auth,
      screen state entry.1.now entry.1.req = .ok (handler, auth) ∧ replayKey auth = key) ∧
    ¬ Remembered before entry.1.now state.replayTtl then some entry.1.now else before

/-- A `/verify` of an authorization settled within the TTL, that every other check lets
through, comes at most the TTL after an earlier `/verify` that noted its nonce. -/
def VerifiedLately (state : AppState Chain) (session : Session Chain Cache Store) (arrival : Arrival) : Prop :=
  arrival.endpoint = .verify → ∀ handler auth,
    screen state arrival.now arrival.req = .ok (handler, auth) →
    handler.verify arrival.req.payload arrival.req.requirements = .ok () →
    (∃ entry ∈ session.log, SettledAs state entry auth ∧ WithinTtlOf state entry.1 arrival.now) →
    ∃ time, session.log.foldl (noted state (replayKey auth)) none = some time ∧
      arrival.now.toNat ≤ time.toNat + state.replayTtl.asSecs.toNat

/-- The cache holds the times that the log tells. -/
def Noted (state : AppState Chain) (session : Session Chain Cache Store) : Prop :=
  ∀ key, recordedAt session.service.cache key = session.log.foldl (noted state key) none

theorem serve_noted {service : Service Chain Cache Store} :
    recordedAt (serve state service arrival).2.cache key =
      noted state key (recordedAt service.cache key) (arrival, answer) := by
  cases endpoint : arrival.endpoint with
  | settle => simp [noted, endpoint, serve_settle_cache endpoint]
  | verify =>
    rw [serve_verify_cache (verification_eq_some.mpr ⟨endpoint, rfl, rfl⟩)]
    by_cases shown : ∃ handler auth,
        screen state arrival.now arrival.req = .ok (handler, auth) ∧ replayKey auth = key
    · obtain ⟨handler, auth, screened, rfl⟩ := shown
      rw [recordedAt_own screened, noted]
      by_cases consumed : Consumed state arrival.now service.cache auth
      · rw [if_pos consumed, if_neg fun timed => timed.2.2 consumed]
      · rw [if_neg consumed, if_pos ⟨endpoint, ⟨handler, auth, screened, rfl⟩, consumed⟩]
    · rw [noted, if_neg fun timed => shown timed.2.1]
      rcases verifyEnvelope_cases state arrival.now service.cache arrival.req with
        ⟨_, _, same⟩ | ⟨_, _, _, _, same⟩ | ⟨handler, auth, _, screened, _, records, same⟩
      · rw [same]
      · rw [same]
      · rw [same, records, if_neg fun own => shown ⟨handler, auth, screened, own.symm⟩]

theorem noted_step (told : Noted state session) (taken : sessionStep state session arrival = some next) :
    Noted state next := by
  obtain rfl := Option.some.inj taken
  intro key
  rw [List.foldl_append, ← told key]
  exact serve_noted

omit [ErrorText] [JsonSchema] [JsonText] [Base64] [CatalogStore Store] in
theorem remembers_iff (told : Noted state session) :
    Remembers state session arrival ↔ VerifiedLately state session arrival := by
  simp only [Remembers, VerifiedLately, Consumed, told _, remembered_iff]

/-- From an empty cache, no authorization is verified within the TTL of its settlement in
exactly the runs where each such `/verify` comes lately after one that noted the nonce. -/
theorem never_verified_again_iff_lately (fresh : session.log = [])
    (empty : ∀ key, recordedAt session.service.cache key = none)
    (reached : Machine.run (sessionStep state) session arrivals = some final) :
    NeverVerifiedAgain state final.log ↔
      Machine.Within (sessionStep state) (VerifiedLately state) session arrivals := by
  refine Machine.holds_iff_within (Noted state) noted_step
    (fun told single taken => (neverVerifiedAgain_step single taken).trans (remembers_iff told))
    neverVerifiedAgain_lost ?_ ?_ reached
  · intro key
    rw [empty, fresh, List.foldl_nil]
  · rw [fresh]
    exact List.Pairwise.nil

end Sessions

/-! ### Settled before it is verified -/

namespace Transparent

open Crypto.Transparent Wallet.Transparent

attribute [local instance] transparent transparent_lawful plainErrors plainSchemas plainText spelledBase64

def blank : Session Unit RecordLog InMemoryCatalogStore := { service := opened }

theorem original_shows : Shows facilitator original authorization :=
  ⟨_, original_honest.dispatched rfl⟩

theorem original_settled : SettledAs facilitator
    (⟨.settle, 1100, "", original⟩, (serve facilitator opened ⟨.settle, 1100, "", original⟩).1) authorization := by
  have window := original_window 1100 (by decide) (by decide)
  refine settledAs_iff.mpr ⟨rfl, original_shows, ?_⟩
  rw [settleBody_verified rfl (original_honest.settles rfl window)]
  rfl

/-- Verified, settled, and refused when it comes again: the cache remembers it. -/
theorem never_verified_again_in_order : ∃ final, Machine.run (sessionStep facilitator) blank
      [⟨.verify, 1100, "", original⟩, ⟨.settle, 1101, "", original⟩, ⟨.verify, 1102, "", original⟩] =
        some final ∧
    NeverVerifiedAgain facilitator final.log := by
  obtain ⟨final, reached⟩ : ∃ final, Machine.run (sessionStep facilitator) blank
      [⟨.verify, 1100, "", original⟩, ⟨.settle, 1101, "", original⟩, ⟨.verify, 1102, "", original⟩] =
        some final := ⟨_, rfl⟩
  refine ⟨final, reached, (never_verified_again_iff rfl reached).mpr ⟨?_, fun verified taken => ⟨nofun,
    fun settled taken' => ⟨?_, fun _ _ => trivial⟩⟩⟩⟩
  · rintro _ handler auth _ _ ⟨entry, logged, _⟩
    cases logged
  · obtain rfl := Option.some.inj taken
    obtain rfl := Option.some.inj taken'
    intro _ handler auth screened _ _
    have shows' : Shows facilitator original auth := ⟨handler, (screen_ok_iff.mp screened).1⟩
    rw [shows'.unique original_shows]
    refine remembered_iff.mpr ⟨1100, ?_, by decide⟩
    rw [serve_settle_cache rfl, serve_verify_cache (verification_eq_some.mpr ⟨rfl, rfl, rfl⟩)]
    exact (original_recorded _).trans (if_pos rfl)

/-- Settled first, the authorization is verified a second later. -/
theorem settled_is_verified : ¬ ∀ (arrivals : List Arrival) final,
    Machine.run (sessionStep facilitator) blank arrivals = some final →
    NeverVerifiedAgain facilitator final.log := by
  intro claim
  have law := claim [⟨.settle, 1100, "", original⟩, ⟨.verify, 1101, "", original⟩] _ rfl
  have verified : VerifiedAs facilitator (⟨.verify, 1101, "", original⟩,
      (serve facilitator (serve facilitator opened ⟨.settle, 1100, "", original⟩).2
        ⟨.verify, 1101, "", original⟩).1) authorization := by
    refine verifiedAs_iff.mpr ⟨rfl, original_shows, ?_⟩
    rw [serve_settle_cache rfl]
    exact (original_honest.accepted_iff rfl).mpr
      ⟨original_window 1101 (by decide) (by decide), empty_fresh _ _ _⟩
  have recent : (1101 : UInt64).toNat ≤ (1100 : UInt64).toNat + facilitator.replayTtl.asSecs.toNat := by
    decide
  have late := (List.pairwise_cons.mp law).1 _ (List.mem_singleton_self _) authorization
    original_settled verified
  exact late recent

end Transparent

end X402Nockchain.Facilitator
