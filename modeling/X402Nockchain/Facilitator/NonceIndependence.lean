import X402Nockchain.Facilitator.Endpoints
import X402Nockchain.Facilitator.Rejections

/-! Requests with different nonces do not see each other: the record of its own
nonce is all that a verdict reads of the past. -/

namespace X402Nockchain.Facilitator

open Foundation Foundation.Serde X402Types Crypto Storage
open LawfulReplayCache (recordedAt)

variable {Chain Cache Store : Type} {state : AppState Chain}

/-- The nonce text that a request shows. -/
def nonceOf (state : AppState Chain) (req : VerifyRequest) : Option String :=
  match preDispatch state req with
  | .ok (_, auth) => some auth.nonce
  | .error _ => none

theorem nonceOf_eq_some : nonceOf state req = some nonce ↔ ∃ auth, Shows state req auth ∧ auth.nonce = nonce := by
  cases dispatched : preDispatch state req with
  | error error => simp [nonceOf, Shows, dispatched]
  | ok found =>
    obtain ⟨handler, auth⟩ := found
    simp [nonceOf, Shows, dispatched]

/-- The calls to `/verify` whose requests show `nonce`. -/
def bearsOn (state : AppState Chain) (nonce : String) (arrival : Arrival) :
    Option (UInt64 × VerifyRequest) :=
  arrival.verification.filter fun call => nonceOf state call.2 = some nonce

section Services

variable [Vesl] [ErrorText] [JsonSchema] [JsonText] [Base64] [LawfulReplayCache Cache] [CatalogStore Store]
  {service other : Service Chain Cache Store} {arrival arrival' first : Arrival}

omit [ErrorText] [JsonSchema] [JsonText] [Base64] in
/-- A request that shows another nonce leaves the record of this one alone. -/
theorem recordedAt_foreign [LawfulVesl] {cache : Cache} (foreign : nonceOf state req ≠ some auth.nonce) :
    recordedAt (verifyEnvelope state now cache req).2 (replayKey auth) = recordedAt cache (replayKey auth) := by
  apply recordedAt_frame
  intro auth' shows' same
  exact foreign (nonceOf_eq_some.mpr ⟨auth', shows', replayKey_inj.mp same⟩)

/-- Requests with other nonces are hidden from whoever sees the record of one nonce. -/
theorem others_hidden [LawfulVesl] (state : AppState Chain) (auth : Authorization) :
    Component.Unwinding (serve state) (bearsOn state auth.nonce)
      fun (service other : Service Chain Cache Store) =>
        recordedAt service.cache (replayKey auth) = recordedAt other.cache (replayKey auth) where
  equivalence := ⟨fun _ => rfl, Eq.symm, Eq.trans⟩
  hidden := by
    intro service arrival hidden
    cases seen : arrival.verification with
    | none => rw [serve_settle_cache (verification_eq_none.mp seen)]
    | some call =>
      obtain ⟨now, req⟩ := call
      rw [serve_verify_cache seen]
      apply recordedAt_foreign
      simpa [bearsOn, seen] using hidden
  shown := by
    rintro service other arrival arrival' ⟨now, req⟩ seen seen' same
    obtain ⟨seen, _⟩ := Option.filter_eq_some_iff.mp seen
    obtain ⟨seen', _⟩ := Option.filter_eq_some_iff.mp seen'
    rw [serve_verify_cache seen, serve_verify_cache seen']
    exact recordedAt_congr same

/-- A verdict reads the record of the nonce that its request shows, and no more. -/
theorem verdict_congr (seen : arrival.verification = some (now, req))
    (seen' : arrival'.verification = some (now, req))
    (same : ∀ auth, Shows state req auth →
      recordedAt service.cache (replayKey auth) = recordedAt other.cache (replayKey auth)) :
    (serve state service arrival).1.verdict = (serve state other arrival').1.verdict := by
  rw [verdict_eq seen, verdict_eq seen', verifyEnvelope_congr same]

omit [ErrorText] [JsonSchema] [JsonText] [Base64] in
/-- Two requests that show no nonce in common leave the same records in either order. -/
theorem recordedAt_commutes [LawfulVesl] {cache : Cache} {one another : VerifyRequest}
    (different : ∀ nonce, nonceOf state one = some nonce → nonceOf state another ≠ some nonce)
    (key : List UInt8) :
    recordedAt (verifyEnvelope state now' (verifyEnvelope state now cache one).2 another).2 key =
      recordedAt (verifyEnvelope state now (verifyEnvelope state now' cache another).2 one).2 key := by
  by_cases foreign : ∀ auth, Shows state one auth → replayKey auth ≠ key
  · rw [recordedAt_frame foreign]
    exact recordedAt_congr (recordedAt_frame foreign)
  · push Not at foreign
    obtain ⟨auth, shows', rfl⟩ := foreign
    have foreign := different auth.nonce (nonceOf_eq_some.mpr ⟨auth, shows', rfl⟩)
    rw [recordedAt_foreign foreign]
    exact (recordedAt_congr (recordedAt_foreign foreign)).symm

/-- The verdict on a request stays the same when a request with another nonce goes first. -/
theorem verdict_after_other [LawfulVesl] (service : Service Chain Cache Store)
    (verifies : arrival.verification = some (now, req))
    (before : first.verification = some (earlier, one))
    (different : ∀ nonce, nonceOf state req = some nonce → nonceOf state one ≠ some nonce) :
    (serve state (serve state service first).2 arrival).1.verdict =
      (serve state service arrival).1.verdict := by
  apply verdict_congr verifies verifies
  intro auth shows'
  rw [serve_verify_cache before]
  exact recordedAt_foreign (different auth.nonce (nonceOf_eq_some.mpr ⟨auth, shows', rfl⟩))

/-- The verdict on a request is the same after two runs that served the same
requests with its nonce, and two requests with different nonces are answered the same
in either order and leave the same records. -/
theorem nonces_are_independent [LawfulVesl] (state : AppState Chain) :
    (∀ (service other : Service Chain Cache Store) (left right : List Arrival) now lastUpdated
        lastUpdated' req,
      (∀ auth, Shows state req auth →
        recordedAt service.cache (replayKey auth) = recordedAt other.cache (replayKey auth) ∧
        left.filterMap (bearsOn state auth.nonce) = right.filterMap (bearsOn state auth.nonce)) →
      (serve state ((serve state).after service left) ⟨.verify, now, lastUpdated, req⟩).1.verdict =
        (serve state ((serve state).after other right) ⟨.verify, now, lastUpdated', req⟩).1.verdict) ∧
    (∀ (service : Service Chain Cache Store) first second, first.endpoint = .verify →
      second.endpoint = .verify →
      (∀ nonce, nonceOf state first.req = some nonce → nonceOf state second.req ≠ some nonce) →
      ((serve state).answers service [first, second]).map Answer.verdict =
          (((serve state).answers service [second, first]).map Answer.verdict).reverse ∧
        ∀ key, recordedAt ((serve state).after service [first, second]).cache key =
          recordedAt ((serve state).after service [second, first]).cache key) := by
  constructor
  · intro service other left right now lastUpdated lastUpdated' req alike
    have seen (lastUpdated : String) :
        Arrival.verification ⟨.verify, now, lastUpdated, req⟩ = some (now, req) := rfl
    apply verdict_congr (seen lastUpdated) (seen lastUpdated')
    intro auth shows'
    exact (others_hidden state auth).after (alike auth shows').2 (alike auth shows').1
  · intro service first second verifies verifies' different
    have seen : first.verification = some (first.now, first.req) :=
      verification_eq_some.mpr ⟨verifies, rfl, rfl⟩
    have seen' : second.verification = some (second.now, second.req) :=
      verification_eq_some.mpr ⟨verifies', rfl, rfl⟩
    have different' : ∀ nonce, nonceOf state second.req = some nonce →
        nonceOf state first.req ≠ some nonce :=
      fun nonce shows' shows'' => different nonce shows'' shows'
    constructor
    · have first := verdict_after_other service seen seen' different
      have second := verdict_after_other service seen' seen different'
      simp [Component.answers, first, second]
    · intro key
      simp only [Component.after, serve_verify_cache seen, serve_verify_cache seen']
      exact recordedAt_commutes different key

end Services

/-! ### A stranger before a payment -/

namespace Transparent

open Crypto.Transparent Wallet.Transparent Wallet

attribute [local instance] transparent transparent_lawful plainErrors plainSchemas plainText spelledBase64

/-- Presented to the wrong payee, under a nonce of its own. -/
def stray : VerifyRequest := misdirected { authorization with nonce := "6" }

theorem nonceOf_stray : nonceOf facilitator stray = some "6" :=
  nonceOf_eq_some.mpr ⟨_, ⟨_, misdirected_dispatched _⟩, rfl⟩

theorem nonceOf_original : nonceOf facilitator original = some "3" :=
  nonceOf_eq_some.mpr ⟨_, ⟨_, original_honest.dispatched rfl⟩, rfl⟩

theorem nonces_are_independent_here :
    (serve facilitator ((serve facilitator).after opened [⟨.verify, 1100, "", stray⟩])
        ⟨.verify, 1101, "", original⟩).1.verdict =
      (serve facilitator opened ⟨.verify, 1101, "", original⟩).1.verdict ∧
    ((serve facilitator).answers opened
        [⟨.verify, 1100, "", stray⟩, ⟨.verify, 1101, "", original⟩]).map Answer.verdict =
      (((serve facilitator).answers opened
        [⟨.verify, 1101, "", original⟩, ⟨.verify, 1100, "", stray⟩]).map Answer.verdict).reverse := by
  obtain ⟨runs, orders⟩ :=
    @nonces_are_independent Unit RecordLog InMemoryCatalogStore _ _ _ _ _ _ _ _ facilitator
  constructor
  · refine runs opened opened _ [] 1101 "" "" original fun auth shows' => ⟨rfl, ?_⟩
    have own : nonceOf facilitator original = some auth.nonce := nonceOf_eq_some.mpr ⟨auth, shows', rfl⟩
    have same : "3" = auth.nonce := Option.some.inj (nonceOf_original.symm.trans own)
    rw [← same]
    simp [bearsOn, Arrival.verification, nonceOf_stray]
  · refine (orders opened ⟨.verify, 1100, "", stray⟩ ⟨.verify, 1101, "", original⟩ rfl rfl ?_).1
    intro nonce shows' shows''
    rw [nonceOf_stray] at shows'
    rw [nonceOf_original, ← shows'] at shows''
    exact absurd shows'' (by decide)

end Transparent

end X402Nockchain.Facilitator
