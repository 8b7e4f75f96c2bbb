import X402Nockchain.Facilitator.Endpoints
import X402Nockchain.Facilitator.Honest

/-! What a `/verify` promises about a later `/settle`, and what a `/settle` leaves
to a later `/verify`. -/

namespace X402Nockchain.Facilitator

open Foundation Foundation.Serde X402Types Crypto Storage Wallet

section Envelope

variable [Vesl] {Chain Cache : Type} [ReplayCache Cache] {state : AppState Chain} {cache : Cache}

omit [Vesl] in
/-- A window that was open stays open until its end. -/
theorem checkTimeWindow_later (window : checkTimeWindow state now auth = .ok ()) (order : now ≤ later)
    (ends : later.toNat ≤ auth.validBefore.toNat + state.clockSkewTolerance.asSecs.toNat) :
    checkTimeWindow state later auth = .ok () := by
  obtain ⟨starts, _⟩ := checkTimeWindow_ok_iff.mp window
  have order : now.toNat ≤ later.toNat := UInt64.le_iff_toNat_le.mp order
  exact checkTimeWindow_ok_iff.mpr ⟨starts.trans (Nat.add_le_add_right order _), ends⟩

/-- What was verified is settled until the end of its window, whatever the cache
has become. -/
theorem settles_later (accepted : (verifyEnvelope state now cache req).1 = .ok ()) (order : now ≤ later)
    (ends : ∀ auth, Shows state req auth →
      later.toNat ≤ auth.validBefore.toNat + state.clockSkewTolerance.asSecs.toNat) (cache' : Cache) :
    (verifyEnvelopeForSettle state later cache' req).1 = .ok () := by
  obtain ⟨handler, auth, screened, verified⟩ := verifyEnvelope_passed accepted
  obtain ⟨dispatched, window⟩ := screen_ok_iff.mp screened
  have window := checkTimeWindow_later window order (ends auth ⟨handler, dispatched⟩)
  exact verifyEnvelopeForSettle_ok_iff.mpr
    ⟨handler, auth, screen_ok_iff.mpr ⟨dispatched, window⟩, verified⟩

end Envelope

section Services

variable {Chain Cache Store : Type} [Vesl] [ErrorText] [JsonSchema] [JsonText] [Base64]
  [ReplayCache Cache] [CatalogStore Store] {state : AppState Chain} {service other : Service Chain Cache Store}
  {arrival arrival' : Arrival}

/-- The calls to `/settle` are hidden from whoever sees the cache. -/
theorem settle_hidden (state : AppState Chain) : Component.Unwinding (serve state) Arrival.verification
    fun (service other : Service Chain Cache Store) => service.cache = other.cache where
  equivalence := ⟨fun _ => rfl, Eq.symm, Eq.trans⟩
  hidden := fun _ _ hidden => serve_settle_cache (verification_eq_none.mp hidden)
  shown := by
    rintro service other arrival arrival' ⟨now, req⟩ seen seen' same
    rw [serve_verify_cache seen, serve_verify_cache seen', same]

omit [Vesl] [Base64] [JsonText] [ReplayCache Cache] in
/-- Where no upsert fails, the outcome for the header does not depend on the catalog. -/
theorem process_congr (stores : ∀ (store : Store) entry, ∃ next, CatalogStore.upsert store entry = .ok next)
    (catalog catalog' : Store) (lastUpdated lastUpdated' : String) (req : VerifyRequest) :
    (process catalog lastUpdated req).1 = (process catalog' lastUpdated' req).1 := by
  unfold process
  cases readExtension req with
  | none => rfl
  | some found =>
    cases found with
    | error reason => rfl
    | ok ext =>
      obtain ⟨next, stored⟩ := stores catalog (catalogEntry req lastUpdated ext)
      obtain ⟨next', stored'⟩ := stores catalog' (catalogEntry req lastUpdated' ext)
      simp only [stored, stored']

/-- Where no upsert fails, neither does the header. -/
theorem answer_congr (stores : ∀ (store : Store) entry, ∃ next, CatalogStore.upsert store entry = .ok next)
    (seen : arrival.verification = some (now, req)) (seen' : arrival'.verification = some (now, req))
    (same : service.cache = other.cache) :
    (serve state service arrival).1 = (serve state other arrival').1 := by
  obtain ⟨verifies, rfl, rfl⟩ := verification_eq_some.mp seen
  obtain ⟨verifies', sameNow, sameReq⟩ := verification_eq_some.mp seen'
  simp only [serve, verifies, verifies', verifyHandler_eq, same, sameNow, sameReq,
    process_congr stores service.catalog other.catalog arrival.lastUpdated arrival'.lastUpdated]
  split <;> rfl

/-- A request that `/verify` accepted passes the check of `/settle` until the end of
its window, whatever was served in between; and `/settle` leaves the cache, and so
every answer of `/verify`, as they were. -/
theorem verify_implies_settle (state : AppState Chain) :
    (∀ (service : Service Chain Cache Store) first between later, first.endpoint = .verify →
      (serve state service first).1.verdict = some { valid := true } → first.now ≤ later →
      (∀ auth, Shows state first.req auth →
        later.toNat ≤ auth.validBefore.toNat + state.clockSkewTolerance.asSecs.toNat) →
      (verifyEnvelopeForSettle state later ((serve state).after service (first :: between)).cache
        first.req).1 = .ok ()) ∧
    (∀ (service : Service Chain Cache Store) arrival, arrival.endpoint = .settle →
      (serve state service arrival).2.cache = service.cache) ∧
    (∀ (service other : Service Chain Cache Store) left right, service.cache = other.cache →
      left.filterMap Arrival.verification = right.filterMap Arrival.verification →
      (serve state).observed Arrival.verification Answer.verdict service left =
          (serve state).observed Arrival.verification Answer.verdict other right ∧
        ((∀ (store : Store) entry, ∃ next, CatalogStore.upsert store entry = .ok next) →
          (serve state).observed Arrival.verification id service left =
            (serve state).observed Arrival.verification id other right)) := by
  refine ⟨?_, fun _ _ => serve_settle_cache, ?_⟩
  · intro service first between later verifies valid order ends
    rw [serve_verdict verifies, Option.some.injEq] at valid
    have accepted := verifyResponse_valid.mp (congrArg VerifyResponse.valid valid)
    exact settles_later accepted order ends _
  · intro service other left right same calls
    constructor
    · refine (settle_hidden state).observed_eq ?_ calls same
      rintro service other arrival arrival' ⟨now, req⟩ seen seen' same
      rw [verdict_eq seen, verdict_eq seen', same]
    · intro stores
      refine (settle_hidden state).observed_eq ?_ calls same
      rintro service other arrival arrival' ⟨now, req⟩ seen seen' same
      exact answer_congr stores seen seen' same

end Services

/-! ### A payment settled late in its window -/

namespace Transparent

open Crypto.Transparent Wallet.Transparent

attribute [local instance] transparent transparent_lawful plainErrors plainSchemas plainText spelledBase64

theorem original_verdict (lastUpdated : String) : (serve facilitator opened
    ⟨.verify, 1100, lastUpdated, original⟩).1.verdict = some { valid := true } := by
  calc (serve facilitator opened ⟨.verify, 1100, lastUpdated, original⟩).1.verdict
    _ = some (verifyResponse (verifyEnvelope facilitator 1100 ({} : RecordLog) original).1) :=
      serve_verdict rfl
    _ = some { valid := true } := by rw [original_accepted]; rfl

/-- The window of `original` and the skew end at 1360, and a `/settle` between two
calls to `/verify` changes neither answer. -/
theorem verify_implies_settle_late :
    (verifyEnvelopeForSettle facilitator 1360 ((serve facilitator).after opened
      [⟨.verify, 1100, "", original⟩, ⟨.settle, 1101, "", original⟩]).cache original).1 = .ok () ∧
    (serve facilitator opened ⟨.settle, 1101, "", original⟩).2.cache = opened.cache ∧
    (serve facilitator).observed Arrival.verification id opened
        [⟨.verify, 1100, "", original⟩, ⟨.settle, 1101, "", original⟩, ⟨.verify, 1102, "", original⟩] =
      (serve facilitator).observed Arrival.verification id opened
        [⟨.verify, 1100, "", original⟩, ⟨.verify, 1102, "", original⟩] := by
  obtain ⟨settles, keeps, answers⟩ :=
    @verify_implies_settle Unit RecordLog InMemoryCatalogStore _ _ _ _ _ _ _ facilitator
  refine ⟨settles opened _ _ 1360 rfl (original_verdict "") (by decide) ?_, keeps opened _ rfl,
    (answers opened opened _ _ rfl rfl).2 fun store entry => ⟨store.upsert entry, rfl⟩⟩
  intro auth shows'
  rw [shows'.unique ⟨_, original_honest.dispatched rfl⟩]
  decide

end Transparent

end X402Nockchain.Facilitator
