import X402Nockchain.Facilitator.Bazaar
import X402Nockchain.Facilitator.Honest
import X402Nockchain.Facilitator.Settle
import X402Nockchain.Storage.Memory

/-! The two endpoints that take payments, as calls on one facilitator. Each serves
the request of a caller, and both share the cache, the chain and the catalog. -/

namespace X402Nockchain.Facilitator

open Foundation Foundation.Serde X402Types Crypto Storage

/-- What changes while a facilitator serves. -/
structure Service (Chain Cache Store : Type) where
  cache : Cache
  chain : Chain
  catalog : Store

inductive Endpoint where
  | verify
  | settle
  deriving DecidableEq

/-- A request at an endpoint. The clock reads `now` for the checks, and
`lastUpdated` when a row is written. -/
structure Arrival where
  endpoint : Endpoint
  now : UInt64
  lastUpdated : String
  req : VerifyRequest

/-- What a `/verify` has to go by: its request and the clock. -/
def Arrival.verification (arrival : Arrival) : Option (UInt64 × VerifyRequest) :=
  match arrival.endpoint with
  | .verify => some (arrival.now, arrival.req)
  | .settle => none

theorem verification_eq_some {arrival : Arrival} : arrival.verification = some (now, req) ↔
    arrival.endpoint = .verify ∧ arrival.now = now ∧ arrival.req = req := by
  cases endpoint : arrival.endpoint <;> simp [Arrival.verification, endpoint]

theorem verification_eq_none {arrival : Arrival} : arrival.verification = none ↔ arrival.endpoint = .settle := by
  cases endpoint : arrival.endpoint <;> simp [Arrival.verification, endpoint]

/-- The `EXTENSION-RESPONSES` header and the body. -/
inductive Answer where
  | verified (header : Option String) (body : VerifyResponse)
  | settled (header : Option String) (body : SettleResponse)

/-- The body of a `/verify`. -/
def Answer.verdict : Answer → Option VerifyResponse
  | .verified _ body => some body
  | .settled _ _ => none

/-- The body of a `/settle`. -/
def Answer.settlement : Answer → Option SettleResponse
  | .verified _ _ => none
  | .settled _ body => some body

section Handlers

variable {Chain Cache Store : Type} [Vesl] [ErrorText] [JsonSchema] [JsonText] [Base64]
  [ReplayCache Cache] [CatalogStore Store]

/-- `verify::handler`. -/
def verifyHandler (state : AppState Chain) (now : UInt64) (lastUpdated : String)
    (service : Service Chain Cache Store) (req : VerifyRequest) :
    (Option String × VerifyResponse) × Service Chain Cache Store :=
  match verifyEnvelope state now service.cache req with
  | (.ok (), cache) =>
    let (outcome, catalog) := process service.catalog lastUpdated req
    ((outcome.map encodeHeaderValue, { valid := true }), { service with cache, catalog })
  | (.error e, cache) =>
    ((none, { valid := false, error := some e.toFacilitatorError }), { service with cache })

/-- `settle::handler`. -/
def settleHandler (state : AppState Chain) (now : UInt64) (lastUpdated : String)
    (service : Service Chain Cache Store) (req : SettleRequest) :
    (Option String × SettleResponse) × Service Chain Cache Store :=
  match verifyEnvelopeForSettle state now service.cache req with
  | (.error e, cache) => ((none, failure e.toFacilitatorError), { service with cache })
  | (.ok (), cache) =>
    let (outcome, catalog) := process service.catalog lastUpdated req
    let headers := outcome.map encodeHeaderValue
    match state.schemeRegistry.handlerFor req.requirements.scheme req.requirements.network with
    | none =>
      ((headers, failure {
        code := "unknown_scheme"
        message := "scheme handler unavailable for settle" }), { service with cache, catalog })
    | some handler =>
      let (body, chain) := chainAnswer (handler.settle state.chain service.chain req)
      ((headers, body), { cache, chain, catalog })

/-- One request after another. -/
def serve (state : AppState Chain) : Component (Service Chain Cache Store) Arrival Answer :=
  fun service arrival =>
    match arrival.endpoint with
    | .verify =>
      let ((header, body), service) :=
        verifyHandler state arrival.now arrival.lastUpdated service arrival.req
      (.verified header body, service)
    | .settle =>
      let ((header, body), service) :=
        settleHandler state arrival.now arrival.lastUpdated service arrival.req
      (.settled header body, service)

/-- The check that an endpoint makes before anything else. -/
def checkEnvelope (state : AppState Chain) (cache : Cache) (arrival : Arrival) :
    Except VerifyError Unit × Cache :=
  match arrival.endpoint with
  | .verify => verifyEnvelope state arrival.now cache arrival.req
  | .settle => verifyEnvelopeForSettle state arrival.now cache arrival.req

/-- An arrival passes the check in a state of the service. -/
def Passes (state : AppState Chain) (service : Service Chain Cache Store) (arrival : Arrival) : Prop :=
  (checkEnvelope state service.cache arrival).1 = .ok ()

end Handlers

section Specs

variable {Chain Cache Store : Type} [Vesl] [ErrorText] [JsonSchema] [JsonText] [Base64]
  [ReplayCache Cache] [CatalogStore Store] {state : AppState Chain} {service : Service Chain Cache Store}
  {arrival : Arrival} {now : UInt64} {lastUpdated : String} {req : VerifyRequest}

/-- A `/verify` answers from its envelope check. The row of an accepted request is
all that it leaves beside the cache. -/
theorem verifyHandler_eq : verifyHandler state now lastUpdated service req =
    let checked := verifyEnvelope state now service.cache req
    let cataloged := process service.catalog lastUpdated req
    match checked.1 with
    | .ok () => ((cataloged.1.map encodeHeaderValue, verifyResponse checked.1),
        { service with cache := checked.2, catalog := cataloged.2 })
    | .error _ => ((none, verifyResponse checked.1), { service with cache := checked.2 }) := by
  unfold verifyHandler
  rcases verifyEnvelope state now service.cache req with ⟨error | done, cache⟩ <;> rfl

/-- A `/settle` answers with its body, and leaves the cache as it was. -/
theorem settleHandler_eq : settleHandler state now lastUpdated service req =
    let cataloged := process service.catalog lastUpdated req
    let body := settleBody state now service.cache service.chain req
    match (verifyEnvelopeForSettle state now service.cache req).1 with
    | .ok () => ((cataloged.1.map encodeHeaderValue, body.1),
        { service with chain := body.2, catalog := cataloged.2 })
    | .error _ => ((none, body.1), service) := by
  obtain ⟨checked, same⟩ : ∃ checked,
      verifyEnvelopeForSettle state now service.cache req = (checked, service.cache) :=
    ⟨_, verifyEnvelopeForSettle_eq state now service.cache req⟩
  simp only [settleHandler, settleBody, same]
  cases checked with
  | error error => rfl
  | ok done =>
    cases state.schemeRegistry.handlerFor req.requirements.scheme req.requirements.network <;> rfl

theorem serve_verdict (verifies : arrival.endpoint = .verify) : (serve state service arrival).1.verdict =
    some (verifyResponse (verifyEnvelope state arrival.now service.cache arrival.req).1) := by
  simp only [serve, verifies, verifyHandler_eq]
  split <;> rfl

theorem serve_verdict_settle (settles : arrival.endpoint = .settle) :
    (serve state service arrival).1.verdict = none := by
  simp only [serve, settles, Answer.verdict]

theorem serve_settlement (settles : arrival.endpoint = .settle) :
    (serve state service arrival).1.settlement =
      some (settleBody state arrival.now service.cache service.chain arrival.req).1 := by
  simp only [serve, settles, settleHandler_eq]
  split <;> rfl

theorem serve_settlement_verify (verifies : arrival.endpoint = .verify) :
    (serve state service arrival).1.settlement = none := by
  simp only [serve, verifies, Answer.settlement]

/-- The cache that an arrival leaves. -/
theorem serve_cache : (serve state service arrival).2.cache = (checkEnvelope state service.cache arrival).2 := by
  obtain ⟨endpoint, now, lastUpdated, req⟩ := arrival
  cases endpoint with
  | verify =>
    simp only [serve, checkEnvelope, verifyHandler_eq]
    split <;> rfl
  | settle =>
    rw [checkEnvelope, verifyEnvelopeForSettle_cache]
    simp only [serve, settleHandler_eq]
    split <;> rfl

/-- `/settle` never changes the replay cache. -/
theorem serve_settle_cache (settles : arrival.endpoint = .settle) :
    (serve state service arrival).2.cache = service.cache := by
  rw [serve_cache]
  simp only [checkEnvelope, settles, verifyEnvelopeForSettle_cache]

theorem serve_verify_cache (seen : arrival.verification = some (now, req)) :
    (serve state service arrival).2.cache = (verifyEnvelope state now service.cache req).2 := by
  obtain ⟨verifies, rfl, rfl⟩ := verification_eq_some.mp seen
  rw [serve_cache]
  simp only [checkEnvelope, verifies]

/-- The verdict on a request depends on the cache alone. -/
theorem verdict_eq (seen : arrival.verification = some (now, req)) :
    (serve state service arrival).1.verdict =
      some (verifyResponse (verifyEnvelope state now service.cache req).1) := by
  obtain ⟨verifies, rfl, rfl⟩ := verification_eq_some.mp seen
  exact serve_verdict verifies

/-- The catalog that an accepted arrival leaves. -/
theorem serve_catalog (passes : Passes state service arrival) : (serve state service arrival).2.catalog =
    (process service.catalog arrival.lastUpdated arrival.req).2 := by
  obtain ⟨endpoint, now, lastUpdated, req⟩ := arrival
  cases endpoint with
  | verify =>
    have passed : (verifyEnvelope state now service.cache req).1 = .ok () := passes
    simp only [serve, verifyHandler_eq, passed]
  | settle =>
    have passed : (verifyEnvelopeForSettle state now service.cache req).1 = .ok () := passes
    simp only [serve, settleHandler_eq, passed]

/-- What an arrival that fails the check is answered. -/
def refusal (endpoint : Endpoint) (error : VerifyError) : Answer :=
  match endpoint with
  | .verify => .verified none (verifyResponse (.error error))
  | .settle => .settled none (failure error.toFacilitatorError)

/-- An arrival that fails the check changes the cache at most. -/
theorem serve_refused (failed : (checkEnvelope state service.cache arrival).1 = .error error) :
    serve state service arrival = (refusal arrival.endpoint error,
      { service with cache := (checkEnvelope state service.cache arrival).2 }) := by
  obtain ⟨endpoint, now, lastUpdated, req⟩ := arrival
  cases endpoint with
  | verify =>
    have failed : (verifyEnvelope state now service.cache req).1 = .error error := failed
    simp only [serve, verifyHandler_eq, checkEnvelope, failed, refusal]
  | settle =>
    have failed : (verifyEnvelopeForSettle state now service.cache req).1 = .error error := failed
    simp only [serve, settleHandler_eq, checkEnvelope, settleBody, failed, refusal,
      verifyEnvelopeForSettle_cache]

end Specs

/-! ### The stand-in's service -/

namespace Transparent

open Crypto.Transparent

attribute [local instance] transparent transparent_lawful plainErrors plainSchemas

/-- Compact text, which nothing here reads back. -/
@[reducible] def plainText : JsonText where
  print := compact
  parse _ := none

/-- A facilitator that has served nothing yet. -/
def opened : Service Unit RecordLog InMemoryCatalogStore where
  cache := {}
  chain := ()
  catalog := .new

end Transparent

end X402Nockchain.Facilitator
