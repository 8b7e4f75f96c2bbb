import X402Nockchain.Facilitator.Discovery
import X402Nockchain.Facilitator.Endpoints
import X402Nockchain.Facilitator.Rejections
import X402Nockchain.Mcp.Router

/-! The routers of the facilitator: the open one, and the one that asks for a
`SIGN-IN-WITH-X` header before it lists. The gate may share its replay cache with
`/verify`. -/

namespace X402Nockchain.Facilitator

open Foundation Foundation.Serde X402Types Crypto
open Storage (CatalogStore InMemoryCatalogStore)
open Mcp (HeaderMap headerText)
open LawfulReplayCache (recordedAt)

/-- A request to the facilitator. -/
inductive Incoming where
  | pay (arrival : Arrival)
  | list (params : ListParams)

inductive Outgoing where
  | paid (answer : Answer)
  | listed (result : Except AppError DiscoveryResourcesResponse)

/-- `vesl_signing::caip122::verify`, at a reading of the clock. An error is the text
that its `Display` renders. -/
class Siwn (Cache : Type) where
  VerifiedIdentity : Type
  verify : (header expectedDomain : String) → Cache → (now : UInt64) →
    Except String VerifiedIdentity × Cache

/-- `replay_cache::domains::SIWN`. -/
def ReplayDomains.siwn : String := "siwn:"

def siwnHeader : String := "sign-in-with-x"

/-- The gate, whose replay cache is passed beside it. -/
structure SiwnGate where
  expectedDomain : String

/-- `require_siwn` up to the handler that it wraps: the identity, or the text of the `401`. -/
def requireSiwn [Siwn Cache] (gate : SiwnGate) (now : UInt64) (headers : HeaderMap) (cache : Cache) :
    Except String (Siwn.VerifiedIdentity Cache) × Cache :=
  match headers.lookup siwnHeader with
  | none => (.error "missing SIGN-IN-WITH-X header", cache)
  | some headerValue =>
    match headerText headerValue with
    | none => (.error "header is not valid UTF-8", cache)
    | some headerStr =>
      match Siwn.verify headerStr gate.expectedDomain cache now with
      | (.ok identity, cache) => (.ok identity, cache)
      | (.error e, cache) => (.error s!"SIWN rejected: {e}", cache)

/-- A request to the router with the gate. -/
inductive GatedRequest where
  | pay (arrival : Arrival)
  | list (now : UInt64) (headers : HeaderMap) (params : ListParams)

inductive GatedAnswer where
  | paid (answer : Answer)
  | listed (result : Except AppError DiscoveryResourcesResponse)
  | unauthorized (message : String)

section Routers

variable {Chain Cache Store : Type} [Vesl] [ErrorText] [JsonSchema] [JsonText] [Base64] [Siwn Cache]
  [CatalogStore Store]

/-- `router`. -/
def router [ReplayCache Cache] (state : AppState Chain) :
    Component (Service Chain Cache Store) Incoming Outgoing := fun service incoming =>
  match incoming with
  | .pay arrival =>
    let (answer, service) := Facilitator.serve state service arrival
    (.paid answer, service)
  | .list params => (.listed (listResources service.catalog params), service)

/-- `router_with_siwn`, where the gate was given the replay cache of `/verify`. -/
def routerWithSiwn [ReplayCache Cache] (state : AppState Chain) (gate : SiwnGate) :
    Component (Service Chain Cache Store) GatedRequest GatedAnswer := fun service request =>
  match request with
  | .pay arrival =>
    let (answer, service) := Facilitator.serve state service arrival
    (.paid answer, service)
  | .list now headers params =>
    match requireSiwn gate now headers service.cache with
    | (.ok _, cache) => (.listed (listResources service.catalog params), { service with cache })
    | (.error message, cache) => (.unauthorized message, { service with cache })

/-- `router_with_siwn`, where the gate has a replay cache of its own, as `SiwnGate::new`
gives it one. -/
def routerApart [ReplayCache Cache] (state : AppState Chain) (gate : SiwnGate) :
    Component (Service Chain Cache Store × Cache) GatedRequest GatedAnswer :=
  fun (service, gateCache) request =>
    match request with
    | .pay arrival =>
      let (answer, service) := Facilitator.serve state service arrival
      (.paid answer, (service, gateCache))
    | .list now headers params =>
      match requireSiwn gate now headers gateCache with
      | (.ok _, gateCache) => (.listed (listResources service.catalog params), (service, gateCache))
      | (.error message, gateCache) => (.unauthorized message, (service, gateCache))

/-- The gate by itself: whom it lets in. -/
def admissions (gate : SiwnGate) : Component Cache (UInt64 × HeaderMap) (Except String Unit) :=
  fun cache (now, headers) =>
    let (outcome, cache) := requireSiwn gate now headers cache
    (outcome.map fun _ => (), cache)

end Routers

/-! ### One cache for both -/

def GatedRequest.payment : GatedRequest → Option Arrival
  | .pay arrival => some arrival
  | .list _ _ _ => none

def GatedRequest.admission : GatedRequest → Option (UInt64 × HeaderMap)
  | .pay _ => none
  | .list now headers _ => some (now, headers)

def GatedAnswer.payment : GatedAnswer → Option Answer
  | .paid answer => some answer
  | .listed _ | .unauthorized _ => none

def GatedAnswer.admission : GatedAnswer → Option (Except String Unit)
  | .paid _ => none
  | .listed _ => some (.ok ())
  | .unauthorized message => some (.error message)

/-- The same records under the keys of a domain. -/
def SameRecords [Vesl] [LawfulReplayCache Cache] (domain : String) (cache cache' : Cache) : Prop :=
  ∀ nonce, recordedAt cache (Vesl.prefixedReplayKey domain nonce) =
    recordedAt cache' (Vesl.prefixedReplayKey domain nonce)

/-- The documented behaviour of `siwn::verify`: its nonces are kept under `siwn:`, it reads
and writes no other keys, and no key of an authorization is one of them. -/
class LawfulSiwn (Cache : Type) [Vesl] [LawfulReplayCache Cache] [Siwn Cache] : Prop where
  apart : ∀ nonce other,
    Vesl.prefixedReplayKey ReplayDomains.siwn nonce ≠ Vesl.prefixedReplayKey ReplayDomains.authorization other
  reads : ∀ {header domain now} {cache cache' : Cache}, SameRecords ReplayDomains.siwn cache cache' →
    (Siwn.verify header domain cache now).1 = (Siwn.verify header domain cache' now).1 ∧
      SameRecords ReplayDomains.siwn (Siwn.verify header domain cache now).2 (Siwn.verify header domain cache' now).2
  writes : ∀ {header domain now key} {cache : Cache},
    (∀ nonce, Vesl.prefixedReplayKey ReplayDomains.siwn nonce ≠ key) →
      recordedAt (Siwn.verify header domain cache now).2 key = recordedAt cache key

section Payments

variable {Chain Cache Store : Type} [Vesl] [ErrorText] [JsonSchema] [JsonText] [Base64]
  [LawfulReplayCache Cache] [CatalogStore Store] {state : AppState Chain}
  {service other : Service Chain Cache Store}

/-- Services that a payment cannot tell apart. -/
structure PaysAlike (service other : Service Chain Cache Store) : Prop where
  chain : service.chain = other.chain
  catalog : service.catalog = other.catalog
  records : SameRecords ReplayDomains.authorization service.cache other.cache

theorem PaysAlike.serve (alike : PaysAlike service other) (state : AppState Chain) (arrival : Arrival) :
    (Facilitator.serve state service arrival).1 = (Facilitator.serve state other arrival).1 ∧
      PaysAlike (Facilitator.serve state service arrival).2 (Facilitator.serve state other arrival).2 := by
  obtain ⟨chain, catalog, records⟩ := alike
  obtain ⟨endpoint, now, lastUpdated, req⟩ := arrival
  cases endpoint with
  | verify =>
    have same : (verifyEnvelope state now service.cache req).1 = (verifyEnvelope state now other.cache req).1 :=
      verifyEnvelope_congr fun auth _ => records (asBytes auth.nonce)
    have later : SameRecords ReplayDomains.authorization (verifyEnvelope state now service.cache req).2
        (verifyEnvelope state now other.cache req).2 := fun nonce => recordedAt_congr (records nonce)
    simp only [Facilitator.serve, verifyHandler_eq, same, catalog]
    cases (verifyEnvelope state now other.cache req).1 with
    | ok done => exact ⟨rfl, ⟨chain, rfl, later⟩⟩
    | error error => exact ⟨rfl, ⟨chain, rfl, later⟩⟩
  | settle =>
    have same : (verifyEnvelopeForSettle state now service.cache req).1 =
        (verifyEnvelopeForSettle state now other.cache req).1 := by
      rw [verifyEnvelopeForSettle_eq, verifyEnvelopeForSettle_eq]
    simp only [Facilitator.serve, settleHandler_eq, settleBody, same, catalog, chain]
    cases (verifyEnvelopeForSettle state now other.cache req).1 with
    | ok done => exact ⟨rfl, ⟨rfl, rfl, records⟩⟩
    | error error => exact ⟨rfl, ⟨chain, catalog, records⟩⟩

/-- A payment leaves the records of keys that no authorization has. -/
theorem serve_records (state : AppState Chain) (service : Service Chain Cache Store) (arrival : Arrival)
    (foreign : ∀ nonce, Vesl.prefixedReplayKey ReplayDomains.authorization nonce ≠ key) :
    recordedAt (Facilitator.serve state service arrival).2.cache key = recordedAt service.cache key := by
  cases endpoint : arrival.endpoint with
  | verify =>
    rw [serve_cache, checkEnvelope, endpoint]
    exact recordedAt_frame fun auth _ => foreign (asBytes auth.nonce)
  | settle => rw [serve_settle_cache endpoint]

end Payments

section Sharing

variable {Chain Cache Store : Type} [Vesl] [ErrorText] [JsonSchema] [JsonText] [Base64]
  [LawfulReplayCache Cache] [CatalogStore Store] [Siwn Cache] {state : AppState Chain} {gate : SiwnGate}

/-- A gate that shares the cache of the service, and one with a cache of its own. -/
structure Shares (shared : Service Chain Cache Store) (apart : Service Chain Cache Store × Cache) : Prop where
  pays : PaysAlike shared apart.1
  gates : SameRecords ReplayDomains.siwn shared.cache apart.2

variable [LawfulSiwn Cache]

omit [ErrorText] [JsonSchema] [JsonText] [Base64] in
/-- The gate reads the records of its own keys, and leaves the other records. -/
theorem requireSiwn_records {cache cache' : Cache} (gate : SiwnGate) (now : UInt64) (headers : HeaderMap)
    (same : SameRecords ReplayDomains.siwn cache cache') :
    (requireSiwn gate now headers cache).1 = (requireSiwn gate now headers cache').1 ∧
      SameRecords ReplayDomains.siwn (requireSiwn gate now headers cache).2 (requireSiwn gate now headers cache').2 ∧
      SameRecords ReplayDomains.authorization (requireSiwn gate now headers cache).2 cache := by
  unfold requireSiwn
  split
  · exact ⟨rfl, same, fun _ => rfl⟩
  split
  · exact ⟨rfl, same, fun _ => rfl⟩
  rename_i header _
  have foreign : SameRecords ReplayDomains.authorization (Siwn.verify header gate.expectedDomain cache now).2 cache :=
    fun nonce => LawfulSiwn.writes fun siwn => LawfulSiwn.apart Cache siwn nonce
  obtain ⟨answered, later⟩ := @LawfulSiwn.reads Cache _ _ _ _ header gate.expectedDomain now _ _ same
  generalize Siwn.verify header gate.expectedDomain cache now = checked at answered later foreign ⊢
  generalize Siwn.verify header gate.expectedDomain cache' now = checked' at answered later ⊢
  obtain ⟨outcome, next⟩ := checked
  obtain ⟨outcome', next'⟩ := checked'
  obtain rfl : outcome = outcome' := answered
  cases outcome <;> exact ⟨rfl, later, foreign⟩

/-- Whether the cache is shared shows in no answer. -/
theorem shares_simulates (state : AppState Chain) (gate : SiwnGate) :
    Component.Simulates (routerWithSiwn state gate) (routerApart state gate) (fun _ => True)
      (Shares : Service Chain Cache Store → _ → Prop) := by
  rintro service ⟨other, gateCache⟩ request _ ⟨pays, gates⟩
  cases request with
  | pay arrival =>
    obtain ⟨same, pays'⟩ := pays.serve state arrival
    refine ⟨congrArg GatedAnswer.paid same, pays', fun nonce => ?_⟩
    exact (serve_records state service arrival fun other same => LawfulSiwn.apart Cache nonce other same.symm).trans
      (gates nonce)
  | list now headers params =>
    have gates : SameRecords ReplayDomains.siwn service.cache gateCache := gates
    obtain ⟨same, gates', foreign⟩ := requireSiwn_records gate now headers gates
    obtain ⟨chain, catalog, records⟩ := pays
    have records' : SameRecords ReplayDomains.authorization (requireSiwn gate now headers service.cache).2
        other.cache := fun nonce => (foreign nonce).trans (records nonce)
    have catalog : service.catalog = other.catalog := catalog
    simp only [routerWithSiwn, routerApart, catalog]
    generalize requireSiwn gate now headers service.cache = checked at same gates' records' ⊢
    generalize requireSiwn gate now headers gateCache = checked' at same gates' ⊢
    obtain ⟨outcome, next⟩ := checked
    obtain ⟨outcome', next'⟩ := checked'
    obtain rfl : outcome = outcome' := same
    cases outcome <;> exact ⟨rfl, ⟨chain, rfl, records'⟩, gates'⟩

omit [LawfulSiwn Cache] in
theorem payments_hosted (state : AppState Chain) (gate : SiwnGate) :
    Component.Hosts (routerApart state gate) (Facilitator.serve state)
      (Prod.fst : Service Chain Cache Store × Cache → _) GatedRequest.payment GatedAnswer.payment where
  hidden := by
    rintro ⟨service, gateCache⟩ request hidden
    cases request with
    | pay arrival => cases hidden
    | list now headers params =>
      simp only [routerApart]
      split <;> exact ⟨rfl, rfl⟩
  shown := by
    rintro ⟨service, gateCache⟩ request arrival shown
    cases request with
    | pay other =>
      obtain rfl := Option.some.inj shown
      exact ⟨rfl, rfl⟩
    | list now headers params => cases shown

omit [LawfulSiwn Cache] in
theorem admissions_hosted (state : AppState Chain) (gate : SiwnGate) :
    Component.Hosts (routerApart state gate) (admissions gate)
      (Prod.snd : Service Chain Cache Store × Cache → _) GatedRequest.admission GatedAnswer.admission where
  hidden := by
    rintro ⟨service, gateCache⟩ request hidden
    cases request with
    | pay arrival => exact ⟨rfl, rfl⟩
    | list now headers params => cases hidden
  shown := by
    rintro ⟨service, gateCache⟩ request ⟨now, headers⟩ shown
    cases request with
    | pay arrival => cases shown
    | list now' headers' params =>
      obtain ⟨rfl, rfl⟩ := Prod.mk.inj (Option.some.inj shown)
      simp only [routerApart, admissions]
      rcases requireSiwn gate now' headers' gateCache with ⟨error | identity, next⟩ <;> exact ⟨rfl, rfl⟩

/-- A gate that shares the replay cache of `/verify` does no harm, in whatever order the
requests come: every answer is as if the gate had a cache of its own. So payments are
answered as if nobody signed in, and the gate lets in whom it would if nobody paid. -/
theorem siwn_gate_separate (state : AppState Chain) (gate : SiwnGate) (service : Service Chain Cache Store)
    (requests : List GatedRequest) :
    let answers := (routerWithSiwn state gate).answers service requests
    answers = (routerApart state gate).answers (service, service.cache) requests ∧
    answers.filterMap GatedAnswer.payment =
      (Facilitator.serve state).answers service (requests.filterMap GatedRequest.payment) ∧
    answers.filterMap GatedAnswer.admission =
      (admissions gate).answers service.cache (requests.filterMap GatedRequest.admission) := by
  have start : Shares service (service, service.cache) := ⟨⟨rfl, rfl, fun _ => rfl⟩, fun _ => rfl⟩
  have same : (routerWithSiwn state gate).answers service requests =
      (routerApart state gate).answers (service, service.cache) requests :=
    Component.answers_eq (shares_simulates state gate) start fun _ _ => trivial
  refine ⟨same, ?_, ?_⟩
  · rw [same]
    exact (payments_hosted state gate).answers (service, service.cache) requests
  · rw [same]
    exact (admissions_hosted state gate).answers (service, service.cache) requests

end Sharing

/-! ### A sign-in under the nonce of a payment -/

namespace Transparent

open Crypto.Transparent Wallet.Transparent Wallet

attribute [local instance] transparent transparent_lawful plainErrors plainSchemas plainText spelledBase64

/-- A stand-in whose header is its nonce, which is good for once in fifteen minutes. -/
@[reducible] def plainSiwn : Siwn RecordLog where
  VerifiedIdentity := String
  verify header _ cache now :=
    let nonce := Vesl.prefixedReplayKey ReplayDomains.siwn (asBytes header)
    let (seen, cache) := ReplayCache.seen cache now nonce defaultReplayTtl
    (if seen then .error "nonce replayed" else .ok header, cache)

attribute [local instance] plainSiwn

theorem domains_apart (nonce other : List UInt8) :
    asBytes ReplayDomains.siwn ++ nonce ≠ asBytes ReplayDomains.authorization ++ other := by
  have siwn : asBytes ReplayDomains.siwn = [115, 105, 119, 110, 58] := by decide
  have authorization : asBytes ReplayDomains.authorization = [120, 52, 48, 50, 45, 97, 117, 116, 104, 58] := by
    decide
  rw [siwn, authorization]
  simp

theorem plainSiwn_lawful : LawfulSiwn RecordLog where
  apart := domains_apart
  reads := by
    intro header domain now cache cache' same
    obtain ⟨answered, recorded⟩ :=
      @LawfulReplayCache.seen_congr RecordLog _ _ _ now defaultReplayTtl _ (same (asBytes header))
    refine ⟨by simp only [Siwn.verify, answered], fun nonce => ?_⟩
    by_cases own : Vesl.prefixedReplayKey ReplayDomains.siwn nonce =
        Vesl.prefixedReplayKey ReplayDomains.siwn (asBytes header)
    · rw [own]
      exact recorded
    · exact (LawfulReplayCache.seen_frame own).trans
        ((same nonce).trans (LawfulReplayCache.seen_frame own).symm)
  writes := fun foreign => LawfulReplayCache.seen_frame (foreign _).symm

attribute [local instance] plainSiwn_lawful

/-- A sign-in and a payment under the nonce "3", and the sign-in once more. -/
def sameNonce : List GatedRequest := [
  .list 1090 [(siwnHeader, asBytes "3")] {},
  .pay ⟨.verify, 1100, "now", original⟩,
  .list 1110 [(siwnHeader, asBytes "3")] {}]

/-- The payment is accepted, the sign-in before it is let in, and the one after it is not. -/
theorem siwn_gate_separate_nonce :
    let answers := (routerWithSiwn facilitator ⟨"facilitator.test"⟩).answers opened sameNonce
    answers.filterMap GatedAnswer.payment = [.verified none { valid := true }] ∧
    answers.filterMap GatedAnswer.admission = [.ok (), .error "SIWN rejected: nonce replayed"] := by
  obtain ⟨_, payments, admitted⟩ :=
    siwn_gate_separate facilitator ⟨"facilitator.test"⟩ opened sameNonce
  have accepted : (verifyEnvelope facilitator 1100 opened.cache original).1 = .ok () := original_accepted
  refine ⟨payments.trans ?_, admitted.trans ?_⟩
  · have paid : (Facilitator.serve facilitator opened ⟨.verify, 1100, "now", original⟩).1 =
        .verified none { valid := true } := by
      simp only [Facilitator.serve, verifyHandler_eq, accepted]
      rfl
    exact congrArg (· :: []) paid
  · have legible : headerText (asBytes "3") = some "3" := by decide
    have looked : List.lookup siwnHeader [(siwnHeader, asBytes "3")] = some (asBytes "3") := List.lookup_cons_self
    simp only [sameNonce, GatedRequest.admission, List.filterMap_cons, List.filterMap_nil, Component.answers,
      admissions, requireSiwn, looked, legible]
    rfl

end Transparent

end X402Nockchain.Facilitator
