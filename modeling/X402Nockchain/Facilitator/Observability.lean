import X402Nockchain.Facilitator.CatalogProvenance
import X402Nockchain.Facilitator.Router
import X402Nockchain.Foundation.Metering

/-! The metrics that the endpoints record beside their answers. A histogram counts its
observations; the seconds that it observes are left out. -/

namespace X402Nockchain.Facilitator

open Foundation Foundation.Serde X402Types Crypto
open Storage (CatalogStore CatalogRows InMemoryCatalogStore)

namespace Metric

def requestsTotal : String := "x402_requests_total"

def verifyLatencySeconds : String := "x402_verify_latency_seconds"

def settleLatencySeconds : String := "x402_settle_latency_seconds"

def catalogListLatencySeconds : String := "x402_catalog_list_latency_seconds"

def catalogUpsertsTotal : String := "x402_catalog_upserts_total"

end Metric

namespace Label

def endpoint : String := "endpoint"

def outcome : String := "outcome"

end Label

/-- A metric under the values of its labels. -/
structure Series where
  metric : String
  labels : List (String × String)
  deriving DecidableEq

namespace Series

def requests (endpoint outcome : String) : Series :=
  ⟨Metric.requestsTotal, [(Label.endpoint, endpoint), (Label.outcome, outcome)]⟩

def latency (metric outcome : String) : Series := ⟨metric, [(Label.outcome, outcome)]⟩

def upserts (outcome kind : String) : Series :=
  ⟨Metric.catalogUpsertsTotal, [(Label.outcome, outcome), ("kind", kind)]⟩

end Series

/-- The samples that were recorded. -/
abbrev Recorder := List Series

/-- What a counter has come to, or how often a histogram was observed. -/
def reading (recorder : Recorder) (series : Series) : Nat := recorder.count series

section Handlers

variable {Chain Cache Store : Type} [Vesl] [ErrorText] [JsonSchema] [JsonText] [Base64]
  [ReplayCache Cache] [CatalogStore Store]

/-- `bazaar::process`, with the counter of the upsert. -/
def processMetered (catalog : Store) (lastUpdated : String) (req : VerifyRequest) :
    (Option BazaarExtensionResponse × Recorder) × Store :=
  match readExtension req with
  | none => ((none, []), catalog)
  | some (.error reason) => ((some (rejected reason), []), catalog)
  | some (.ok ext) =>
    let entry := catalogEntry req lastUpdated ext
    let kindLabel := entry.kind
    match CatalogStore.upsert catalog entry with
    | .ok catalog => ((some { status := .success }, [.upserts "ok" kindLabel]), catalog)
    | .error e =>
      ((some (rejected s!"catalog upsert failed: {e}"), [.upserts "error" kindLabel]), catalog)

/-- `verify::handler`, with its metrics. -/
def verifyMetered (state : AppState Chain) (now : UInt64) (lastUpdated : String)
    (service : Service Chain Cache Store) (req : VerifyRequest) :
    ((Option String × VerifyResponse) × Recorder) × Service Chain Cache Store :=
  let (headers, outcomeLabel, body, recorded, service) :=
    match verifyEnvelope state now service.cache req with
    | (.ok (), cache) =>
      let ((outcome, recorded), catalog) := processMetered service.catalog lastUpdated req
      (outcome.map encodeHeaderValue, "ok", ({ valid := true } : VerifyResponse), recorded,
        { service with cache, catalog })
    | (.error e, cache) =>
      (none, "rejected:" ++ e.rejectionLabel,
        { valid := false, error := some e.toFacilitatorError }, [], { service with cache })
  (((headers, body), recorded ++
    [.requests "/verify" outcomeLabel, .latency Metric.verifyLatencySeconds outcomeLabel]), service)

/-- The label of the outcome of a settlement. -/
def settleOutcome (body : SettleResponse) : String :=
  if body.success then (body.transaction.map TransactionStatus.status).getD "ok"
  else (body.error.map FacilitatorError.code).getD "error"

/-- `settle::handler`, with its metrics. None are recorded when the handler is missing. -/
def settleMetered (state : AppState Chain) (now : UInt64) (lastUpdated : String)
    (service : Service Chain Cache Store) (req : SettleRequest) :
    ((Option String × SettleResponse) × Recorder) × Service Chain Cache Store :=
  match verifyEnvelopeForSettle state now service.cache req with
  | (.error e, cache) =>
    let label := "envelope_rejected:" ++ e.rejectionLabel
    (((none, failure e.toFacilitatorError),
      [.requests "/settle" label, .latency Metric.settleLatencySeconds label]), { service with cache })
  | (.ok (), cache) =>
    let ((outcome, recorded), catalog) := processMetered service.catalog lastUpdated req
    let headers := outcome.map encodeHeaderValue
    match state.schemeRegistry.handlerFor req.requirements.scheme req.requirements.network with
    | none =>
      (((headers, failure {
        code := "unknown_scheme"
        message := "scheme handler unavailable for settle" }), recorded), { service with cache, catalog })
    | some handler =>
      let (body, chain) := chainAnswer (handler.settle state.chain service.chain req)
      let outcome := settleOutcome body
      (((headers, body), recorded ++
        [.requests "/settle" outcome, .latency Metric.settleLatencySeconds outcome]),
        { cache, chain, catalog })

/-- `list_resources`, with its metrics. -/
def listMetered (catalog : Store) (params : ListParams) :
    Except AppError DiscoveryResourcesResponse × Recorder :=
  let limit := params.limit.getD defaultLimit
  let offset := params.offset.getD 0
  let result := CatalogStore.list catalog {
    kind := params.kind
    limit := some limit
    offset := some offset
    network := params.network
    scheme := params.scheme }
  let outcome := if result.isOk then "ok" else "error"
  (do let (items, total) ← result.mapError AppError.internal
      return { x402Version := discoveryVersion, items, pagination := { limit, offset, total } },
    [.requests "/discovery/resources" outcome, .latency Metric.catalogListLatencySeconds outcome])

/-- The three endpoints, with their metrics. -/
def serveMetered (state : AppState Chain) :
    Component (Service Chain Cache Store) Incoming (Outgoing × Recorder) := fun service incoming =>
  match incoming with
  | .pay { endpoint := .verify, now, lastUpdated, req } =>
    let (((headers, body), recorded), service) := verifyMetered state now lastUpdated service req
    ((.paid (.verified headers body), recorded), service)
  | .pay { endpoint := .settle, now, lastUpdated, req } =>
    let (((headers, body), recorded), service) := settleMetered state now lastUpdated service req
    ((.paid (.settled headers body), recorded), service)
  | .list params =>
    let (result, recorded) := listMetered service.catalog params
    ((.listed result, recorded), service)

end Handlers

/-! ### What an answer tells of its outcome -/

/-- The codes of `chain_error_to_facilitator`. -/
def chainCodes : List String := ["chain_transport", "chain_rejected", "chain_unimplemented"]

/-- Where an answer comes from. -/
def Outgoing.endpoint : Outgoing → String
  | .paid (.verified _ _) => "/verify"
  | .paid (.settled _ _) => "/settle"
  | .listed _ => "/discovery/resources"

/-- The histogram of its latency. -/
def Outgoing.timer : Outgoing → String
  | .paid (.verified _ _) => Metric.verifyLatencySeconds
  | .paid (.settled _ _) => Metric.settleLatencySeconds
  | .listed _ => Metric.catalogListLatencySeconds

/-- The outcome that an answer shows. A code that is not the chain's is the envelope's. -/
def Outgoing.outcome : Outgoing → String
  | .paid (.verified _ body) =>
    match body.error with
    | none => "ok"
    | some error => "rejected:" ++ error.code
  | .paid (.settled _ body) =>
    if body.success ∨ settleOutcome body ∈ chainCodes then settleOutcome body
    else "envelope_rejected:" ++ settleOutcome body
  | .listed (.ok _) => "ok"
  | .listed (.error _) => "error"

/-- The samples of a request that was answered so. -/
def Outgoing.samples (answer : Outgoing) : Recorder :=
  [.requests answer.endpoint answer.outcome, .latency answer.timer answer.outcome]

/-! ### The labels of rejections -/

/-- The labels of the rejections that do not come from the replay cache. -/
def screenLabels : List String := [
  "invalid_version", "invalid_scheme", "invalid_network", "unknown_scheme", "invalid_payload",
  "outside_time_window", "invalid_recipient", "invalid_signature", "over_max_amount", "asset_mismatch"]

def rejectionLabels : List String := "nonce_replayed" :: screenLabels

/-- A rejection under one of these labels. -/
def Screened (error : VerifyError) : Prop := error.rejectionLabel ∈ screenLabels

section Labels

open Outcome

variable {Chain Cache : Type} [Vesl] [ErrorText] {state : AppState Chain} {req : VerifyRequest}

omit [Vesl] [ErrorText] in
theorem screened {error : VerifyError} (label : String) (spelled : error.rejectionLabel = label)
    (known : label ∈ screenLabels) : Screened error := by
  rw [Screened, spelled]
  exact known

omit [Vesl] in
theorem decodePayload_screened (payload : PaymentPayload Value) : FailsOnly Screened (decodePayload payload) :=
  failsOnly_okOr (screened "invalid_payload" rfl (by decide)) _

omit [Vesl] [ErrorText] in
theorem checkMaxAmount_screened (auth : Authorization) (req : PaymentRequirements) :
    FailsOnly Screened (checkMaxAmount auth req) := by
  refine failsOnly_bind (failsOnly_okOr ?_ _) fun value =>
    failsOnly_bind (failsOnly_okOr ?_ _) fun cap => failsOnly_ensure ?_ _
  · exact screened "invalid_payload" rfl (by decide)
  · exact screened "invalid_payload" rfl (by decide)
  · exact screened "over_max_amount" rfl (by decide)

theorem verifyNockchain_screened (payload : PaymentPayload Value) (requirements : PaymentRequirements) :
    FailsOnly Screened (verifyNockchain payload requirements) := by
  refine failsOnly_bind (decodePayload_screened payload) fun nock =>
    failsOnly_bind (failsOnly_ensure ?_ _) fun _ => failsOnly_bind (failsOnly_mapError ?_ _) fun _ =>
      failsOnly_bind (checkMaxAmount_screened _ _) fun _ => failsOnly_ensure ?_ _
  · exact screened "invalid_recipient" rfl (by decide)
  · exact fun _ => screened "invalid_signature" rfl (by decide)
  · exact screened "asset_mismatch" rfl (by decide)

theorem preDispatch_screened (registry : state.schemeRegistry = .withDefaultHandlers) :
    FailsOnly Screened (preDispatch state req) := by
  refine failsOnly_bind (failsOnly_ensure ?_ _) fun _ => failsOnly_bind (failsOnly_ensure ?_ _) fun _ =>
    failsOnly_bind (failsOnly_ensure ?_ _) fun _ => ?_
  · exact screened "invalid_version" rfl (by decide)
  · exact screened "invalid_scheme" rfl (by decide)
  · exact screened "invalid_network" rfl (by decide)
  intro error failed
  obtain missing | ⟨handler, found, failed⟩ := bind_error.mp failed
  · exact failsOnly_okOr (screened "unknown_scheme" rfl (by decide)) _ error missing
  · rw [okOr_ok, registry] at found
    obtain ⟨extracts, _, _⟩ := shared_methods found
    rw [extracts] at failed
    have extraction : FailsOnly Screened (extractNockchainAuthorization req.payload) :=
      failsOnly_bind (decodePayload_screened _) fun _ => failsOnly_pure _
    exact failsOnly_bind extraction (fun _ => failsOnly_pure _) error failed

theorem screen_screened (registry : state.schemeRegistry = .withDefaultHandlers) (now : UInt64) :
    FailsOnly Screened (screen state now req) := by
  have edge : ∀ auth : Authorization,
      Screened (.outsideTimeWindow now auth.validAfter auth.validBefore) := fun _ =>
    screened "outside_time_window" rfl (by decide)
  exact failsOnly_bind (preDispatch_screened registry) fun (_, auth) =>
    failsOnly_bind (failsOnly_bind (failsOnly_ensure (edge auth) _) fun _ => failsOnly_ensure (edge auth) _)
      fun _ => failsOnly_pure _

theorem verified_screened (registry : state.schemeRegistry = .withDefaultHandlers)
    (passed : screen state now req = .ok (handler, auth)) :
    FailsOnly Screened (handler.verify req.payload req.requirements) := by
  obtain ⟨_, _, _, found, _⟩ := preDispatch_ok_iff.mp (screen_ok_iff.mp passed).1
  rw [registry] at found
  obtain ⟨_, verifies, _⟩ := shared_methods found
  rw [verifies]
  exact verifyNockchain_screened _ _

variable [ReplayCache Cache] {cache : Cache}

/-- The labels of `/settle`, which does not look at the replay cache. -/
theorem verifyEnvelopeForSettle_screened (registry : state.schemeRegistry = .withDefaultHandlers) :
    FailsOnly Screened (verifyEnvelopeForSettle state now cache req).1 := by
  rw [verifyEnvelopeForSettle_eq]
  intro error failed
  obtain declined | ⟨⟨handler, auth⟩, passed, refused⟩ := bind_error.mp failed
  · exact screen_screened registry now error declined
  · exact verified_screened registry passed error refused

/-- The labels of `/verify`. -/
theorem verifyEnvelope_labelled (registry : state.schemeRegistry = .withDefaultHandlers)
    (failed : (verifyEnvelope state now cache req).1 = .error error) :
    error.rejectionLabel ∈ rejectionLabels := by
  cases passed : screen state now req with
  | error reason =>
    simp only [verifyEnvelope, verifyEnvelopeInner, passed] at failed
    obtain rfl := Except.error.inj failed
    exact List.mem_cons_of_mem _ (screen_screened registry now reason passed)
  | ok found =>
    obtain ⟨handler, auth⟩ := found
    simp only [verifyEnvelope, verifyEnvelopeInner, passed, checkReplay] at failed
    by_cases seen : (ReplayCache.seen cache now (replayKey auth) state.replayTtl).1 = true
    · simp only [seen, ensure, not_true, if_false] at failed
      obtain rfl := Except.error.inj failed
      exact List.mem_cons_self
    · simp only [ensure, seen] at failed
      exact List.mem_cons_of_mem _ (verified_screened registry passed error failed)

end Labels

/-! ### The metered endpoints -/

theorem chainAnswer_outcome (outcome : Except ChainError ChainSettle × Chain) :
    ((chainAnswer outcome).1.success = true ∧
        ∃ status : ChainStatus, settleOutcome (chainAnswer outcome).1 = status.asWireStr) ∨
      ((chainAnswer outcome).1.success = false ∧ settleOutcome (chainAnswer outcome).1 ∈ chainCodes) := by
  obtain ⟨error | result, chain⟩ := outcome
  · right
    refine ⟨rfl, ?_⟩
    cases error <;> simp [chainAnswer, failure, chainErrorToFacilitator, settleOutcome, chainCodes]
  · exact .inl ⟨rfl, result.status, rfl⟩

theorem settled_samples {header : Option String} {body : SettleResponse}
    (chains : body.success = true ∨ settleOutcome body ∈ chainCodes) :
    (Outgoing.paid (.settled header body)).samples = [.requests "/settle" (settleOutcome body),
      .latency Metric.settleLatencySeconds (settleOutcome body)] := by
  simp only [Outgoing.samples, Outgoing.endpoint, Outgoing.outcome, Outgoing.timer, if_pos chains]

theorem failure_outcome {header : Option String} {error : VerifyError} (screened : Screened error) :
    (Outgoing.paid (.settled header (failure error.toFacilitatorError))).outcome =
      "envelope_rejected:" ++ error.rejectionLabel := by
  have named : settleOutcome (failure error.toFacilitatorError) = error.rejectionLabel :=
    error.toFacilitatorError_code
  have apart : ∀ label ∈ screenLabels, label ∉ chainCodes := by decide
  have foreign : ¬ ((failure error.toFacilitatorError).success = true ∨
      error.rejectionLabel ∈ chainCodes) := not_or.mpr ⟨Bool.false_ne_true, apart _ screened⟩
  simp only [Outgoing.outcome, named, if_neg foreign]

section Metered

variable {Chain Cache Store : Type} [Vesl] [ErrorText] [JsonSchema] [JsonText] [Base64]
  [ReplayCache Cache] [CatalogStore Store] {state : AppState Chain} {service : Service Chain Cache Store}
  {now : UInt64} {lastUpdated : String} {req : VerifyRequest}

omit [Vesl] [JsonText] [Base64] in
theorem processMetered_measures (catalog : Store) (lastUpdated : String) (req : VerifyRequest) :
    ((processMetered catalog lastUpdated req).1.1, (processMetered catalog lastUpdated req).2) =
      process catalog lastUpdated req := by
  unfold processMetered process
  rcases readExtension req with _ | reason | ext
  · rfl
  · rfl
  · dsimp only
    cases CatalogStore.upsert catalog (catalogEntry req lastUpdated ext) <;> rfl

/-- What the catalog side of an accepted request records. -/
def cataloging (state : AppState Chain) (service : Service Chain Cache Store) : Incoming → Recorder
  | .pay arrival =>
    match (checkEnvelope state service.cache arrival).1 with
    | .ok () => (processMetered service.catalog arrival.lastUpdated arrival.req).1.2
    | .error _ => []
  | .list _ => []

theorem verifyMetered_eq : verifyMetered state now lastUpdated service req =
    (((verifyHandler state now lastUpdated service req).1,
        cataloging state service (.pay ⟨.verify, now, lastUpdated, req⟩) ++
          (Outgoing.paid (.verified none (verifyHandler state now lastUpdated service req).1.2)).samples),
      (verifyHandler state now lastUpdated service req).2) := by
  have measured := processMetered_measures service.catalog lastUpdated req
  simp only [verifyMetered, verifyHandler, cataloging, checkEnvelope, ← measured]
  rcases verifyEnvelope state now service.cache req with ⟨error | done, cache⟩
  · simp only [Outgoing.samples, Outgoing.endpoint, Outgoing.outcome, Outgoing.timer,
      VerifyError.toFacilitatorError_code]
  · rfl

theorem settleMetered_eq (registry : state.schemeRegistry = .withDefaultHandlers) :
    settleMetered state now lastUpdated service req =
    (((settleHandler state now lastUpdated service req).1,
        cataloging state service (.pay ⟨.settle, now, lastUpdated, req⟩) ++
          (Outgoing.paid (.settled none (settleHandler state now lastUpdated service req).1.2)).samples),
      (settleHandler state now lastUpdated service req).2) := by
  have measured := processMetered_measures service.catalog lastUpdated req
  have labelled : Outcome.FailsOnly Screened (verifyEnvelopeForSettle state now service.cache req).1 :=
    verifyEnvelopeForSettle_screened registry
  have passed := @verifyEnvelopeForSettle_ok_iff Chain Cache now req _ _ state service.cache ()
  simp only [settleMetered, settleHandler, cataloging, checkEnvelope, ← measured]
  rcases checked : verifyEnvelopeForSettle state now service.cache req with ⟨error | done, cache⟩
  · rw [checked] at labelled
    rw [Outgoing.samples, failure_outcome (labelled error rfl)]
    rfl
  · rw [checked] at passed
    obtain ⟨handler, auth, screened, _⟩ := passed.mp rfl
    obtain ⟨_, _, _, found, _⟩ := preDispatch_ok_iff.mp (screen_ok_iff.mp screened).1
    simp only [found]
    rw [settled_samples]
    obtain ⟨success, _⟩ | ⟨_, code⟩ := chainAnswer_outcome (handler.settle state.chain service.chain req)
    · exact .inl success
    · exact .inr code

omit [Vesl] [ReplayCache Cache] [JsonText] [Base64] [JsonSchema] [ErrorText] in
theorem listMetered_eq (catalog : Store) (params : ListParams) : listMetered catalog params =
    (listResources catalog params, (Outgoing.listed (listResources catalog params)).samples) := by
  simp only [listMetered, listResources]
  cases CatalogStore.list catalog _ <;> rfl

/-- A metered endpoint answers as it does without metrics, and what it records is what
the catalog side records and what the answer shows. -/
theorem serveMetered_eq (registry : state.schemeRegistry = .withDefaultHandlers) (incoming : Incoming) :
    serveMetered state service incoming = (((router state service incoming).1,
      cataloging state service incoming ++ (router state service incoming).1.samples),
      (router state service incoming).2) := by
  match incoming with
  | .pay ⟨.verify, now, lastUpdated, req⟩ =>
    simp only [serveMetered, router, serve, verifyMetered_eq]
    rfl
  | .pay ⟨.settle, now, lastUpdated, req⟩ =>
    simp only [serveMetered, router, serve, settleMetered_eq registry]
    rfl
  | .list params =>
    simp only [serveMetered, router, listMetered_eq, cataloging, List.nil_append]

theorem serveMetered_measures (registry : state.schemeRegistry = .withDefaultHandlers) :
    Component.Measures (serveMetered state : Component (Service Chain Cache Store) Incoming _)
      (router state) := by
  intro service incoming
  rw [serveMetered_eq registry]

omit [JsonText] [Base64] in
/-- The catalog side counts an upsert, or nothing. -/
theorem cataloging_cases (state : AppState Chain) (service : Service Chain Cache Store) (incoming : Incoming) :
    cataloging state service incoming = [] ∨
      ∃ outcome ∈ ["ok", "error"], ∃ kind ∈ ["http", "mcp"],
        cataloging state service incoming = [.upserts outcome kind] := by
  match incoming with
  | .list params => exact .inl rfl
  | .pay arrival =>
    simp only [cataloging]
    split
    · unfold processMetered
      rcases readExtension arrival.req with _ | reason | ext
      · exact .inl rfl
      · exact .inl rfl
      · right
        have kinds : discriminateKind ext.info.input ∈ ["http", "mcp"] := by
          cases ext.info.input <;> simp [discriminateKind]
        dsimp only
        cases CatalogStore.upsert service.catalog (catalogEntry arrival.req arrival.lastUpdated ext) with
        | ok next => exact ⟨"ok", by decide, _, kinds, rfl⟩
        | error context => exact ⟨"error", by decide, _, kinds, rfl⟩
    · exact .inl rfl

omit [JsonText] [Base64] in
theorem count_cataloging {series : Series} (other : ∀ outcome kind, series ≠ .upserts outcome kind) :
    (cataloging state service incoming).count series = 0 := by
  rw [List.count_eq_zero]
  intro member
  obtain empty | ⟨outcome, _, kind, _, same⟩ := cataloging_cases state service incoming
  · simp [empty] at member
  · exact other outcome kind (List.mem_singleton.mp (same ▸ member))

/-- What a counter or a histogram has of a request is told by its answer. -/
theorem count_serveMetered (registry : state.schemeRegistry = .withDefaultHandlers) (incoming : Incoming)
    {series : Series} (other : ∀ outcome kind, series ≠ .upserts outcome kind) :
    (serveMetered state service incoming).1.2.count series =
      (router state service incoming).1.samples.count series := by
  rw [serveMetered_eq registry, List.count_append, count_cataloging other, Nat.zero_add]

end Metered

theorem requests_ne_upserts (endpoint outcome label kind : String) :
    Series.requests endpoint outcome ≠ .upserts label kind := by
  simp [Series.requests, Series.upserts, Metric.requestsTotal, Metric.catalogUpsertsTotal]

theorem latency_ne_upserts (timer outcome label kind : String) :
    Series.latency timer outcome ≠ .upserts label kind := by
  simp [Series.latency, Series.upserts]

theorem count_requests (answer : Outgoing) (endpoint outcome : String) :
    answer.samples.count (.requests endpoint outcome) =
      (decide (answer.endpoint = endpoint ∧ answer.outcome = outcome)).toNat := by
  simp [Outgoing.samples, List.count_cons, Series.requests, Series.latency, Bool.toNat]

theorem count_latency (answer : Outgoing) (timer outcome : String) :
    answer.samples.count (.latency timer outcome) =
      (decide (answer.timer = timer ∧ answer.outcome = outcome)).toNat := by
  simp [Outgoing.samples, List.count_cons, Series.requests, Series.latency, Bool.toNat]

section Runs

variable {Chain Cache Store : Type} [Vesl] [ErrorText] [JsonSchema] [JsonText] [Base64]
  [ReplayCache Cache] [CatalogStore Store] {state : AppState Chain}

theorem reading_after (registry : state.schemeRegistry = .withDefaultHandlers)
    (service : Service Chain Cache Store) (recorder : Recorder) (requests : List Incoming) {series : Series}
    (other : ∀ outcome kind, series ≠ .upserts outcome kind) {reports : Outgoing → Bool}
    (told : ∀ answer : Outgoing, answer.samples.count series = (reports answer).toNat) :
    reading ((serveMetered state).recording.after (service, recorder) requests).2 series =
      reading recorder series + ((router state).answers service requests).countP reports := by
  have each : ∀ (service : Service Chain Cache Store) incoming,
      (serveMetered state service incoming).1.2.count series =
        (reports (router state service incoming).1).toNat := fun service incoming => by
    rw [count_serveMetered registry incoming other, told]
  rw [Component.recording_after, reading, List.count_append, (serveMetered_measures registry).count each]
  rfl

/-- The metrics of a facilitator with the shipped handlers tell its answers: each counter
of requests, and each histogram of latencies, goes up by the number of answers that show
its outcome. The answers and the state are those of the endpoints without metrics. -/
theorem metrics_tell_answers (registry : state.schemeRegistry = .withDefaultHandlers)
    (service : Service Chain Cache Store) (recorder : Recorder) (requests : List Incoming) :
    let answers := (router state).answers service requests
    let final := (serveMetered state).recording.after (service, recorder) requests
    (serveMetered state).recording.answers (service, recorder) requests = answers ∧
    final.1 = (router state).after service requests ∧
    (∀ endpoint outcome, reading final.2 (.requests endpoint outcome) =
      reading recorder (.requests endpoint outcome) +
        answers.countP fun answer => answer.endpoint = endpoint ∧ answer.outcome = outcome) ∧
    ∀ timer outcome, reading final.2 (.latency timer outcome) =
      reading recorder (.latency timer outcome) +
        answers.countP fun answer => answer.timer = timer ∧ answer.outcome = outcome := by
  have measures : Component.Measures (serveMetered state : Component (Service Chain Cache Store) Incoming _)
      (router state) := serveMetered_measures registry
  refine ⟨?_, ?_, fun endpoint outcome => ?_, fun timer outcome => ?_⟩
  · rw [Component.recording_answers, measures.answers]
  · rw [Component.recording_after, measures.after]
  · exact reading_after registry service recorder requests (requests_ne_upserts endpoint outcome)
      fun answer => count_requests answer endpoint outcome
  · exact reading_after registry service recorder requests (latency_ne_upserts timer outcome)
      fun answer => count_latency answer timer outcome

end Runs

/-! ### The surface -/

def verifyOutcomes : List String := "ok" :: rejectionLabels.map ("rejected:" ++ ·)

def settleOutcomes : List String := screenLabels.map ("envelope_rejected:" ++ ·) ++
  [ChainStatus.broadcast, .processing, .accepted].map ChainStatus.asWireStr ++ chainCodes

/-- The series of an endpoint with these outcomes. -/
def endpointSeries (endpoint timer : String) (outcomes : List String) : List Series :=
  outcomes.map (.requests endpoint) ++ outcomes.map (.latency timer)

/-- All series there can be. -/
def surface : List Series :=
  endpointSeries "/verify" Metric.verifyLatencySeconds verifyOutcomes ++
  endpointSeries "/settle" Metric.settleLatencySeconds settleOutcomes ++
  endpointSeries "/discovery/resources" Metric.catalogListLatencySeconds ["ok", "error"] ++
  (["http", "mcp"].map (.upserts "ok") ++ ["http", "mcp"].map (.upserts "error"))

/-- The outcomes of an endpoint bound its series. -/
theorem samples_subset {answer : Outgoing} (known : answer.outcome ∈ outcomes) :
    answer.samples ⊆ endpointSeries answer.endpoint answer.timer outcomes := by
  intro series member
  rw [Outgoing.samples, List.mem_cons, List.mem_singleton] at member
  rw [endpointSeries, List.mem_append]
  rcases member with rfl | rfl
  · exact .inl (List.mem_map_of_mem known)
  · exact .inr (List.mem_map_of_mem known)

theorem settled_outcome {header : Option String} {outcome : Except ChainError ChainSettle × Chain} :
    (Outgoing.paid (.settled header (chainAnswer outcome).1)).outcome ∈ settleOutcomes := by
  simp only [Outgoing.outcome, settleOutcomes, List.mem_append, List.mem_map]
  obtain ⟨success, status, shown⟩ | ⟨_, code⟩ := chainAnswer_outcome outcome
  · rw [if_pos (.inl success), shown]
    exact .inl (.inr ⟨status, by cases status <;> decide, rfl⟩)
  · rw [if_pos (.inr code)]
    exact .inr code

theorem failure_outcome_mem {header : Option String} {error : VerifyError} (screened : Screened error) :
    (Outgoing.paid (.settled header (failure error.toFacilitatorError))).outcome ∈ settleOutcomes := by
  rw [failure_outcome screened, settleOutcomes, List.mem_append, List.mem_append]
  exact .inl (.inl (List.mem_map_of_mem screened))

section Bounded

variable {Chain Cache Store : Type} [Vesl] [ErrorText] [JsonSchema] [JsonText] [Base64]
  [ReplayCache Cache] [CatalogStore Store] {state : AppState Chain} {service : Service Chain Cache Store}

omit [JsonSchema] [JsonText] [Base64] in
theorem verified_outcome (registry : state.schemeRegistry = .withDefaultHandlers) {cache : Cache}
    {header : Option String} :
    (Outgoing.paid (.verified header (verifyResponse (verifyEnvelope state now cache req).1))).outcome ∈
      verifyOutcomes := by
  cases checked : (verifyEnvelope state now cache req).1 with
  | ok done => exact List.mem_cons_self
  | error error =>
    simp only [verifyResponse, Outgoing.outcome, VerifyError.toFacilitatorError_code]
    exact List.mem_cons_of_mem _ (List.mem_map_of_mem (verifyEnvelope_labelled registry checked))

/-- What the answer to a request shows is on the surface. -/
theorem samples_surface (registry : state.schemeRegistry = .withDefaultHandlers) (incoming : Incoming) :
    (router state service incoming).1.samples ⊆ surface := by
  match incoming with
  | .pay ⟨.verify, now, lastUpdated, req⟩ =>
    have known : (router state service (.pay ⟨.verify, now, lastUpdated, req⟩)).1.outcome ∈ verifyOutcomes := by
      simp only [router, serve, verifyHandler_eq]
      split <;> exact verified_outcome registry
    have part : endpointSeries "/verify" Metric.verifyLatencySeconds verifyOutcomes ⊆ surface := by
      simp only [surface, List.append_assoc]
      exact List.subset_append_left _ _
    exact List.Subset.trans (samples_subset known) part
  | .pay ⟨.settle, now, lastUpdated, req⟩ =>
    have known : (router state service (.pay ⟨.settle, now, lastUpdated, req⟩)).1.outcome ∈ settleOutcomes := by
      have answered : ∀ header, (Outgoing.paid (.settled header
          (settleBody state now service.cache service.chain req).1)).outcome ∈ settleOutcomes := by
        intro header
        cases checked : (verifyEnvelopeForSettle state now service.cache req).1 with
        | error error =>
          simp only [settleBody, checked]
          exact failure_outcome_mem (verifyEnvelopeForSettle_screened registry error checked)
        | ok done =>
          rw [settleBody_verified registry checked]
          exact settled_outcome
      simp only [router, serve, settleHandler_eq]
      split <;> exact answered _
    have part : endpointSeries "/settle" Metric.settleLatencySeconds settleOutcomes ⊆ surface := by
      simp only [surface, List.append_assoc]
      exact List.subset_append_of_subset_right _ (List.subset_append_left _ _)
    exact List.Subset.trans (samples_subset known) part
  | .list params =>
    have known : (router state service (.list params)).1.outcome ∈ ["ok", "error"] := by
      cases listed : listResources service.catalog params <;>
        simp [router, listed, Outgoing.outcome]
    have part : endpointSeries "/discovery/resources" Metric.catalogListLatencySeconds ["ok", "error"] ⊆
        surface := by
      simp only [surface, List.append_assoc]
      exact List.subset_append_of_subset_right _
        (List.subset_append_of_subset_right _ (List.subset_append_left _ _))
    exact List.Subset.trans (samples_subset known) part

omit [JsonText] [Base64] in
theorem cataloging_surface (incoming : Incoming) : cataloging state service incoming ⊆ surface := by
  have upserts : ∀ outcome ∈ ["ok", "error"], ∀ kind ∈ ["http", "mcp"],
      Series.upserts outcome kind ∈ surface := by decide
  obtain empty | ⟨outcome, labelled, kind, known, same⟩ := cataloging_cases state service incoming
  · rw [empty]
    exact List.nil_subset _
  · intro series member
    obtain rfl := List.mem_singleton.mp (same ▸ member)
    exact upserts outcome labelled kind known

/-- Whatever requests arrive, the metrics of a facilitator with the shipped handlers keep
to one list of 64 series: labels carry no text of a request. -/
theorem metrics_bounded (registry : state.schemeRegistry = .withDefaultHandlers)
    (service : Service Chain Cache Store) (requests : List Incoming) :
    let recorder := ((serveMetered state).recording.after (service, []) requests).2
    (∀ series ∈ recorder, series ∈ surface) ∧ recorder.dedup.length ≤ 64 := by
  have within : ∀ series ∈ ((serveMetered state).recording.after (service, []) requests).2,
      series ∈ surface := by
    rw [Component.recording_after, List.nil_append]
    refine Component.samples_within (fun service incoming => ?_) service requests
    rw [serveMetered_eq registry]
    exact List.append_subset.mpr ⟨cataloging_surface incoming, samples_surface registry incoming⟩
  refine ⟨within, ?_⟩
  have few := (List.nodup_dedup _).subperm (List.Subset.trans (List.dedup_subset _) within)
  exact few.length_le

omit [JsonText] [Base64] in
/-- A row that is written is counted under its kind. -/
theorem cataloging_written [JsonText] [Base64] (state : AppState Chain) (service : Service Chain Cache Store)
    (incoming : Incoming) :
    (router state service incoming).2.catalog = service.catalog ∨
      ∃ row, CatalogStore.upsert service.catalog row = .ok (router state service incoming).2.catalog ∧
        cataloging state service incoming = [.upserts "ok" row.kind] := by
  match incoming with
  | .list params => exact .inl rfl
  | .pay arrival =>
    change (Facilitator.serve state service arrival).2.catalog = _ ∨ ∃ row, CatalogStore.upsert service.catalog row =
      .ok (Facilitator.serve state service arrival).2.catalog ∧ _
    cases checked : (checkEnvelope state service.cache arrival).1 with
    | error error =>
      left
      rw [serve_refused checked]
    | ok done =>
      have passes : Passes state service arrival := checked
      simp only [serve_catalog passes, cataloging, checked, process, processMetered]
      rcases readExtension arrival.req with _ | reason | ext
      · exact .inl rfl
      · exact .inl rfl
      · dsimp only
        cases stored : CatalogStore.upsert service.catalog (catalogEntry arrival.req arrival.lastUpdated ext) with
        | ok next => exact .inr ⟨_, stored, rfl⟩
        | error context => exact .inl rfl

end Bounded

section Rows

variable {Chain Cache Store : Type} [Vesl] [ErrorText] [JsonSchema] [JsonText] [Base64]
  [ReplayCache Cache] [CatalogRows Store] {state : AppState Chain}

/-- The rows of a kind are no more than its upserts have been counted. -/
def RowsCounted (metered : Service Chain Cache Store × Recorder) : Prop :=
  ∃ rows, CatalogRows.Holds metered.1.catalog rows ∧
    ∀ kind, (rows.map DiscoveryResource.key).countP (·.2 = kind) ≤ reading metered.2 (.upserts "ok" kind)

theorem rowsCounted_step (registry : state.schemeRegistry = .withDefaultHandlers)
    {metered : Service Chain Cache Store × Recorder} (incoming : Incoming) (counted : RowsCounted metered) :
    RowsCounted ((serveMetered state).recording metered incoming).2 := by
  obtain ⟨service, recorder⟩ := metered
  obtain ⟨rows, holds, counted⟩ := counted
  have step : ((serveMetered state).recording (service, recorder) incoming).2 =
      ((router state service incoming).2, recorder ++ (cataloging state service incoming ++
        (router state service incoming).1.samples)) := by
    rw [Component.recording, serveMetered_eq registry]
  rw [step]
  obtain same | ⟨row, stored, sample⟩ := cataloging_written state service incoming
  · refine ⟨rows, by rw [same]; exact holds, fun kind => ?_⟩
    rw [reading, List.count_append]
    exact Nat.le_add_right_of_le (counted kind)
  · refine ⟨_, CatalogRows.holds_upsert holds stored, fun kind => ?_⟩
    rw [reading, List.count_append, List.count_append, sample]
    have before := counted kind
    have sampled : (decide (row.kind = kind)).toNat ≤ [Series.upserts "ok" row.kind].count (.upserts "ok" kind) := by
      by_cases same : row.kind = kind
      · simp [same]
      · simp [same]
    calc ((KeyedStore.upsert DiscoveryResource.key rows row).map DiscoveryResource.key).countP (·.2 = kind)
      _ ≤ (rows.map DiscoveryResource.key).countP (·.2 = kind) + (decide (row.kind = kind)).toNat :=
        KeyedStore.countP_keys_upsert rows row _
      _ ≤ recorder.count (.upserts "ok" kind) + [Series.upserts "ok" row.kind].count (.upserts "ok" kind) :=
        Nat.add_le_add before sampled
      _ ≤ _ := Nat.add_le_add_left (Nat.le_add_right _ _) _

/-- Every row of a catalog that started empty was counted when it was written: there are
no more rows of a kind than the counter of its upserts has come to. -/
theorem rows_counted (registry : state.schemeRegistry = .withDefaultHandlers)
    {start : Service Chain Cache Store} (empty : CatalogRows.Holds start.catalog [])
    (requests : List Incoming) :
    RowsCounted ((serveMetered state).recording.after (start, []) requests) := by
  have begun : RowsCounted (start, ([] : Recorder)) := ⟨[], empty, fun _ => Nat.le_refl 0⟩
  exact Component.after_keeps (fun incoming counted => rowsCounted_step registry incoming counted) requests begun

end Rows

/-! ### A payment that is presented twice -/

namespace Transparent

open Crypto.Transparent Wallet.Transparent Wallet

attribute [local instance] transparent transparent_lawful plainErrors plainSchemas plainText spelledBase64

def presented : Incoming := .pay ⟨.verify, 1100, "now", listing⟩

theorem presented_outcome {service : Service Unit RecordLog InMemoryCatalogStore}
    (checked : (verifyEnvelope facilitator 1100 service.cache listing).1 = outcome) :
    ∃ header, (router facilitator service presented).1 = .paid (.verified header (verifyResponse outcome)) := by
  simp only [presented, router, serve, verifyHandler_eq, checked]
  split <;> exact ⟨_, rfl⟩

theorem presented_twice : ∃ nonce header header',
    (router facilitator).answers opened [presented, presented] =
      [.paid (.verified header (verifyResponse (.ok ()))),
        .paid (.verified header' (verifyResponse (.error (.nonceReplayed nonce))))] := by
  have accepted : (verifyEnvelope facilitator 1100 opened.cache listing).1 = .ok () := listing_passes
  obtain ⟨nonce, again⟩ := verifyEnvelope_again accepted
  have left : (router facilitator opened presented).2.cache =
      (verifyEnvelope facilitator 1100 opened.cache listing).2 :=
    @serve_cache Unit RecordLog InMemoryCatalogStore _ _ _ _ _ _ _ facilitator opened ⟨.verify, 1100, "now", listing⟩
  rw [← left] at again
  obtain ⟨header, first⟩ := presented_outcome accepted
  obtain ⟨header', second⟩ := presented_outcome again
  exact ⟨nonce, header, header', by rw [Component.answers, Component.answers, first, second]; rfl⟩

/-- The second request is counted as a replay. -/
theorem metrics_tell_answers_twice :
    let final := (serveMetered facilitator).recording.after (opened, []) [presented, presented]
    reading final.2 (.requests "/verify" "ok") = 1 ∧
      reading final.2 (.requests "/verify" "rejected:nonce_replayed") = 1 := by
  have registry : facilitator.schemeRegistry = .withDefaultHandlers := rfl
  obtain ⟨_, _, counters, _⟩ := metrics_tell_answers registry opened [] [presented, presented]
  obtain ⟨nonce, header, header', answers⟩ := presented_twice
  dsimp only
  rw [counters, counters, answers]
  exact ⟨rfl, rfl⟩

theorem metrics_bounded_twice :
    ((serveMetered facilitator).recording.after (opened, []) [presented, presented]).2.dedup.length ≤ 64 := by
  have registry : facilitator.schemeRegistry = .withDefaultHandlers := rfl
  exact (metrics_bounded registry opened [presented, presented]).2

/-- The row of the payment was counted. -/
theorem rows_counted_listing :
    1 ≤ reading ((serveMetered facilitator).recording.after (opened, []) [presented]).2 (.upserts "ok" "http") := by
  have registry : facilitator.schemeRegistry = .withDefaultHandlers := rfl
  have empty : CatalogRows.Holds opened.catalog [] := rfl
  obtain ⟨rows, holds, counted⟩ := rows_counted registry empty [presented]
  have reached : ((serveMetered facilitator).recording.after (opened, []) [presented]).1 =
      (router facilitator).after opened [presented] := by
    rw [Component.recording_after, (serveMetered_measures registry).after]
  rw [reached] at holds
  have same : rows = [catalogEntry listing "now" weather] := holds.symm.trans listing_cataloged
  have counted := counted "http"
  rw [same] at counted
  exact counted

end Transparent

end X402Nockchain.Facilitator
