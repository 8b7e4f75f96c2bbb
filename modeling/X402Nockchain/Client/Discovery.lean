import X402Nockchain.Client.DiscoveryQuery
import X402Nockchain.Facilitator.HeaderTruth

/-! `BazaarClient::list_resources` against a facilitator: what a client lists is what
was paid for. -/

namespace X402Nockchain.Client

open Foundation Foundation.Serde X402Types Crypto Facilitator
open Storage (CatalogStore CatalogHistory Reference.list SqliteCatalogStore InMemoryCatalogStore)

/-- The wording of the HTTP libraries: of a status, of the refusal of a query, and of the
failure to decode a body. -/
class HttpText where
  status : Nat → String
  queryRefused : String → String
  undecodable : String → String

section Wire

variable [HttpText] [JsonText]

/-- What `list_resources` of the facilitator turns into. -/
def listReply : Except AppError DiscoveryResourcesResponse → HttpResponse
  | .ok response => { status := 200, body := toText response }
  | .error e => e.intoResponse

/-- `GET /discovery/resources`, from the query of its URL to the response. -/
def discoveryEndpoint [CatalogStore Store] (catalog : Store) (query : Option String) : HttpResponse :=
  match readListParams query with
  | none => { status := 400, body := HttpText.queryRefused (query.getD "") }
  | some params => listReply (Facilitator.listResources catalog params)

/-- The client, with what answers a `GET` of `/discovery/resources` at its base URL. -/
structure BazaarClient where
  get : Option String → HttpResponse

/-- An error is the text that `anyhow` reports. -/
def BazaarClient.listResources (client : BazaarClient) (params : ListDiscoveryResourcesParams) :
    Except String DiscoveryResourcesResponse :=
  let resp := client.get (listQuery params)
  if 200 ≤ resp.status ∧ resp.status < 300 then
    okOr (HttpText.undecodable resp.body) (fromText resp.body)
  else .error s!"BazaarClient::list_resources failed ({HttpText.status resp.status}): {resp.body}"

/-- The parameters as the facilitator has them. -/
def rereadParams (params : ListDiscoveryResourcesParams) : ListDiscoveryResourcesParams where
  kind := params.kind.map reread
  limit := params.limit
  offset := params.offset
  network := params.network.map reread
  scheme := params.scheme.map reread

omit [HttpText] [JsonText] in
theorem rereadParams_eq_iff (params : ListDiscoveryResourcesParams) :
    rereadParams params = params ↔ AsciiTexts params := by
  obtain ⟨kind, limit, offset, network, scheme⟩ := params
  rw [rereadParams, ListDiscoveryResourcesParams.mk.injEq, map_reread_iff, map_reread_iff, map_reread_iff]
  constructor
  · rintro ⟨kind, _, _, network, scheme⟩
    exact ⟨kind, network, scheme⟩
  · rintro ⟨kind, network, scheme⟩
    exact ⟨kind, rfl, rfl, network, scheme⟩

/-- The listing of a history of upserts. -/
def directory (history : List DiscoveryResource) (params : ListDiscoveryResourcesParams) :
    DiscoveryResourcesResponse where
  x402Version := 2
  items := (Reference.list history params).1
  pagination := {
    limit := params.limit.getD 50
    offset := params.offset.getD 0
    total := (Reference.list history params).2 }

/-- `serde_json` reads a response back from its text. -/
def Delivered (response : DiscoveryResourcesResponse) : Prop :=
  JsonText.parse (JsonText.print (toValue response)) = some (toValue response)

omit [HttpText] [JsonText] in
/-- The endpoint fills in the defaults that the store would fill in. -/
theorem list_defaults (history : List DiscoveryResource) (params : ListDiscoveryResourcesParams) :
    Reference.list history { params with
      limit := some (params.limit.getD defaultLimit)
      offset := some (params.offset.getD 0) } = Reference.list history params := by
  rw [← Storage.answerPage_catalog, ← Storage.answerPage_catalog]
  rfl

omit [HttpText] [JsonText] in
theorem listResources_history [CatalogHistory Store] {catalog : Store}
    (keeps : CatalogHistory.Keeps catalog history) (params : ListDiscoveryResourcesParams) :
    Facilitator.listResources catalog (asListParams params) = .ok (directory history params) := by
  rw [directory, ← list_defaults]
  simp only [Facilitator.listResources, CatalogHistory.list_keeps _ keeps, Outcome.mapError_of_ok, Outcome.ok_bind]
  rfl

/-- A client never has its query refused. -/
theorem endpoint_listQuery [CatalogStore Store] (catalog : Store) (params : ListDiscoveryResourcesParams) :
    discoveryEndpoint catalog (listQuery params) =
      listReply (Facilitator.listResources catalog (asListParams (rereadParams params))) := by
  rw [discoveryEndpoint, readListParams_listQuery]
  rfl

/-- A readable listing of entries that came as JSON is what the client has of its text. -/
theorem client_reads {history : List DiscoveryResource} (explicit : ∀ entry ∈ history, entry.Explicit)
    (delivered : Delivered (directory history params)) (get : Option String → HttpResponse)
    (answers : get (listQuery asked) = listReply (.ok (directory history params))) :
    BazaarClient.listResources ⟨get⟩ asked = .ok (directory history params) := by
  have items : ∀ item ∈ (directory history params).items, item.Explicit := by
    intro item member
    have found := List.mem_of_mem_drop (List.mem_of_mem_take member)
    exact explicit item (KeyedStore.mem_of_rows (List.mem_filter.mp found).1)
  have decoded : fromText (toText (directory history params)) = some (directory history params) := by
    rw [fromText, toText, delivered, Option.bind_some, DiscoveryResourcesResponse.fromValue_toValue items]
  simp only [BazaarClient.listResources, answers, listReply, decoded, okOr]
  rfl

end Wire

/-! ### What a facilitator lists -/

section Services

variable {Chain Cache Store : Type} [Vesl] [ErrorText] [JsonSchema] [JsonText] [Base64] [ReplayCache Cache]
  {state : AppState Chain}

/-- The row of a request whose extension is valid. -/
def rowOf (lastUpdated : String) (req : VerifyRequest) : List DiscoveryResource :=
  match readExtension req with
  | some (.ok ext) => [catalogEntry req lastUpdated ext]
  | _ => []

/-- The row of an arrival that is accepted. -/
def entryOf (state : AppState Chain) (service : Service Chain Cache Store) (arrival : Arrival) :
    List DiscoveryResource :=
  match (checkEnvelope state service.cache arrival).1 with
  | .ok () => rowOf arrival.lastUpdated arrival.req
  | .error _ => []

/-- What a sequence of arrivals upserts. -/
def entries [CatalogStore Store] (state : AppState Chain) : Service Chain Cache Store → List Arrival →
    List DiscoveryResource :=
  (Facilitator.serve state).written (entryOf state)

omit [Vesl] [JsonText] [Base64] [ReplayCache Cache] in
theorem mem_rowOf : row ∈ rowOf lastUpdated req ↔
    ∃ ext, readExtension req = some (.ok ext) ∧ row = catalogEntry req lastUpdated ext := by
  unfold rowOf
  obtain _ | ⟨error | ext⟩ := readExtension req <;> simp

omit [JsonText] [Base64] in
theorem mem_entryOf {service : Service Chain Cache Store} {arrival : Arrival} :
    row ∈ entryOf state service arrival ↔
      Passes state service arrival ∧ row ∈ rowOf arrival.lastUpdated arrival.req := by
  unfold entryOf Passes
  cases (checkEnvelope state service.cache arrival).1 with
  | error error => simp
  | ok done => simp

variable [CatalogHistory Store]

/-- A request came as JSON, and the store gives its row back. -/
structure Listable (Store : Type) [CatalogHistory Store] (lastUpdated : String) (req : VerifyRequest) : Prop where
  decoded : ∃ document : Value, fromValue document = some req
  given : ∀ ext, readExtension req = some (.ok ext) →
    CatalogHistory.GivesBack Store (catalogEntry req lastUpdated ext)

omit [Vesl] [JsonText] [Base64] [ReplayCache Cache] in
theorem process_keeps {catalog : Store} (listable : Listable Store lastUpdated req)
    (keeps : CatalogHistory.Keeps catalog history) :
    CatalogHistory.Keeps (process catalog lastUpdated req).2 (history ++ rowOf lastUpdated req) := by
  cases read : readExtension req with
  | none => simpa only [rowOf, process, read, List.append_nil] using keeps
  | some outcome =>
    cases outcome with
    | error reason => simpa only [rowOf, process, read, List.append_nil] using keeps
    | ok ext =>
      obtain ⟨next, stored, keeps'⟩ := CatalogHistory.upsert_keeps (listable.given ext read) keeps
      simpa only [rowOf, process, read, stored] using keeps'

theorem serve_keeps {service : Service Chain Cache Store} (arrival : Arrival)
    (listable : Listable Store arrival.lastUpdated arrival.req)
    (keeps : CatalogHistory.Keeps service.catalog history) :
    CatalogHistory.Keeps (Facilitator.serve state service arrival).2.catalog
      (history ++ entryOf state service arrival) := by
  cases checked : (checkEnvelope state service.cache arrival).1 with
  | error error =>
    rw [serve_refused checked, entryOf, checked, List.append_nil]
    exact keeps
  | ok done =>
    have passes : Passes state service arrival := checked
    rw [serve_catalog passes, entryOf, checked]
    exact process_keeps listable keeps

omit [Vesl] [JsonText] [Base64] [ReplayCache Cache] in
/-- The row of a request that came as JSON can be sent on as JSON. -/
theorem explicit_rowOf (listable : Listable Store lastUpdated req) (member : row ∈ rowOf lastUpdated req) :
    row.Explicit := by
  obtain ⟨ext, _, rfl⟩ := mem_rowOf.mp member
  obtain ⟨document, decoded⟩ := listable.decoded
  refine ⟨fun option own => ?_, fun null => ?_⟩
  · rw [List.mem_singleton.mp own]
    exact VerifyRequest.explicit_of_fromValue decoded
  · exact Struct.toValue_ne_null ext.info (Option.some.inj null)

/-- After any arrivals, a client has the listing of the history that they add to. -/
theorem lists_after [HttpText] {start : Service Chain Cache Store} {history : List DiscoveryResource}
    (keeps : CatalogHistory.Keeps start.catalog history) (explicit : ∀ entry ∈ history, entry.Explicit)
    {arrivals : List Arrival} (listable : ∀ arrival ∈ arrivals, Listable Store arrival.lastUpdated arrival.req)
    (delivered : Delivered (directory (history ++ entries state start arrivals) (rereadParams params))) :
    BazaarClient.listResources ⟨discoveryEndpoint ((Facilitator.serve state).after start arrivals).catalog⟩ params =
      .ok (directory (history ++ entries state start arrivals) (rereadParams params)) := by
  have keeps : CatalogHistory.Keeps ((Facilitator.serve state).after start arrivals).catalog
      (history ++ entries state start arrivals) :=
    Component.after_written (fun service : Service Chain Cache Store => CatalogHistory.Keeps service.catalog)
      serve_keeps keeps listable
  have answers : discoveryEndpoint ((Facilitator.serve state).after start arrivals).catalog (listQuery params) =
      listReply (.ok (directory (history ++ entries state start arrivals) (rereadParams params))) := by
    rw [endpoint_listQuery, listResources_history keeps]
  refine client_reads (fun row member => ?_) delivered _ answers
  obtain old | new := List.mem_append.mp member
  · exact explicit row old
  · obtain ⟨before, arrival, later, rfl, own⟩ := Component.mem_written_iff.mp new
    exact explicit_rowOf (listable arrival (List.mem_append_right _ List.mem_cons_self)) (mem_entryOf.mp own).2

/-- What a client lists is what was paid for: whatever `/verify` and `/settle` requests
were served, the client has the rows of those that were accepted with a valid
extension, under the parameters as they were read, which are its own if they are ASCII. -/
theorem discovery_delivers [HttpText] (state : AppState Chain) {start : Service Chain Cache Store}
    (empty : CatalogHistory.Keeps start.catalog []) {arrivals : List Arrival}
    (listable : ∀ arrival ∈ arrivals, Listable Store arrival.lastUpdated arrival.req)
    (params : ListDiscoveryResourcesParams) :
    (Delivered (directory (entries state start arrivals) (rereadParams params)) →
      BazaarClient.listResources ⟨discoveryEndpoint ((Facilitator.serve state).after start arrivals).catalog⟩ params =
        .ok (directory (entries state start arrivals) (rereadParams params))) ∧
    (rereadParams params = params ↔ AsciiTexts params) ∧
    ∀ row, row ∈ entries state start arrivals ↔ ∃ before arrival later ext,
      arrivals = before ++ arrival :: later ∧ Passes state ((Facilitator.serve state).after start before) arrival ∧
      readExtension arrival.req = some (.ok ext) ∧ row = catalogEntry arrival.req arrival.lastUpdated ext := by
  have origins (row) : row ∈ entries state start arrivals ↔ ∃ before arrival later,
      arrivals = before ++ arrival :: later ∧
        row ∈ entryOf state ((Facilitator.serve state).after start before) arrival := Component.mem_written_iff
  refine ⟨fun delivered => ?_, rereadParams_eq_iff params, fun row => ?_⟩
  · exact lists_after empty (List.forall_mem_nil _) listable delivered
  · rw [origins]
    constructor
    · rintro ⟨before, arrival, later, split, own⟩
      obtain ⟨passes, written⟩ := mem_entryOf.mp own
      obtain ⟨ext, read, same⟩ := mem_rowOf.mp written
      exact ⟨before, arrival, later, ext, split, passes, read, same⟩
    · rintro ⟨before, arrival, later, ext, split, passes, read, same⟩
      exact ⟨before, arrival, later, split, mem_entryOf.mpr ⟨passes, mem_rowOf.mpr ⟨ext, read, same⟩⟩⟩

end Services

/-! ### One payment, listed -/

namespace Transparent

open Crypto.Transparent Wallet Wallet.Transparent Facilitator.Transparent

attribute [local instance] transparent transparent_lawful plainErrors plainSchemas plainSchemas_lawful spelledBase64

@[reducible] def plainHttp : HttpText where
  status := toString
  queryRefused := id
  undecodable := id

/-- What the client asks for. -/
def plainGets : ListDiscoveryResourcesParams := { kind := some "http", limit := some 5 }

def weatherEntry : DiscoveryResource := catalogEntry listing "now" weather

/-- The documents that the store and the endpoint write. -/
def carriedDocuments : List Value :=
  [toValue [listing.requirements], toValue weather.info, toValue (directory [weatherEntry] plainGets)]

@[reducible] def carriedText : JsonText where
  print := compact
  parse text := carriedDocuments.find? fun value => compact value = text

attribute [local instance] plainHttp carriedText

theorem carried_readBack (member : value ∈ carriedDocuments) : JsonText.parse (JsonText.print value) = some value := by
  have distinct : (carriedDocuments.map compact).Nodup := by decide
  change (carriedDocuments.find? fun other => compact other = compact value) = some value
  rw [← List.head?_filter, KeyedStore.filter_key_of_mem distinct member]
  rfl

def paidOnce : List Arrival := [⟨.verify, 1100, "now", listing⟩]

theorem entries_paidOnce [CatalogStore Store] {service : Service Unit RecordLog Store} (fresh : service.cache = {}) :
    entries facilitator service paidOnce = [weatherEntry] := by
  have accepted : (checkEnvelope facilitator ({} : RecordLog) ⟨.verify, 1100, "now", listing⟩).1 = .ok () :=
    listing_passes
  rw [entries, paidOnce, Component.written, Component.written, List.append_nil, entryOf, fresh, accepted]
  simp only [rowOf, listing_read]
  rfl

theorem listable_paidOnce [CatalogHistory Store] (given : CatalogHistory.GivesBack Store weatherEntry) :
    ∀ arrival ∈ paidOnce, Listable Store arrival.lastUpdated arrival.req := by
  intro arrival member
  obtain rfl := List.mem_singleton.mp member
  refine ⟨⟨_, VerifyRequest.fromValue_toValue_withoutNulls listing⟩, fun ext read => ?_⟩
  obtain rfl : weather = ext := by simpa using listing_read.symm.trans read
  exact given

/-- Once `listing` was accepted, a client has its row of a facilitator over `Store`. -/
def ListsOnce [CatalogHistory Store] (service : Service Unit RecordLog Store) : Prop :=
  BazaarClient.listResources ⟨discoveryEndpoint ((Facilitator.serve facilitator).after service paidOnce).catalog⟩
    plainGets = .ok (directory [weatherEntry] plainGets)

/-- Over both stores, the client lists the one resource that was paid for. -/
theorem discovery_delivers_weather : ListsOnce opened ∧ ListsOnce openedTable := by
  have ascii : rereadParams plainGets = plainGets := by
    have kept : reread "http" = "http" := by decide
    rw [rereadParams, plainGets, Option.map_some, kept]
    rfl
  have delivered : Delivered (directory [weatherEntry] plainGets) := carried_readBack (by simp [carriedDocuments])
  have texts : Storage.GivenBack weatherEntry := by
    refine ⟨carried_readBack (by simp [carriedDocuments, weatherEntry, catalogEntry]), fun value found => ?_, ?_⟩
    · obtain rfl : toValue weather.info = value := Option.some.inj found
      exact carried_readBack (by simp [carriedDocuments])
    · intro option member
      rw [List.mem_singleton.mp member]
      exact VerifyRequest.explicit_of_fromValue (VerifyRequest.fromValue_toValue_withoutNulls listing)
  constructor
  · have empty : CatalogHistory.Keeps opened.catalog [] := rfl
    have lists := (discovery_delivers facilitator empty (listable_paidOnce trivial) plainGets).1
    rw [entries_paidOnce rfl, ascii] at lists
    exact lists delivered
  · have empty : CatalogHistory.Keeps openedTable.catalog [] := Storage.SqliteCatalogStore.represents_new
    have lists := (discovery_delivers facilitator empty (listable_paidOnce texts) plainGets).1
    rw [entries_paidOnce rfl, ascii] at lists
    exact lists delivered

end Transparent

end X402Nockchain.Client
