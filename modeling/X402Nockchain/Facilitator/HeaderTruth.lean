import X402Nockchain.Client.ExtensionHeader
import X402Nockchain.Facilitator.CatalogProvenance
import X402Nockchain.Facilitator.PageWalk

/-! What the header of a `/verify` tells the client about its extension, beside the
catalog that the answer leaves. -/

namespace X402Nockchain.Facilitator

open Foundation Foundation.Serde X402Types Crypto Storage
open Client (Legible Reports reports_iff)

/-- The payment echoes a `bazaar` extension. -/
def Echoes (req : VerifyRequest) : Prop :=
  ∃ extMap bazaarVal, req.payload.extensions = some extMap ∧ extMap.lookup "bazaar" = some bazaarVal

/-- The listing in which an extension should be found. -/
def advertised (req : VerifyRequest) (ext : BazaarExtension) : ListParams where
  kind := some (discriminateKind ext.info.input)
  network := some req.requirements.network
  scheme := some req.requirements.scheme

/-- One item of its resource is there over all pages, with what the request said. -/
structure ListedOnce [CatalogPages Store] (catalog : Store) (req : VerifyRequest) (ext : BazaarExtension) :
    Prop where
  once : ∀ limit pages final,
    Machine.run (walkStep (advertised req ext) limit) { catalog } (List.replicate pages .list) = some final →
    final.finished = true → ∃ item,
      final.received.filter (fun item => item.resource = req.requirements.resource) = [item] ∧
      item.accepts = [req.requirements] ∧ item.metadata = some (toValue ext.info)
  ends : (CatalogPages.keys catalog).length < 2 ^ 32 → ∀ limit, 0 < limit → ∃ pages final,
    Machine.run (walkStep (advertised req ext) limit) { catalog } (List.replicate pages .list) = some final ∧
    final.finished = true

section Listing

variable {req : VerifyRequest} {ext : BazaarExtension} {lastUpdated : String}

theorem displays_catalogEntry (req : VerifyRequest) (lastUpdated : String) (ext : BazaarExtension) :
    Displays (advertised req ext) (catalogEntry req lastUpdated ext) where
  kind := by simp [advertised, catalogEntry]
  network := by simp [advertised, catalogEntry]
  scheme := by simp [advertised, catalogEntry]

/-- Right after its upsert, the entry is all that the listing shows of its resource. -/
theorem shown_catalogEntry (history : List DiscoveryResource) :
    (shown (advertised req ext) (history ++ [catalogEntry req lastUpdated ext])).filter
      (fun item => item.resource = req.requirements.resource) = [catalogEntry req lastUpdated ext] := by
  have displays := displays_catalogEntry req lastUpdated ext
  have resource : (catalogEntry req lastUpdated ext).resource = req.requirements.resource := rfl
  have kind : (catalogEntry req lastUpdated ext).kind = discriminateKind ext.info.input := rfl
  generalize catalogEntry req lastUpdated ext = entry at displays resource kind ⊢
  have unique : ((catalog (history ++ [entry])).map DiscoveryResource.key).Nodup := KeyedStore.rows_unique _
  have member : entry ∈ catalog (history ++ [entry]) := by
    rw [catalog, KeyedStore.rows_append]
    exact KeyedStore.mem_upsert _ _
  have same : (shown (advertised req ext) (history ++ [entry])).filter
      (fun item => item.resource = req.requirements.resource) =
      ((catalog (history ++ [entry])).filter fun item => item.key = entry.key).filter
        (Displays (advertised req ext)) := by
    rw [shown, List.filter_filter, List.filter_filter]
    apply List.filter_congr
    intro item _
    rw [← Bool.decide_and, ← Bool.decide_and, decide_eq_decide]
    constructor
    · rintro ⟨named, shown⟩
      exact ⟨shown, Prod.ext (named.trans resource.symm) ((shown.kind _ rfl).trans kind.symm)⟩
    · rintro ⟨shown, same⟩
      exact ⟨(congrArg Prod.fst same).trans resource, shown⟩
  rw [same, KeyedStore.filter_key_of_mem unique member]
  exact List.filter_eq_self.mpr fun row inside => decide_eq_true (List.mem_singleton.mp inside ▸ displays)

/-- Right after its upsert, an extension is listed once. -/
theorem listedOnce [CatalogHistory Store] {catalog : Store}
    (keeps : CatalogHistory.Keeps catalog (history ++ [catalogEntry req lastUpdated ext])) :
    ListedOnce catalog req ext where
  once := by
    intro limit pages final reached finished
    rw [walk_at_rest keeps reached finished]
    exact ⟨_, shown_catalogEntry history, rfl, rfl⟩
  ends := by
    intro few limit positive
    rw [CatalogHistory.keeps_keys keeps, List.length_map] at few
    exact walk_ends (UInt32.lt_iff_toNat_lt.mp positive) (Nat.lt_of_le_of_lt (List.length_filter_le _ _) few)
      ⟨keeps, Walked.begin _⟩ rfl

end Listing

section Headers

variable {Chain Cache Store : Type} [Vesl] [ErrorText] [JsonSchema] [JsonText] [Base64] [ReplayCache Cache]

/-- The header of an answer to a `/verify` tells the truth about its extension. -/
structure HeaderTruth [CatalogPages Store] (state : AppState Chain) (now : UInt64) (lastUpdated : String)
    (service : Service Chain Cache Store) (req : VerifyRequest) : Prop where
  refused : ∀ error, (verifyEnvelope state now service.cache req).1 = .error error →
    (verifyHandler state now lastUpdated service req).1.1 = none
  present : (verifyEnvelope state now service.cache req).1 = .ok () →
    ((verifyHandler state now lastUpdated service req).1.1.isSome ↔ Echoes req)
  told : (verifyEnvelope state now service.cache req).1 = .ok () → ∀ response,
    (Reports (verifyHandler state now lastUpdated service req).1.1 response ↔
      (process service.catalog lastUpdated req).1 = some response)
  listed : (verifyEnvelope state now service.cache req).1 = .ok () → ∀ response,
    Reports (verifyHandler state now lastUpdated service req).1.1 response → response.status = .success →
      ∃ ext, readExtension req = some (.ok ext) ∧
        ListedOnce (verifyHandler state now lastUpdated service req).2.catalog req ext
  untouched : (verifyEnvelope state now service.cache req).1 = .ok () → ∀ response,
    Reports (verifyHandler state now lastUpdated service req).1.1 response → response.status = .rejected →
      (verifyHandler state now lastUpdated service req).2.catalog = service.catalog

omit [Vesl] [JsonText] [Base64] [ReplayCache Cache] in
theorem readExtension_isSome_iff (req : VerifyRequest) : (readExtension req).isSome ↔ Echoes req := by
  simp only [readExtension, Option.bind_eq_bind, Option.pure_def, Option.isSome_iff_exists, Option.bind_eq_some_iff,
    Option.some.injEq, Echoes]
  constructor
  · rintro ⟨_, extMap, extensions, bazaarVal, found, _⟩
    exact ⟨extMap, bazaarVal, extensions, found⟩
  · rintro ⟨extMap, bazaarVal, extensions, found⟩
    exact ⟨_, extMap, extensions, bazaarVal, found, rfl⟩

omit [Vesl] [JsonText] [Base64] [ReplayCache Cache] in
/-- There is an outcome for every extension that is echoed. -/
theorem process_isSome_iff [CatalogStore Store] (catalog : Store) (lastUpdated : String) (req : VerifyRequest) :
    (process catalog lastUpdated req).1.isSome ↔ Echoes req := by
  rw [← readExtension_isSome_iff, process]
  cases readExtension req with
  | none => rfl
  | some read =>
    cases read with
    | error reason => exact iff_of_true rfl rfl
    | ok ext =>
      refine iff_of_true ?_ rfl
      dsimp only
      split <;> rfl

variable {state : AppState Chain} {now : UInt64} {lastUpdated : String} {req : VerifyRequest}

/-- The header of an accepted request, and the catalog after it, come from `process`. -/
theorem verifyHandler_accepted [CatalogStore Store] {service : Service Chain Cache Store}
    (accepted : (verifyEnvelope state now service.cache req).1 = .ok ()) :
    (verifyHandler state now lastUpdated service req).1.1 =
        (process service.catalog lastUpdated req).1.map encodeHeaderValue ∧
      (verifyHandler state now lastUpdated service req).2.catalog =
        (process service.catalog lastUpdated req).2 := by
  rw [verifyHandler_eq]
  simp only [accepted, and_self]

omit [Vesl] [JsonText] [Base64] [ReplayCache Cache] in
/-- A success is reported of an extension that the catalog then lists once. -/
theorem process_listed [CatalogHistory Store] {catalog : Store} (keeps : CatalogHistory.Keeps catalog history)
    (given : ∀ ext, readExtension req = some (.ok ext) →
      CatalogHistory.GivesBack Store (catalogEntry req lastUpdated ext))
    (processed : (process catalog lastUpdated req).1 = some response) (success : response.status = .success) :
    ∃ ext, readExtension req = some (.ok ext) ∧ ListedOnce (process catalog lastUpdated req).2 req ext := by
  obtain ⟨_, ext, next, read, stored⟩ | ⟨rejects, _⟩ := process_status processed
  · obtain ⟨next', stored', keeps'⟩ := CatalogHistory.upsert_keeps (given ext read) keeps
    have written : (process catalog lastUpdated req).2 = next' := by simp only [process, read, stored']
    rw [written]
    exact ⟨ext, read, listedOnce keeps'⟩
  · cases success.symm.trans rejects

theorem headerTruth [CatalogHistory Store] [LawfulBase64] {service : Service Chain Cache Store}
    (keeps : CatalogHistory.Keeps service.catalog history)
    (given : ∀ ext, readExtension req = some (.ok ext) →
      CatalogHistory.GivesBack Store (catalogEntry req lastUpdated ext))
    (legible : ∀ response, (process service.catalog lastUpdated req).1 = some response → Legible response) :
    HeaderTruth state now lastUpdated service req := by
  have told (accepted : (verifyEnvelope state now service.cache req).1 = .ok ()) (response) :
      Reports (verifyHandler state now lastUpdated service req).1.1 response ↔
        (process service.catalog lastUpdated req).1 = some response := by
    rw [(verifyHandler_accepted accepted).1]
    exact reports_iff legible
  refine ⟨?_, ?_, told, ?_, ?_⟩
  · intro error rejected
    simp only [verifyHandler_eq, rejected]
  · intro accepted
    rw [(verifyHandler_accepted accepted).1, Option.isSome_map, process_isSome_iff]
  · intro accepted response reports success
    rw [(verifyHandler_accepted accepted).2]
    exact process_listed keeps given ((told accepted response).mp reports) success
  · intro accepted response reports rejects
    rw [(verifyHandler_accepted accepted).2]
    obtain ⟨success, _⟩ | ⟨_, same⟩ := process_status ((told accepted response).mp reports)
    · cases rejects.symm.trans success
    · exact same

/-- `serde_json` reads back the two documents of a row. -/
structure TextsReadBack (resource : DiscoveryResource) : Prop where
  accepts : JsonText.parse (JsonText.print (toValue resource.accepts)) = some (toValue resource.accepts)
  metadata : ∀ value ∈ resource.metadata, JsonText.parse (JsonText.print value) = some value

omit [Vesl] [ErrorText] [JsonSchema] [Base64] [ReplayCache Cache] in
/-- The row of a request that came as JSON is given back. -/
theorem TextsReadBack.givenBack (texts : TextsReadBack (catalogEntry req lastUpdated ext))
    (read : fromValue document = some req) : GivenBack (catalogEntry req lastUpdated ext) where
  accepts := texts.accepts
  metadata := texts.metadata
  explicit := by
    intro option member
    rw [List.mem_singleton.mp member]
    exact VerifyRequest.explicit_of_fromValue read

/-- Over either store, the header tells the truth. -/
theorem extension_header_truthful [LawfulBase64] (state : AppState Chain) (now : UInt64) (lastUpdated : String)
    (req : VerifyRequest) :
    (∀ service : Service Chain Cache InMemoryCatalogStore,
      (∀ response, (process service.catalog lastUpdated req).1 = some response → Legible response) →
      HeaderTruth state now lastUpdated service req) ∧
    ∀ (service : Service Chain Cache SqliteCatalogStore) history document,
      service.catalog.Represents history → fromValue document = some req →
      (∀ ext, readExtension req = some (.ok ext) → TextsReadBack (catalogEntry req lastUpdated ext)) →
      (∀ response, (process service.catalog lastUpdated req).1 = some response → Legible response) →
      HeaderTruth state now lastUpdated service req := by
  constructor
  · intro service legible
    have keeps : service.catalog.rows = catalog service.catalog.rows :=
      (KeyedStore.rows_of_unique service.catalog.unique).symm
    exact headerTruth keeps (fun _ _ => trivial) legible
  · intro service history document keeps read texts legible
    exact headerTruth keeps (fun ext found => (texts ext found).givenBack read) legible

end Headers

/-! ### A payment that lists its resource -/

namespace Transparent

open Crypto.Transparent Wallet Wallet.Transparent

attribute [local instance] transparent transparent_lawful plainErrors plainSchemas plainSchemas_lawful
  spelledBase64 spelledBase64_lawful

/-- What is written when `listing` is accepted: the header, and the two columns of its row. -/
def written : List Value :=
  [toValue (Client.envelopeOf { status := .success }), toValue [listing.requirements], toValue weather.info]

/-- Compact text, read back for those documents. -/
@[reducible] def writtenText : JsonText where
  print := compact
  parse text := written.find? fun value => compact value = text

attribute [local instance] writtenText

theorem written_readBack (member : value ∈ written) : JsonText.parse (JsonText.print value) = some value := by
  have distinct : (written.map compact).Nodup := by decide
  change (written.find? fun other => compact other = compact value) = some value
  rw [← List.head?_filter, KeyedStore.filter_key_of_mem distinct member]
  rfl

theorem listing_legible [CatalogStore Store] (catalog : Store) (response : BazaarExtensionResponse)
    (stored : CatalogStore.upsert catalog (catalogEntry listing "now" weather) = .ok next)
    (processed : (process catalog "now" listing).1 = some response) : Legible response := by
  have cataloged : Catalogs catalog "now" listing := ⟨weather, next, listing_read, stored⟩
  obtain rfl := Option.some.inj ((process_catalogs cataloged).symm.trans processed)
  exact written_readBack (by simp [written])

theorem listing_texts (ext : BazaarExtension) (read : readExtension listing = some (.ok ext)) :
    TextsReadBack (catalogEntry listing "now" ext) := by
  obtain rfl : weather = ext := by simpa using listing_read.symm.trans read
  refine ⟨written_readBack (by simp [written, catalogEntry]), fun value found => ?_⟩
  obtain rfl : toValue weather.info = value := Option.some.inj found
  exact written_readBack (by simp [written])

/-- A facilitator over the table, which has served nothing yet. -/
def openedTable : Service Unit RecordLog SqliteCatalogStore where
  cache := {}
  chain := ()
  catalog := .new

theorem listing_accepted : (verifyEnvelope facilitator 1100 ({} : RecordLog) listing).1 = .ok () := listing_passes

/-- Once it has answered `listing`, the facilitator lists the weather once. -/
def ListsWeather [CatalogPages Store] (service : Service Unit RecordLog Store) : Prop :=
  ListedOnce (verifyHandler facilitator 1100 "now" service listing).2.catalog listing weather

theorem listing_listed [CatalogPages Store] {service : Service Unit RecordLog Store} (fresh : service.cache = {})
    (truth : HeaderTruth facilitator 1100 "now" service listing)
    (stored : CatalogStore.upsert service.catalog (catalogEntry listing "now" weather) = .ok next) :
    ListsWeather service := by
  have accepted : (verifyEnvelope facilitator 1100 service.cache listing).1 = .ok () := by
    rw [fresh]
    exact listing_accepted
  have cataloged : Catalogs service.catalog "now" listing := ⟨weather, next, listing_read, stored⟩
  have reports := (truth.told accepted _).mpr (process_catalogs cataloged)
  obtain ⟨ext, read, listed⟩ := truth.listed accepted _ reports rfl
  obtain rfl : weather = ext := by simpa using listing_read.symm.trans read
  exact listed

/-- Over both stores, the success that `listing` is told of is there to be listed. -/
theorem extension_header_truthful_listing : ListsWeather opened ∧ ListsWeather openedTable := by
  obtain ⟨memory, table⟩ :=
    @extension_header_truthful Unit RecordLog _ _ _ _ _ _ _ facilitator 1100 "now" listing
  have read : fromValue (toValue listing) = some listing := VerifyRequest.fromValue_toValue_withoutNulls listing
  constructor
  · have stored : CatalogStore.upsert opened.catalog (catalogEntry listing "now" weather) = .ok _ := rfl
    exact listing_listed rfl (memory opened fun response => listing_legible _ response stored) stored
  · have stored : CatalogStore.upsert openedTable.catalog (catalogEntry listing "now" weather) = .ok _ := rfl
    have truth := table openedTable [] _ SqliteCatalogStore.represents_new read listing_texts
      fun response => listing_legible _ response stored
    exact listing_listed rfl truth stored

end Transparent

end X402Nockchain.Facilitator
