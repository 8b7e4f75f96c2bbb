import X402Nockchain.Facilitator.Endpoints

/-! Where the rows of the catalog come from. -/

namespace X402Nockchain.Facilitator

open Foundation Foundation.Serde X402Types Crypto Storage

/-- What the checks before the catalog establish of a request. -/
structure Checked [Vesl] {Chain : Type} (state : AppState Chain) (now : UInt64) (req : VerifyRequest) :
    Prop where
  version : req.payload.x402Version = 2
  scheme : req.payload.scheme = req.requirements.scheme
  network : req.payload.network = req.requirements.network
  shipped : req.requirements.scheme = "exact" ∨ req.requirements.scheme = "upto"
  nockchain : startsWith req.requirements.network "nockchain:" = true
  payment : ∃ nock, fromValue req.payload.payload = some nock ∧
    checkTimeWindow state now nock.authorization = .ok () ∧ Admissible nock req.requirements

/-- What the row of a request is stored under. -/
def ownKey (req : VerifyRequest) (ext : BazaarExtension) : String × String :=
  (req.requirements.resource, discriminateKind ext.info.input)

/-- The shape of a row that a payment leaves. -/
structure WellFormed (row : DiscoveryResource) : Prop where
  version : row.x402Version = 2
  kind : row.kind = "http" ∨ row.kind = "mcp"
  tagged : (row.metadata.bind (·.get "input")).bind (·.get "type") = some (.string row.kind)
  option : ∃ option, row.accepts = [option] ∧ option.resource = row.resource ∧
    option.asset = nockchainNativeAsset ∧ (option.scheme = "exact" ∨ option.scheme = "upto") ∧
    startsWith option.network "nockchain:" = true

section Services

variable {Chain Cache Store : Type} [Vesl] [ErrorText] [JsonSchema] [JsonText] [Base64]
  [ReplayCache Cache] {state : AppState Chain}

/-- An arrival is accepted in this state of the service, its echoed `info` meets the
schema beside it, and the row that it asks for is written. -/
structure Writes [CatalogStore Store] (state : AppState Chain) (service : Service Chain Cache Store)
    (arrival : Arrival) (row : DiscoveryResource) : Prop where
  passes : Passes state service arrival
  asks : ∃ ext, readExtension arrival.req = some (.ok ext) ∧ validateInfoAgainstSchema ext = .ok () ∧
    row = catalogEntry arrival.req arrival.lastUpdated ext
  written : CatalogStore.upsert service.catalog row = .ok (serve state service arrival).2.catalog

section Requests

variable [CatalogStore Store] {service : Service Chain Cache Store} {arrival : Arrival}

omit [JsonSchema] [JsonText] [Base64] [CatalogStore Store] in
theorem checked_of_passes (registry : state.schemeRegistry = .withDefaultHandlers)
    (passes : Passes state service arrival) : Checked state arrival.now arrival.req := by
  have settles : (verifyEnvelopeForSettle state arrival.now service.cache arrival.req).1 = .ok () := by
    cases endpoint : arrival.endpoint with
    | verify =>
      simp only [Passes, checkEnvelope, endpoint] at passes
      exact verifyEnvelopeForSettle_ok_iff.mpr (verifyEnvelope_passed passes)
    | settle => simpa only [Passes, checkEnvelope, endpoint] using passes
  obtain ⟨nock, carried, admissible, ⟨handler, dispatched⟩, window⟩ :=
    verifyEnvelopeForSettle_ok registry settles
  obtain ⟨version, scheme, network, found, _⟩ := preDispatch_ok_iff.mp dispatched
  rw [registry] at found
  obtain ⟨nockchain, shipped⟩ := handlerFor_withDefaultHandlers found
  exact {
    version, scheme, network, nockchain
    shipped := shipped.imp And.left And.left
    payment := ⟨nock, carried, window, admissible⟩ }

omit [Vesl] [ErrorText] [JsonSchema] [JsonText] [Base64] in
/-- The tag of the serialized input is the kind of the row. -/
theorem tag_of_info (info : DiscoveryInfo) :
    ((toValue info).get "input").bind (·.get "type") = some (.string (discriminateKind info.input)) := by
  obtain ⟨input, output⟩ := info
  cases input <;> rfl

omit [ErrorText] [JsonSchema] [JsonText] [Base64] in
theorem wellFormed_of_checked (checked : Checked state now req) (lastUpdated : String)
    (ext : BazaarExtension) : WellFormed (catalogEntry req lastUpdated ext) where
  version := checked.version
  kind := by
    cases found : ext.info.input with
    | http => exact .inl (by simp only [catalogEntry, discriminateKind, found])
    | mcp => exact .inr (by simp only [catalogEntry, discriminateKind, found])
  tagged := tag_of_info ext.info
  option := by
    obtain ⟨nock, _, _, admissible⟩ := checked.payment
    exact ⟨req.requirements, rfl, rfl, admissible.native, checked.shipped, checked.nockchain⟩

theorem wellFormed_of_writes (registry : state.schemeRegistry = .withDefaultHandlers)
    (writes : Writes state service arrival row) : WellFormed row := by
  obtain ⟨ext, _, _, rfl⟩ := writes.asks
  exact wellFormed_of_checked (checked_of_passes registry writes.passes) arrival.lastUpdated ext

/-- The catalog changes only by a row that the arrival asks for. -/
theorem serve_catalog_cases (state : AppState Chain) (service : Service Chain Cache Store)
    (arrival : Arrival) : (serve state service arrival).2.catalog = service.catalog ∨
      ∃ row, Writes state service arrival row := by
  cases checked : (checkEnvelope state service.cache arrival).1 with
  | error error =>
    left
    rw [serve_refused checked]
  | ok done =>
    have passes : Passes state service arrival := checked
    have cataloged := serve_catalog passes
    obtain same | ⟨ext, next, read, stored, processed⟩ :=
      process_cases service.catalog arrival.lastUpdated arrival.req
    · exact .inl (cataloged.trans same)
    · right
      obtain ⟨_, _, _, _, _, valid⟩ := readExtension_ok_iff.mp read
      rw [processed] at cataloged
      exact ⟨_, { passes, asks := ⟨ext, read, valid, rfl⟩, written := by rw [stored, cataloged] }⟩

/-- A refused arrival changes neither the catalog nor the chain, and the chain
client has no part in it. -/
theorem refused_untouched (refused : ¬ Passes state service arrival) :
    (serve state service arrival).2.catalog = service.catalog ∧
      (serve state service arrival).2.chain = service.chain ∧
      ∀ client, serve { state with chain := client } service arrival = serve state service arrival := by
  cases checked : (checkEnvelope state service.cache arrival).1 with
  | error error =>
    refine ⟨by rw [serve_refused checked], by rw [serve_refused checked], fun client => ?_⟩
    have alike : (checkEnvelope { state with chain := client } service.cache arrival).1 = .error error := checked
    rw [serve_refused checked, serve_refused alike]
    rfl
  | ok done => exact absurd checked refused

end Requests

variable [CatalogRows Store]

/-- Every row was written by one of the arrivals, in the state that those before it left. -/
theorem rows_written (state : AppState Chain) (start : Service Chain Cache Store)
    (empty : CatalogRows.Holds start.catalog []) (arrivals : List Arrival) :
    ∃ rows, CatalogRows.Holds ((serve state).after start arrivals).catalog rows ∧
      ∀ row ∈ rows, ∃ before arrival later, arrivals = before ++ arrival :: later ∧
        Writes state ((serve state).after start before) arrival row := by
  refine Component.origin (fun service : Service Chain Cache Store => CatalogRows.Holds service.catalog)
    ?_ empty arrivals
  intro service rows arrival holds
  obtain same | ⟨row, writes⟩ := serve_catalog_cases state service arrival
  · rw [same]
    exact ⟨rows, holds, fun row member => .inl member⟩
  · refine ⟨_, CatalogRows.holds_upsert holds writes.written, fun other member => ?_⟩
    obtain rfl | old := KeyedStore.mem_of_upsert member
    · exact .inr writes
    · exact .inl old

/-- An arrival changes at most the row of its own resource and kind. -/
theorem rows_framed {service : Service Chain Cache Store} {arrival : Arrival}
    (holds : CatalogRows.Holds service.catalog rows) :
    ∃ rows', CatalogRows.Holds (serve state service arrival).2.catalog rows' ∧
      (rows' = rows ∨ ∃ ext, readExtension arrival.req = some (.ok ext) ∧
        rows'.filter (fun row => row.key ≠ ownKey arrival.req ext) =
          rows.filter fun row => row.key ≠ ownKey arrival.req ext) := by
  obtain same | ⟨row, writes⟩ := serve_catalog_cases state service arrival
  · rw [same]
    exact ⟨rows, holds, .inl rfl⟩
  · obtain ⟨ext, read, _, rfl⟩ := writes.asks
    exact ⟨_, CatalogRows.holds_upsert holds writes.written, .inr ⟨ext, read,
      KeyedStore.filter_upsert rows (catalogEntry arrival.req arrival.lastUpdated ext)⟩⟩

/-- Every row of a catalog that started empty was written by an accepted request, and
has the shape that such a request gives it; a refused request touches neither the
catalog nor the chain, and an accepted one writes at most its own row. -/
theorem catalog_provenance (registry : state.schemeRegistry = .withDefaultHandlers) :
    (∀ (start : Service Chain Cache Store) (arrivals : List Arrival), CatalogRows.Holds start.catalog [] →
      ∃ rows, CatalogRows.Holds ((serve state).after start arrivals).catalog rows ∧
        ∀ row ∈ rows, WellFormed row ∧ ∃ before arrival later, arrivals = before ++ arrival :: later ∧
          Writes state ((serve state).after start before) arrival row ∧
          Checked state arrival.now arrival.req) ∧
    (∀ (service : Service Chain Cache Store) (arrival : Arrival), ¬ Passes state service arrival →
      (serve state service arrival).2.catalog = service.catalog ∧
        (serve state service arrival).2.chain = service.chain ∧
        ∀ client, serve { state with chain := client } service arrival = serve state service arrival) ∧
    (∀ (service : Service Chain Cache Store) (arrival : Arrival) rows,
      CatalogRows.Holds service.catalog rows →
        ∃ rows', CatalogRows.Holds (serve state service arrival).2.catalog rows' ∧
          (rows' = rows ∨ ∃ ext, readExtension arrival.req = some (.ok ext) ∧
            rows'.filter (fun row => row.key ≠ ownKey arrival.req ext) =
              rows.filter fun row => row.key ≠ ownKey arrival.req ext)) := by
  refine ⟨?_, fun _ _ => refused_untouched, fun _ _ _ => rows_framed⟩
  intro start arrivals empty
  obtain ⟨rows, holds, origin⟩ := rows_written state start empty arrivals
  refine ⟨rows, holds, fun row member => ?_⟩
  obtain ⟨before, arrival, later, split, writes⟩ := origin row member
  exact ⟨wellFormed_of_writes registry writes, before, arrival, later, split, writes,
    checked_of_passes registry writes.passes⟩

end Services

/-! ### A payment that lists its resource -/

namespace Transparent

open Crypto.Transparent Wallet.Transparent Wallet

attribute [local instance] transparent transparent_lawful plainErrors plainSchemas plainSchemas_lawful
  plainText spelledBase64

/-- A plain `GET`, under a schema that every document meets. -/
def weather : BazaarExtension where
  info := { input := .http (.query .get none none) }
  schema := .object []

/-- `original`, with the extension echoed. -/
def listing : VerifyRequest :=
  { original with payload := { original.payload with extensions := some [("bazaar", toValue weather)] } }

theorem listing_read : readExtension listing = some (.ok weather) := by
  refine readExtension_ok_iff.mpr ⟨_, _, rfl, rfl, ?_, ?_⟩
  · exact BazaarExtension.fromValue_toValue_withoutNulls weather
  · exact (validateInfoAgainstSchema_ok_iff rfl).mpr rfl

theorem listing_honest : Honest payer (payment authorization) listing :=
  ⟨rfl, rfl, rfl, rfl, fakenet_nockchain, original_honest.carried, original_honest.own,
    original_honest.signed, rfl, original_honest.capped, rfl⟩

theorem listing_passes : Passes facilitator opened ⟨.verify, 1100, "now", listing⟩ :=
  (listing_honest.accepted_iff rfl).mpr
    ⟨in_window rfl rfl rfl 1100 (by decide) (by decide), empty_fresh _ _ _⟩

theorem listing_cataloged : (serve facilitator opened ⟨.verify, 1100, "now", listing⟩).2.catalog.rows =
    [catalogEntry listing "now" weather] := by
  rw [serve_catalog listing_passes]
  simp only [process, listing_read]
  rfl

/-- The row of the one payment. -/
theorem catalog_provenance_listing : WellFormed (catalogEntry listing "now" weather) := by
  obtain ⟨origins, _, _⟩ := @catalog_provenance Unit RecordLog InMemoryCatalogStore _ _ _ _ _ _
    facilitator _ rfl
  obtain ⟨rows, holds, shaped⟩ := origins opened [⟨.verify, 1100, "now", listing⟩] rfl
  rw [Component.after, Component.after] at holds
  have same : rows = [catalogEntry listing "now" weather] := holds.symm.trans listing_cataloged
  exact (shaped _ (same ▸ List.mem_singleton_self _)).1

end Transparent

end X402Nockchain.Facilitator
