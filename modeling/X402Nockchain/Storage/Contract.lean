import X402Nockchain.Foundation.Component
import X402Nockchain.Foundation.KeyedStore
import X402Nockchain.X402Types.Bazaar

/-! The catalog contract, and the store it describes: one row per resource and
kind, in the order of first insertion, each holding the last upsert. -/

namespace X402Nockchain.Storage

open Foundation X402Types

abbrev Page := List DiscoveryResource × UInt32

/-- The `CatalogStore` trait. An error is the context that `anyhow` reports. -/
class CatalogStore (Store : Type) where
  upsert : Store → DiscoveryResource → Except String Store
  list : Store → ListDiscoveryResourcesParams → Except String Page

/-- A backend whose rows can be told: an upsert that succeeds writes the row of its key. -/
class CatalogRows (Store : Type) extends CatalogStore Store where
  Holds : Store → List DiscoveryResource → Prop
  holds_upsert : ∀ {store rows entry next}, Holds store rows → upsert store entry = .ok next →
    Holds next (KeyedStore.upsert DiscoveryResource.key rows entry)

inductive CatalogCall where
  | upsert (entry : DiscoveryResource)
  | list (params : ListDiscoveryResourcesParams)

inductive CatalogAnswer where
  | upserted (result : Except String Unit)
  | listed (result : Except String Page)

/-- A backend as a component. A failed upsert leaves it as it was. -/
def serve [CatalogStore Store] : Component Store CatalogCall CatalogAnswer
  | store, .upsert entry =>
    match CatalogStore.upsert store entry with
    | .ok next => (.upserted (.ok ()), next)
    | .error context => (.upserted (.error context), store)
  | store, .list params => (.listed (CatalogStore.list store params), store)

/-! ### What both backends do with decoded rows -/

def defaultListLimit : UInt32 := 50

def acceptsHasNetwork (accepts : List PaymentRequirements) (network : String) : Bool :=
  accepts.any fun option => option.network == network

def acceptsHasScheme (accepts : List PaymentRequirements) (scheme : String) : Bool :=
  accepts.any fun option => option.scheme == scheme

/-- `retain` by network, then by scheme. -/
def retained (params : ListDiscoveryResourcesParams) (filtered : List DiscoveryResource) :
    List DiscoveryResource :=
  let filtered := match params.network with
    | some net => filtered.filter fun (row : DiscoveryResource) => acceptsHasNetwork row.accepts net
    | none => filtered
  match params.scheme with
  | some scheme => filtered.filter fun (row : DiscoveryResource) => acceptsHasScheme row.accepts scheme
  | none => filtered

/-- Count what is retained, and slice it. -/
def answerPage (params : ListDiscoveryResourcesParams) (filtered : List DiscoveryResource) : Page :=
  let filtered := retained params filtered
  let total := UInt32.ofNat filtered.length
  let limit := (params.limit.getD defaultListLimit).toNat
  let offset := (params.offset.getD 0).toNat
  ((filtered.drop offset).take limit, total)

/-! ### The reference -/

/-- Every filter that the query sets holds of the entry. -/
structure Matches (params : ListDiscoveryResourcesParams) (entry : DiscoveryResource) : Prop where
  kind : ∀ kind ∈ params.kind, entry.kind = kind
  network : ∀ network ∈ params.network, ∃ option ∈ entry.accepts, option.network = network
  scheme : ∀ scheme ∈ params.scheme, ∃ option ∈ entry.accepts, option.scheme = scheme

theorem matches_iff : Matches params entry ↔
    (∀ kind ∈ params.kind, entry.kind = kind) ∧
    (∀ network ∈ params.network, ∃ option ∈ entry.accepts, option.network = network) ∧
    ∀ scheme ∈ params.scheme, ∃ option ∈ entry.accepts, option.scheme = scheme :=
  ⟨fun holds => ⟨holds.kind, holds.network, holds.scheme⟩,
    fun ⟨kind, network, scheme⟩ => ⟨kind, network, scheme⟩⟩

instance (params : ListDiscoveryResourcesParams) : DecidablePred (Matches params) :=
  fun _ => decidable_of_iff' _ matches_iff

/-- The catalog that a history of upserts describes. -/
def catalog (history : List DiscoveryResource) : List DiscoveryResource :=
  KeyedStore.rows DiscoveryResource.key history

/-- The answer to a query: the matching entries counted, and the slice asked for. -/
def Reference.list (history : List DiscoveryResource) (params : ListDiscoveryResourcesParams) : Page :=
  let found := (catalog history).filter (Matches params)
  ((found.drop (params.offset.getD 0).toNat).take (params.limit.getD defaultListLimit).toNat,
    UInt32.ofNat found.length)

/-- The reference remembers every upsert, and answers from that history. -/
def Reference.serve : Component (List DiscoveryResource) CatalogCall CatalogAnswer
  | history, .upsert entry => (.upserted (.ok ()), history ++ [entry])
  | history, .list params => (.listed (.ok (Reference.list history params)), history)

/-! ### What a backend has to show -/

/-- What the `kind` filter of a query asks of a row. -/
def OfKind (params : ListDiscoveryResourcesParams) (row : DiscoveryResource) : Prop :=
  ∀ kind ∈ params.kind, row.kind = kind

instance (params : ListDiscoveryResourcesParams) : DecidablePred (OfKind params) :=
  fun row => inferInstanceAs (Decidable (∀ kind ∈ params.kind, row.kind = kind))

@[simp] theorem acceptsHasNetwork_iff {accepts : List PaymentRequirements} :
    acceptsHasNetwork accepts network = true ↔ ∃ option ∈ accepts, option.network = network := by
  simp [acceptsHasNetwork]

@[simp] theorem acceptsHasScheme_iff {accepts : List PaymentRequirements} :
    acceptsHasScheme accepts scheme = true ↔ ∃ option ∈ accepts, option.scheme = scheme := by
  simp [acceptsHasScheme]

/-- The three filters together keep the rows that match. -/
theorem retained_ofKind (params : ListDiscoveryResourcesParams) (rows : List DiscoveryResource) :
    retained params (rows.filter (OfKind params)) = rows.filter (Matches params) := by
  obtain ⟨kind, limit, offset, network, scheme⟩ := params
  cases network <;> cases scheme <;> simp only [retained, List.filter_filter]
  all_goals
    apply List.filter_congr
    intro row _
    rw [Bool.eq_iff_iff]
    simp [OfKind, matches_iff]
    try tauto

theorem answerPage_catalog (params : ListDiscoveryResourcesParams) (history : List DiscoveryResource) :
    answerPage params ((catalog history).filter (OfKind params)) = Reference.list history params := by
  simp only [answerPage, Reference.list, retained_ofKind]

/-- A backend that keeps the catalog of its history under `represents`, and
answers a query from it, gives the answers of the reference. -/
theorem answers_eq_reference [CatalogStore Store]
    (represents : Store → List DiscoveryResource → Prop) (allowed : DiscoveryResource → Prop)
    (upserts : ∀ store history entry, allowed entry → represents store history →
      ∃ next, CatalogStore.upsert store entry = .ok next ∧ represents next (history ++ [entry]))
    (lists : ∀ store history params, represents store history →
      CatalogStore.list store params = .ok (Reference.list history params))
    {store : Store} (empty : represents store [])
    (each : ∀ entry, .upsert entry ∈ calls → allowed entry) :
    serve.answers store calls = Reference.serve.answers [] calls := by
  have simulates : Component.Simulates serve Reference.serve
      (fun call => ∀ entry, call = .upsert entry → allowed entry) represents := by
    intro store history call permitted represented
    cases call with
    | upsert entry =>
      obtain ⟨next, stored, kept⟩ := upserts store history entry (permitted entry rfl) represented
      simp only [serve, stored, Reference.serve, true_and]
      exact kept
    | list params =>
      simp only [serve, lists store history params represented, Reference.serve, true_and]
      exact represented
  exact Component.answers_eq simulates empty fun call member entry same => each entry (same ▸ member)

end X402Nockchain.Storage
