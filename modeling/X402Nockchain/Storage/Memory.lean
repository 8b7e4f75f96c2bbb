import X402Nockchain.Storage.Contract

/-! The in-memory catalog: a vector that an upsert overwrites in place. -/

namespace X402Nockchain.Storage

open Foundation X402Types

/-- The rows, one per resource and kind. -/
structure InMemoryCatalogStore where
  rows : List DiscoveryResource
  unique : (rows.map DiscoveryResource.key).Nodup

namespace InMemoryCatalogStore

def new : InMemoryCatalogStore := ⟨[], List.nodup_nil⟩

/-- Overwrite the row found by position, or push. -/
def upsert (store : InMemoryCatalogStore) (entry : DiscoveryResource) : InMemoryCatalogStore where
  rows := KeyedStore.upsertAt DiscoveryResource.key store.rows entry
  unique := by
    rw [KeyedStore.upsertAt_eq store.unique]
    exact KeyedStore.upsert_unique store.unique entry

def list (store : InMemoryCatalogStore) (params : ListDiscoveryResourcesParams) : Page :=
  let filtered := store.rows.filter fun row => match params.kind with
    | some kind => row.kind == kind
    | none => true
  answerPage params filtered

instance : CatalogStore InMemoryCatalogStore where
  upsert store entry := .ok (store.upsert entry)
  list store params := .ok (store.list params)

theorem upsert_eq (store : InMemoryCatalogStore) (entry : DiscoveryResource) :
    (store.upsert entry).rows = KeyedStore.upsert DiscoveryResource.key store.rows entry :=
  KeyedStore.upsertAt_eq store.unique entry

instance : CatalogRows InMemoryCatalogStore where
  Holds store rows := store.rows = rows
  holds_upsert := by
    rintro store rows entry next rfl stored
    obtain rfl := Except.ok.inj stored
    exact store.upsert_eq entry

theorem upsert_rows (store : InMemoryCatalogStore) (represented : store.rows = catalog history)
    (entry : DiscoveryResource) : (store.upsert entry).rows = catalog (history ++ [entry]) := by
  calc (store.upsert entry).rows
    _ = KeyedStore.upsert DiscoveryResource.key store.rows entry := store.upsert_eq entry
    _ = KeyedStore.upsert DiscoveryResource.key (catalog history) entry := by rw [represented]
    _ = catalog (history ++ [entry]) := (KeyedStore.rows_append history entry).symm

theorem list_eq (store : InMemoryCatalogStore) (represented : store.rows = catalog history)
    (params : ListDiscoveryResourcesParams) : store.list params = Reference.list history params := by
  rw [← answerPage_catalog, list, represented]
  congr 1
  apply List.filter_congr
  intro row _
  rw [Bool.eq_iff_iff]
  cases kind : params.kind <;> simp [OfKind, kind]

/-- The vector gives the answers of the reference. -/
theorem answers (calls : List CatalogCall) :
    serve.answers InMemoryCatalogStore.new calls = Reference.serve.answers [] calls := by
  refine answers_eq_reference (fun store history => store.rows = catalog history) (fun _ => True)
    ?_ ?_ rfl fun _ _ => trivial
  · intro store history entry _ represented
    exact ⟨store.upsert entry, rfl, store.upsert_rows represented entry⟩
  · intro store history params represented
    exact congrArg Except.ok (store.list_eq represented params)

end InMemoryCatalogStore

end X402Nockchain.Storage
