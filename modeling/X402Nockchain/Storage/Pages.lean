import X402Nockchain.Foundation.Pages
import X402Nockchain.Storage.Memory
import X402Nockchain.Storage.Sqlite

/-! Both backends list their keys in an order to which an upsert only adds at the end. -/

namespace X402Nockchain.Storage

open Foundation Foundation.Serde X402Types

/-- The keys that a `kind` filter lets through. -/
def keysOfKind (kind : Option String) (keys : List (String × String)) : List (String × String) :=
  keys.filter fun key => ∀ name ∈ kind, key.2 = name

/-- Filtering rows by their kind filters their keys. -/
theorem keysOfKind_map (key : ρ → String × String) (kind : Option String) (rows : List ρ) :
    keysOfKind kind (rows.map key) = (rows.filter fun row => match kind with
      | some name => (key row).2 == name
      | none => true).map key := by
  rw [keysOfKind, List.filter_map]
  congr 2
  funext row
  cases kind <;> simp [Bool.beq_eq_decide_eq]

/-- A backend whose keys can be told, and that lists them in their order. -/
class CatalogPages (Store : Type) extends CatalogStore Store where
  keys : Store → List (String × String)
  /-- Rows come back in the order in which they are held. -/
  Ordered : Store → Prop
  unique : ∀ store, (keys store).Nodup
  keys_upsert : ∀ {store next} entry, upsert store entry = .ok next → keys store <+: keys next
  ordered_upsert : ∀ {store next} entry, Ordered store → upsert store entry = .ok next → Ordered next
  keys_list : ∀ {store answer} kind limit offset, Ordered store →
    list store { kind, limit := some limit, offset := some offset } = .ok answer →
    answer.1.map DiscoveryResource.key = page (keysOfKind kind (keys store)) offset.toNat limit.toNat

/-- Upserts keep a backend ordered. -/
theorem ordered_after [CatalogPages Store] {start : Store} (ordered : CatalogPages.Ordered start)
    (calls : List CatalogCall) : CatalogPages.Ordered (serve.after start calls) := by
  induction calls generalizing start with
  | nil => exact ordered
  | cons call rest ih =>
    apply ih
    cases call with
    | list params => exact ordered
    | upsert entry =>
      simp only [serve]
      split
      · rename_i next stored
        exact CatalogPages.ordered_upsert entry ordered stored
      · exact ordered

/-- A page of rows is a page of their keys. -/
theorem answerPage_keys (kind : Option String) (limit offset : UInt32) (rows : List DiscoveryResource) :
    (answerPage { kind, limit := some limit, offset := some offset } rows).1.map DiscoveryResource.key =
      page (rows.map DiscoveryResource.key) offset.toNat limit.toNat := by
  simp [answerPage, retained, page]

instance : CatalogPages InMemoryCatalogStore where
  keys store := store.rows.map DiscoveryResource.key
  Ordered _ := True
  unique store := store.unique
  keys_upsert := by
    intro store next entry stored
    obtain rfl := Except.ok.inj stored
    rw [store.upsert_eq entry]
    exact KeyedStore.keys_upsert store.rows entry
  ordered_upsert _ _ _ := trivial
  keys_list := by
    intro store answer kind limit offset _ listed
    obtain rfl := Except.ok.inj listed
    rw [InMemoryCatalogStore.list, answerPage_keys, keysOfKind_map]
    cases kind <;> rfl

namespace RawCatalogRow

variable [JsonText]

/-- Decoding reads the key columns as they are. -/
theorem intoResource_key {row : RawCatalogRow} {resource : DiscoveryResource}
    (decoded : row.intoResource = .ok resource) :
    resource.key = row.key := by
  obtain ⟨name, kind, x402Version, options, lastUpdated, document⟩ := row
  cases document <;> simp only [intoResource, Outcome.bind_ok, Outcome.pure_ok] at decoded
  all_goals
    obtain ⟨accepts, _, metadata, _, rfl⟩ := decoded
    rfl

end RawCatalogRow

instance [JsonText] : CatalogPages SqliteCatalogStore where
  keys store := (store.table.rows.map CatalogRow.columns).map RawCatalogRow.key
  Ordered store := store.table.ids.Pairwise (· < ·)
  unique store := store.table.unique
  keys_upsert := by
    intro store next entry stored
    obtain rfl := Except.ok.inj stored
    change _ <+: ((insertRows store.table.rows _ _).map CatalogRow.columns).map RawCatalogRow.key
    rw [insertRows_columns]
    exact KeyedStore.keys_upsert _ _
  ordered_upsert := by
    intro store next entry ordered stored
    obtain rfl := Except.ok.inj stored
    exact store.table.insert_ascending ordered _
  keys_list := by
    intro store answer kind limit offset ordered listed
    change SqliteCatalogStore.list store _ = _ at listed
    simp only [SqliteCatalogStore.list, Outcome.bind_ok, Outcome.pure_ok] at listed
    obtain ⟨decoded, read, rfl⟩ := listed
    have keys : decoded.map DiscoveryResource.key = (store.table.select kind).map RawCatalogRow.key :=
      Outcome.mapM_kept (fun _ _ => RawCatalogRow.intoResource_key) read
    rw [answerPage_keys, keys, store.table.select_eq ordered, keysOfKind_map]
    cases kind <;> rfl

/-- A backend that answers from the history of its upserts, given entries that it
gives back as they were. -/
class CatalogHistory (Store : Type) extends CatalogPages Store where
  Keeps : Store → List DiscoveryResource → Prop
  GivesBack : DiscoveryResource → Prop
  keeps_keys : ∀ {store history}, Keeps store history →
    keys store = (catalog history).map DiscoveryResource.key
  upsert_keeps : ∀ {store history entry}, GivesBack entry → Keeps store history →
    ∃ next, upsert store entry = .ok next ∧ Keeps next (history ++ [entry])
  list_keeps : ∀ {store history} params, Keeps store history →
    list store params = .ok (Reference.list history params)

instance : CatalogHistory InMemoryCatalogStore where
  Keeps store history := store.rows = catalog history
  GivesBack _ := True
  keeps_keys keeps := congrArg (List.map DiscoveryResource.key) keeps
  upsert_keeps _ keeps := ⟨_, rfl, InMemoryCatalogStore.upsert_rows _ keeps _⟩
  list_keeps params keeps := congrArg Except.ok (InMemoryCatalogStore.list_eq _ keeps params)

instance [JsonText] : CatalogHistory SqliteCatalogStore where
  Keeps := SqliteCatalogStore.Represents
  GivesBack := GivenBack
  keeps_keys := by
    intro store history keeps
    change (store.table.rows.map CatalogRow.columns).map RawCatalogRow.key = _
    rw [keeps.columns, List.map_map]
    rfl
  upsert_keeps given keeps := ⟨_, rfl, keeps.upsert given⟩
  list_keeps params keeps := keeps.list params

end X402Nockchain.Storage
