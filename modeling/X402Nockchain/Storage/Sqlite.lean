import Mathlib.Data.List.Sort
import X402Nockchain.Foundation.Outcome
import X402Nockchain.Storage.Contract

/-! The SQLite catalog: a table with JSON text columns under
`UNIQUE(resource, type)`, written by one upsert statement and read by
`ORDER BY id`. -/

namespace X402Nockchain.Storage

open Foundation X402Types Serde

/-- The columns that a statement binds and selects. -/
structure RawCatalogRow where
  resource : String
  kind : String
  x402Version : Int64
  accepts : String
  lastUpdated : String
  metadata : Option String

def RawCatalogRow.key (row : RawCatalogRow) : String × String := (row.resource, row.kind)

structure CatalogRow where
  id : Nat
  columns : RawCatalogRow

/-- The `catalog` table of `0001_catalog.sql`, with the counter behind
`AUTOINCREMENT`. The order of `rows` is the order on disk. -/
structure CatalogTable where
  rows : List CatalogRow
  sequence : Nat
  primary : (rows.map CatalogRow.id).Nodup
  drawn : ∀ row ∈ rows, row.id ≤ sequence
  unique : ((rows.map CatalogRow.columns).map RawCatalogRow.key).Nodup

/-- `DO UPDATE SET` under the conflicting row. -/
def CatalogRow.update (row : CatalogRow) (excluded : RawCatalogRow) : CatalogRow :=
  { row with columns := { row.columns with
      x402Version := excluded.x402Version
      accepts := excluded.accepts
      lastUpdated := excluded.lastUpdated
      metadata := excluded.metadata } }

/-- A conflicting update leaves the row with the values it was given. -/
theorem CatalogRow.update_columns {row : CatalogRow} (conflict : row.columns.key = excluded.key) :
    (row.update excluded).columns = excluded := by
  obtain ⟨id, resource, kind, x402Version, accepts, lastUpdated, metadata⟩ := row
  obtain ⟨same, same'⟩ := Prod.mk.inj conflict
  cases excluded
  simp_all [CatalogRow.update]

/-- The rows after `INSERT … ON CONFLICT(resource, type) DO UPDATE`, for an id
drawn for the insertion. -/
def insertRows (rows : List CatalogRow) (id : Nat) (excluded : RawCatalogRow) : List CatalogRow :=
  if ∃ row ∈ rows, row.columns.key = excluded.key then
    rows.map fun row => if row.columns.key = excluded.key then row.update excluded else row
  else rows ++ [⟨id, excluded⟩]

/-- On the columns the statement is an upsert under the key. -/
theorem insertRows_columns (rows : List CatalogRow) (id : Nat) (excluded : RawCatalogRow) :
    (insertRows rows id excluded).map CatalogRow.columns =
      KeyedStore.upsert RawCatalogRow.key (rows.map CatalogRow.columns) excluded := by
  have present : excluded.key ∈ (rows.map CatalogRow.columns).map RawCatalogRow.key ↔
      ∃ row ∈ rows, row.columns.key = excluded.key := by simp
  simp only [insertRows, KeyedStore.upsert, present]
  split
  · rw [List.map_map, List.map_map]
    apply List.map_congr_left
    intro row _
    simp only [Function.comp_apply, KeyedStore.replace]
    by_cases conflict : row.columns.key = excluded.key
    · rw [if_pos conflict, if_pos conflict]
      exact CatalogRow.update_columns conflict
    · rw [if_neg conflict, if_neg conflict]
  · simp

theorem insertRows_ids (rows : List CatalogRow) (id : Nat) (excluded : RawCatalogRow) :
    (insertRows rows id excluded).map CatalogRow.id = rows.map CatalogRow.id ∨
      (insertRows rows id excluded).map CatalogRow.id = rows.map CatalogRow.id ++ [id] := by
  unfold insertRows
  split
  · left
    rw [List.map_map]
    apply List.map_congr_left
    intro row _
    simp only [Function.comp_apply]
    split <;> rfl
  · right
    simp

namespace CatalogTable

theorem columns_unique_nil :
    ((([] : List CatalogRow).map CatalogRow.columns).map RawCatalogRow.key).Nodup := List.nodup_nil

def new : CatalogTable where
  rows := []
  sequence := 0
  primary := List.nodup_nil
  drawn := fun _ member => absurd member List.not_mem_nil
  unique := columns_unique_nil

/-- Every id of the table, in the order on disk. -/
def ids (table : CatalogTable) : List Nat := table.rows.map CatalogRow.id

theorem le_sequence (table : CatalogTable) {id : Nat} (member : id ∈ table.ids) : id ≤ table.sequence := by
  obtain ⟨row, found, rfl⟩ := List.mem_map.mp member
  exact table.drawn row found

/-- `INSERT … ON CONFLICT DO UPDATE`. The id is drawn before the conflict is
found, and is never drawn again. -/
def insert (table : CatalogTable) (excluded : RawCatalogRow) : CatalogTable where
  rows := insertRows table.rows (table.sequence + 1) excluded
  sequence := table.sequence + 1
  primary := by
    obtain same | grown := insertRows_ids table.rows (table.sequence + 1) excluded
    · rw [same]
      exact table.primary
    · rw [grown]
      apply table.primary.append (by simp)
      rw [List.disjoint_singleton]
      intro member
      exact absurd (table.le_sequence member) (Nat.not_succ_le_self _)
  drawn := by
    intro row member
    have member := List.mem_map_of_mem (f := CatalogRow.id) member
    obtain same | grown := insertRows_ids table.rows (table.sequence + 1) excluded
    · rw [same] at member
      exact Nat.le_succ_of_le (table.le_sequence member)
    · rw [grown, List.mem_append, List.mem_singleton] at member
      obtain old | new := member
      · exact Nat.le_succ_of_le (table.le_sequence old)
      · exact new.le
  unique := by
    rw [insertRows_columns]
    exact KeyedStore.upsert_unique table.unique excluded

/-- `SELECT … [WHERE type = ?1] ORDER BY id`. -/
def select (table : CatalogTable) (kind : Option String) : List RawCatalogRow :=
  let found := table.rows.filter fun (row : CatalogRow) => match kind with
    | some kind => row.columns.kind == kind
    | none => true
  (found.mergeSort fun row other => row.id ≤ other.id).map CatalogRow.columns

/-- Where the order on disk is the order of the ids, sorting changes nothing. -/
theorem select_eq (table : CatalogTable) (ascending : table.ids.Pairwise (· < ·))
    (kind : Option String) :
    table.select kind = (table.rows.map CatalogRow.columns).filter fun row => match kind with
      | some kind => row.kind == kind
      | none => true := by
  have sorted := (List.pairwise_map.mp ascending).filter fun (row : CatalogRow) => match kind with
    | some kind => row.columns.kind == kind
    | none => true
  rw [select, List.mergeSort_of_pairwise, List.filter_map]
  · rfl
  · exact sorted.imp fun below => decide_eq_true (Nat.le_of_lt below)

/-- New ids come last, so the order on disk stays the order of the ids. -/
theorem insert_ascending (table : CatalogTable) (ascending : table.ids.Pairwise (· < ·))
    (excluded : RawCatalogRow) : (table.insert excluded).ids.Pairwise (· < ·) := by
  change ((insertRows table.rows (table.sequence + 1) excluded).map CatalogRow.id).Pairwise _
  obtain same | grown := insertRows_ids table.rows (table.sequence + 1) excluded
  · rw [same]
    exact ascending
  · rw [grown, List.pairwise_append]
    refine ⟨ascending, List.pairwise_singleton _ _, fun id member last final => ?_⟩
    rw [List.mem_singleton.mp final]
    exact Nat.lt_succ_of_le (table.le_sequence member)

end CatalogTable

/-! ### The store over the table -/

variable [JsonText]

/-- The values bound to the statement. -/
def RawCatalogRow.ofResource (resource : DiscoveryResource) : RawCatalogRow where
  resource := resource.resource
  kind := resource.kind
  x402Version := resource.x402Version.toUInt64.toInt64
  accepts := toText resource.accepts
  lastUpdated := resource.lastUpdated
  metadata := resource.metadata.map toText

def RawCatalogRow.intoResource (row : RawCatalogRow) : Except String DiscoveryResource := do
  let accepts : List PaymentRequirements ← okOr "parse accepts JSON" (fromText row.accepts)
  let metadata : Option Value ← match row.metadata with
    | some text => (okOr "parse metadata JSON" (fromText text)).map some
    | none => .ok none
  return {
    resource := row.resource
    kind := row.kind
    x402Version := row.x402Version.toUInt64.toUInt32
    accepts
    lastUpdated := row.lastUpdated
    metadata }

structure SqliteCatalogStore where
  table : CatalogTable

namespace SqliteCatalogStore

omit [JsonText] in
def new : SqliteCatalogStore := ⟨.new⟩

def upsert (store : SqliteCatalogStore) (resource : DiscoveryResource) : SqliteCatalogStore :=
  ⟨store.table.insert (.ofResource resource)⟩

def list (store : SqliteCatalogStore) (params : ListDiscoveryResourcesParams) : Except String Page := do
  let decoded ← (store.table.select params.kind).mapM RawCatalogRow.intoResource
  return answerPage params decoded

instance : CatalogStore SqliteCatalogStore where
  upsert store resource := .ok (store.upsert resource)
  list := list

/-- On the columns, whatever they encode, an upsert is one under the key. -/
theorem upsert_columns (store : SqliteCatalogStore) (resource : DiscoveryResource)
    (encoded : store.table.rows.map CatalogRow.columns = rows.map RawCatalogRow.ofResource) :
    (store.upsert resource).table.rows.map CatalogRow.columns =
      (KeyedStore.upsert DiscoveryResource.key rows resource).map RawCatalogRow.ofResource := by
  calc (store.table.insert (.ofResource resource)).rows.map CatalogRow.columns
    _ = KeyedStore.upsert RawCatalogRow.key (store.table.rows.map CatalogRow.columns)
          (.ofResource resource) := insertRows_columns _ _ _
    _ = KeyedStore.upsert RawCatalogRow.key (rows.map RawCatalogRow.ofResource)
          (.ofResource resource) := by rw [encoded]
    _ = (KeyedStore.upsert DiscoveryResource.key rows resource).map RawCatalogRow.ofResource :=
        (KeyedStore.map_upsert (fun _ => rfl) _ _).symm

instance : CatalogRows SqliteCatalogStore where
  Holds store rows := store.table.rows.map CatalogRow.columns = rows.map RawCatalogRow.ofResource
  holds_upsert := by
    intro store rows entry next holds stored
    obtain rfl := Except.ok.inj stored
    exact store.upsert_columns entry holds

end SqliteCatalogStore

/-- `serde_json` gives back the two documents of a resource, and none of its
optional documents is an explicit `null`. -/
structure GivenBack (resource : DiscoveryResource) : Prop where
  accepts : JsonText.parse (JsonText.print (toValue resource.accepts)) = some (toValue resource.accepts)
  metadata : ∀ value ∈ resource.metadata, JsonText.parse (JsonText.print value) = some value
  explicit : ∀ option ∈ resource.accepts, option.Explicit

/-- What was bound is read back. -/
theorem RawCatalogRow.intoResource_ofResource {resource : DiscoveryResource}
    (givenBack : GivenBack resource) :
    (RawCatalogRow.ofResource resource).intoResource = .ok resource := by
  have accepts : fromText (toText resource.accepts) = some resource.accepts := by
    rw [fromText, toText, givenBack.accepts, Option.bind_some]
    exact fromValue_toValue_of_each fun option member =>
      PaymentRequirements.fromValue_toValue (givenBack.explicit option member)
  have metadata (value : Value) (found : resource.metadata = some value) :
      fromText (toText value) = some value := by
    rw [fromText, toText]
    exact (congrArg (Option.bind · fromValue) (givenBack.metadata value found)).trans rfl
  obtain ⟨name, kind, x402Version, options, lastUpdated, document⟩ := resource
  simp only at accepts metadata
  cases document with
  | none => simp [ofResource, intoResource, accepts]
  | some value => simp [ofResource, intoResource, accepts, metadata value rfl]

namespace SqliteCatalogStore

/-- The columns are those of the catalog, in the order of the ids, and each
can be read back. -/
structure Represents (store : SqliteCatalogStore) (history : List DiscoveryResource) : Prop where
  columns : store.table.rows.map CatalogRow.columns = (catalog history).map RawCatalogRow.ofResource
  ascending : store.table.ids.Pairwise (· < ·)
  givenBack : ∀ resource ∈ history, GivenBack resource

theorem represents_new : Represents new [] where
  columns := rfl
  ascending := List.Pairwise.nil
  givenBack := by simp

theorem Represents.upsert (represented : Represents store history) (givenBack : GivenBack resource) :
    Represents (store.upsert resource) (history ++ [resource]) where
  columns := by
    rw [store.upsert_columns resource represented.columns, catalog, catalog, KeyedStore.rows_append]
  ascending := store.table.insert_ascending represented.ascending _
  givenBack := by
    rw [List.forall_mem_append]
    exact ⟨represented.givenBack, by simpa using givenBack⟩

theorem Represents.list (represented : Represents store history)
    (params : ListDiscoveryResourcesParams) :
    store.list params = .ok (Reference.list history params) := by
  have selected : store.table.select params.kind =
      ((catalog history).filter (OfKind params)).map RawCatalogRow.ofResource := by
    rw [store.table.select_eq represented.ascending, represented.columns, List.filter_map]
    congr 1
    apply List.filter_congr
    intro row _
    rw [Bool.eq_iff_iff]
    cases kind : params.kind <;> simp [OfKind, kind, RawCatalogRow.ofResource]
  have decoded : (store.table.select params.kind).mapM RawCatalogRow.intoResource =
      .ok ((catalog history).filter (OfKind params)) := by
    rw [selected]
    refine Outcome.mapM_map_ok fun resource member => RawCatalogRow.intoResource_ofResource ?_
    exact represented.givenBack resource (KeyedStore.mem_of_rows (List.mem_filter.mp member).1)
  rw [SqliteCatalogStore.list, decoded, ← answerPage_catalog]
  rfl

/-- The table gives the answers of the reference. -/
theorem answers {calls : List CatalogCall}
    (givenBack : ∀ resource, .upsert resource ∈ calls → GivenBack resource) :
    serve.answers SqliteCatalogStore.new calls = Reference.serve.answers [] calls :=
  answers_eq_reference Represents GivenBack
    (fun store _ resource given represented => ⟨store.upsert resource, rfl, represented.upsert given⟩)
    (fun _ _ params represented => represented.list params) represents_new givenBack

end SqliteCatalogStore

end X402Nockchain.Storage
