import Mathlib.Data.List.Induction
import Mathlib.Data.List.Nodup

/-! Records kept under a key: one row per key, in the order in which the keys
first appeared, each row holding the last record written under its key. -/

namespace X402Nockchain.Foundation.KeyedStore

variable {ρ : Type u} {ρ' : Type w} {κ : Type v} [DecidableEq κ] (key : ρ → κ)

/-- Put `record` in the place of `row` if both have the same key. -/
def replace (record row : ρ) : ρ := if key row = key record then record else row

/-- Replace the row under the key of `record`, or append `record`. -/
def upsert (rows : List ρ) (record : ρ) : List ρ :=
  if key record ∈ rows.map key then rows.map (replace key record) else rows ++ [record]

/-- Overwrite the first row under the key of `record`, or append `record`. -/
def upsertAt (rows : List ρ) (record : ρ) : List ρ :=
  match rows.findIdx? fun row => key row = key record with
  | some index => rows.set index record
  | none => rows ++ [record]

/-- The keys of a history, in the order of their first appearance. -/
def firstKeys (history : List ρ) : List κ := (history.map key).eraseDups

/-- The last record that a history has under a key. -/
def latest (history : List ρ) (name : κ) : Option ρ :=
  history.reverse.find? fun record => key record = name

/-- What a history leaves in the store. -/
def rows (history : List ρ) : List ρ := (firstKeys key history).filterMap (latest key history)

variable {key}

theorem key_replace (record row : ρ) : key (replace key record row) = key row := by
  unfold replace
  by_cases same : key row = key record
  · rw [if_pos same]
    exact same.symm
  · rw [if_neg same]

theorem keys_replaced (stored : List ρ) (record : ρ) :
    (stored.map (replace key record)).map key = stored.map key := by
  simp [key_replace]

/-- Keys stay unique. -/
theorem upsert_unique {stored : List ρ} (unique : (stored.map key).Nodup) (record : ρ) :
    ((upsert key stored record).map key).Nodup := by
  unfold upsert
  by_cases present : key record ∈ stored.map key
  · rwa [if_pos present, keys_replaced]
  · rw [if_neg present, List.map_append]
    exact unique.append (by simp) (by simpa using present)

/-- Keys stay where they are, and a new one comes last. -/
theorem keys_upsert (stored : List ρ) (record : ρ) :
    stored.map key <+: (upsert key stored record).map key := by
  unfold upsert
  split
  · simp only [keys_replaced, List.prefix_rfl]
  · rw [List.map_append]
    exact List.prefix_append _ _

/-- An upsert adds the key of its record, or no key. -/
theorem countP_keys_upsert (stored : List ρ) (record : ρ) (p : κ → Bool) :
    ((upsert key stored record).map key).countP p ≤ (stored.map key).countP p + (p (key record)).toNat := by
  unfold upsert
  split
  · rw [keys_replaced]
    exact Nat.le_add_right _ _
  · rw [List.map_append, List.countP_append, List.map_singleton, List.countP_singleton]
    cases p (key record) <;> exact Nat.le_refl _

theorem replace_of_absent {stored : List ρ} {record : ρ} (absent : key record ∉ stored.map key) :
    stored.map (replace key record) = stored := by
  refine (List.map_congr_left fun row member => ?_).trans (List.map_id stored)
  have different : key row ≠ key record := fun same =>
    absent (same ▸ List.mem_map_of_mem member)
  simp [replace, different]

theorem upsertAt_cons_of_same {row record : ρ} (same : key row = key record) (rest : List ρ) :
    upsertAt key (row :: rest) record = record :: rest := by
  simp [upsertAt, List.findIdx?_cons, same]

theorem upsertAt_cons_of_ne {row record : ρ} (different : key row ≠ key record) (rest : List ρ) :
    upsertAt key (row :: rest) record = row :: upsertAt key rest record := by
  unfold upsertAt
  rw [List.findIdx?_cons, if_neg (by simpa using different)]
  cases rest.findIdx? fun row => key row = key record <;> rfl

theorem upsert_cons_of_ne {row record : ρ} (different : key row ≠ key record) (rest : List ρ) :
    upsert key (row :: rest) record = row :: upsert key rest record := by
  have kept : replace key record row = row := if_neg different
  simp only [upsert, List.map_cons, List.mem_cons, or_iff_right (Ne.symm different), kept]
  split <;> rfl

/-- Where keys are unique, overwriting the first match replaces every match. -/
theorem upsertAt_eq {stored : List ρ} (unique : (stored.map key).Nodup) (record : ρ) :
    upsertAt key stored record = upsert key stored record := by
  induction stored with
  | nil => rfl
  | cons row rest ih =>
    rw [List.map_cons, List.nodup_cons] at unique
    obtain ⟨fresh, unique⟩ := unique
    by_cases same : key row = key record
    · rw [same] at fresh
      rw [upsertAt_cons_of_same same, upsert, if_pos (by simp [same]), List.map_cons,
        replace_of_absent fresh, replace, if_pos same]
    · rw [upsertAt_cons_of_ne same, upsert_cons_of_ne same, ih unique]

/-- After an upsert a row is the new record, or was there before. -/
theorem mem_of_upsert {stored : List ρ} {record : ρ} (member : row ∈ upsert key stored record) :
    row = record ∨ row ∈ stored := by
  unfold upsert at member
  split at member
  · obtain ⟨old, found, rfl⟩ := List.mem_map.mp member
    unfold replace
    split
    · exact .inl rfl
    · exact .inr found
  · obtain found | new := List.mem_append.mp member
    · exact .inr found
    · exact .inl (List.mem_singleton.mp new)

theorem mem_upsert (stored : List ρ) (record : ρ) : record ∈ upsert key stored record := by
  unfold upsert
  split
  · rename_i present
    obtain ⟨row, member, same⟩ := List.mem_map.mp present
    exact List.mem_map.mpr ⟨row, member, if_pos same⟩
  · exact List.mem_concat_self

/-- Where keys are unique, a row is all there is under its key. -/
theorem filter_key_of_mem {stored : List ρ} (unique : (stored.map key).Nodup) (member : row ∈ stored) :
    stored.filter (fun other => key other = key row) = [row] := by
  induction stored with
  | nil => cases member
  | cons head rest ih =>
    rw [List.map_cons, List.nodup_cons] at unique
    obtain ⟨fresh, unique⟩ := unique
    obtain rfl | later := List.mem_cons.mp member
    · have none : rest.filter (fun other => key other = key row) = [] := by
        refine List.filter_eq_nil_iff.mpr fun other inside same => fresh ?_
        exact of_decide_eq_true same ▸ List.mem_map_of_mem inside
      rw [List.filter_cons_of_pos (by simp), none]
    · have different : key head ≠ key row := fun same => fresh (same ▸ List.mem_map_of_mem later)
      rw [List.filter_cons_of_neg (by simpa using different), ih unique later]

/-- The rows under other keys stay as they are, in their order. -/
theorem filter_upsert (stored : List ρ) (record : ρ) :
    (upsert key stored record).filter (fun row => key row ≠ key record) =
      stored.filter fun row => key row ≠ key record := by
  unfold upsert
  split
  · rw [List.filter_map]
    have kept : (fun row => decide (key row ≠ key record)) ∘ replace key record =
        fun row => decide (key row ≠ key record) := by
      funext row
      simp only [Function.comp_apply, key_replace]
    rw [kept]
    refine (List.map_congr_left fun row member => ?_).trans (List.map_id _)
    have different : key row ≠ key record := of_decide_eq_true (List.mem_filter.mp member).2
    rw [replace, if_neg different, id_eq]
  · simp

/-- An encoding that keeps the keys carries an upsert over. -/
theorem map_upsert {key' : ρ' → κ} {encode : ρ → ρ'} (keeps : ∀ row, key' (encode row) = key row)
    (stored : List ρ) (record : ρ) :
    (upsert key stored record).map encode = upsert key' (stored.map encode) (encode record) := by
  have keys : (stored.map encode).map key' = stored.map key := by simp [keeps]
  have replaced (row : ρ) : encode (replace key record row) = replace key' (encode record) (encode row) := by
    unfold replace
    rw [keeps, keeps]
    split <;> rfl
  unfold upsert
  rw [keys, keeps]
  split <;> simp [replaced]

/-! ### What a history leaves -/

theorem mem_firstKeys {history : List ρ} {name : κ} :
    name ∈ firstKeys key history ↔ name ∈ history.map key := by
  simp [firstKeys, List.mem_eraseDups]

theorem firstKeys_append (history : List ρ) (record : ρ) :
    firstKeys key (history ++ [record]) =
      if key record ∈ history.map key then firstKeys key history
      else firstKeys key history ++ [key record] := by
  rw [firstKeys, List.map_append, List.eraseDups_append, List.map_singleton, List.removeAll,
    List.filter_singleton]
  by_cases present : key record ∈ history.map key
  · simp only [List.elem_eq_mem, present, if_true, decide_true, Bool.not_true]
    exact List.append_nil _
  · simp only [List.elem_eq_mem, present, if_false, decide_false, Bool.not_false]
    rfl

theorem latest_append (history : List ρ) (record : ρ) (name : κ) :
    latest key (history ++ [record]) name =
      if key record = name then some record else latest key history name := by
  simp only [latest, List.reverse_append, List.reverse_singleton, List.singleton_append,
    List.find?_cons]
  split <;> simp_all

theorem key_of_latest {history : List ρ} (found : latest key history name = some row) :
    key row = name := by
  simpa using List.find?_some found

theorem latest_of_mem {history : List ρ} (present : name ∈ history.map key) :
    ∃ row, latest key history name = some row := by
  obtain ⟨record, member, same⟩ := List.mem_map.mp present
  exact Option.isSome_iff_exists.mp
    (List.find?_isSome.mpr ⟨record, List.mem_reverse.mpr member, by simpa using same⟩)

theorem mem_of_rows {history : List ρ} (member : row ∈ rows key history) : row ∈ history := by
  obtain ⟨name, _, found⟩ := List.mem_filterMap.mp member
  exact List.mem_reverse.mp (List.mem_of_find?_eq_some found)

/-- One row per key, in the order of first appearance. -/
theorem rows_keys (history : List ρ) : (rows key history).map key = firstKeys key history := by
  rw [rows, List.map_filterMap]
  refine (List.filterMap_congr fun name member => ?_).trans (List.filterMap_some)
  obtain ⟨row, found⟩ := latest_of_mem (mem_firstKeys.mp member)
  rw [found, Option.map_some, key_of_latest found]

/-- One more record is one upsert. -/
theorem rows_append (history : List ρ) (record : ρ) :
    rows key (history ++ [record]) = upsert key (rows key history) record := by
  have written (name : κ) (member : name ∈ firstKeys key history) :
      latest key (history ++ [record]) name =
        (latest key history name).map (replace key record) := by
    obtain ⟨row, found⟩ := latest_of_mem (mem_firstKeys.mp member)
    rw [latest_append, found, Option.map_some, replace, key_of_latest found]
    by_cases same : key record = name
    · simp [same]
    · simp [same, Ne.symm same]
  simp only [upsert, rows_keys, mem_firstKeys]
  rw [rows, firstKeys_append]
  by_cases present : key record ∈ history.map key
  · rw [if_pos present, if_pos present, rows, List.map_filterMap]
    exact List.filterMap_congr written
  · have kept (name : κ) (member : name ∈ firstKeys key history) :
        latest key (history ++ [record]) name = latest key history name := by
      have different : key record ≠ name := fun same =>
        present (same ▸ mem_firstKeys.mp member)
      rw [latest_append, if_neg different]
    rw [if_neg present, if_neg present, List.filterMap_append, List.filterMap_congr kept]
    simp [latest_append, rows]

theorem rows_unique (history : List ρ) : ((rows key history).map key).Nodup := by
  induction history using List.reverseRecOn with
  | nil => exact List.nodup_nil
  | append_singleton earlier record ih =>
    rw [rows_append]
    exact upsert_unique ih record

/-- Records under different keys are what they leave. -/
theorem rows_of_unique {history : List ρ} (unique : (history.map key).Nodup) : rows key history = history := by
  induction history using List.reverseRecOn with
  | nil => rfl
  | append_singleton earlier record ih =>
    rw [List.map_append, List.map_singleton, List.nodup_append_comm, List.singleton_append,
      List.nodup_cons] at unique
    obtain ⟨fresh, unique⟩ := unique
    rw [rows_append, ih unique, upsert, if_neg fresh]

/-- The row under a key is the last record of that key. -/
theorem filter_rows {history : List ρ} (found : latest key history name = some row) :
    (rows key history).filter (fun other => key other = name) = [row] := by
  obtain rfl := key_of_latest found
  have named : key row ∈ firstKeys key history :=
    mem_firstKeys.mpr (List.mem_map_of_mem (List.mem_reverse.mp (List.mem_of_find?_eq_some found)))
  exact filter_key_of_mem (rows_unique history) (List.mem_filterMap.mpr ⟨_, named, found⟩)

variable (key) in
/-- The last record of a key is one that was written no earlier than a given one. -/
theorem latest_since (earlier later : List ρ) (record : ρ) :
    ∃ row, latest key (earlier ++ record :: later) (key record) = some row ∧ (row = record ∨ row ∈ later) := by
  rw [latest, List.reverse_append, List.reverse_cons, List.append_assoc, List.find?_append]
  cases found : later.reverse.find? fun other => key other = key record with
  | some row => exact ⟨row, rfl, .inr (List.mem_reverse.mp (List.mem_of_find?_eq_some found))⟩
  | none => exact ⟨record, by simp, .inl rfl⟩

end X402Nockchain.Foundation.KeyedStore
