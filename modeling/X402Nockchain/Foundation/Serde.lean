import Mathlib.Data.Vector.Basic

/-! The data model of `serde_json::Value` and the decoding rules that derived
`Serialize`/`Deserialize` implementations share. Only success and the decoded
value are modelled; the wording of a decoding error belongs to `serde_json`. -/

namespace X402Nockchain.Foundation.Serde

inductive Number where
  | posInt (value : UInt64)
  | negInt (value : Int64)
  | float (text : String)
  deriving DecidableEq

/-- A JSON document. A map keeps its members as an association list; the keys
of a parsed map are distinct and their order is never observed. -/
inductive Value where
  | null
  | bool (value : Bool)
  | number (value : Number)
  | string (text : String)
  | array (elements : List Value)
  | object (members : List (String × Value))

/-- `serde_json::to_value`. -/
class Serialize (α : Type u) where
  toValue : α → Value

/-- `serde_json::from_value`, without the error text. -/
class Deserialize (α : Type u) where
  fromValue : Value → Option α

/-- The wording of a decoding error, which belongs to `serde_json`. -/
class ErrorText where
  decodeFailure : Value → String

/-- Printing and parsing a JSON document, which belong to `serde_json`. -/
class JsonText where
  print : Value → String
  parse : String → Option Value

/-- `serde_json::to_string`. The documents of this crate always serialize. -/
def toText [JsonText] [Serialize α] (value : α) : String := JsonText.print (Serialize.toValue value)

/-- `serde_json::from_str`, without the error text. -/
def fromText [JsonText] [Deserialize α] (text : String) : Option α :=
  (JsonText.parse text).bind Deserialize.fromValue

export Serialize (toValue)
export Deserialize (fromValue)

/-- Every value of the type survives a trip through JSON. -/
class RoundTrips (α : Type u) [Serialize α] [Deserialize α] : Prop where
  fromValue_toValue : ∀ value : α, fromValue (toValue value) = some value

export RoundTrips (fromValue_toValue)
attribute [simp] fromValue_toValue

/-- `Value::get` with a string index: a member of an object. -/
def Value.get (value : Value) (key : String) : Option Value :=
  match value with
  | .object members => members.lookup key
  | _ => none

def Value.asStr : Value → Option String
  | .string text => some text
  | _ => none

instance : Serialize Value := ⟨id⟩
instance : Deserialize Value := ⟨some⟩
instance : RoundTrips Value := ⟨fun _ => rfl⟩

instance : Serialize String := ⟨.string⟩
instance : Deserialize String := ⟨Value.asStr⟩
instance : RoundTrips String := ⟨fun _ => rfl⟩

instance : Serialize Bool := ⟨.bool⟩
instance : Deserialize Bool where
  fromValue
    | .bool value => some value
    | _ => none
instance : RoundTrips Bool := ⟨fun _ => rfl⟩

instance : Serialize UInt64 := ⟨fun value => .number (.posInt value)⟩
instance : Deserialize UInt64 where
  fromValue
    | .number (.posInt value) => some value
    | _ => none
instance : RoundTrips UInt64 := ⟨fun _ => rfl⟩

instance : Serialize UInt32 := ⟨fun value => .number (.posInt value.toUInt64)⟩
instance : Deserialize UInt32 where
  fromValue
    | .number (.posInt value) => if value.toNat < 2 ^ 32 then some value.toUInt32 else none
    | _ => none
instance : RoundTrips UInt32 where
  fromValue_toValue value := by
    have below : value.toUInt64.toNat < 2 ^ 32 := by simp [value.toNat_lt]
    simp [fromValue, toValue, value.toNat_lt]

/-- A `BTreeMap<String, Value>`. -/
instance : Serialize (List (String × Value)) := ⟨.object⟩
instance : Deserialize (List (String × Value)) where
  fromValue
    | .object members => some members
    | _ => none
instance : RoundTrips (List (String × Value)) := ⟨fun _ => rfl⟩

section Sequences

variable {α : Type u} [Serialize α] [Deserialize α]

instance : Serialize (List α) := ⟨fun values => .array (values.map toValue)⟩
instance : Deserialize (List α) where
  fromValue
    | .array elements => elements.mapM fromValue
    | _ => none
/-- A sequence reads back once its elements do. -/
theorem fromValue_toValue_of_each {values : List α}
    (each : ∀ value ∈ values, fromValue (toValue value) = some value) :
    fromValue (toValue values) = some values := by
  change (values.map toValue).mapM fromValue = some values
  induction values with
  | nil => rfl
  | cons head rest ih =>
    rw [List.forall_mem_cons] at each
    simp [each.1, ih each.2]

/-- A sequence is read element by element. -/
theorem fromValue_toValue_map {read : α → α} (each : ∀ value : α, fromValue (toValue value) = some (read value))
    (values : List α) : fromValue (toValue values) = some (values.map read) := by
  change (values.map toValue).mapM fromValue = some (values.map read)
  induction values with
  | nil => rfl
  | cons head rest ih => simp [each, ih]

instance [RoundTrips α] : RoundTrips (List α) where
  fromValue_toValue _ := fromValue_toValue_of_each fun value _ => fromValue_toValue value

/-- A fixed-size array takes exactly its number of elements. -/
instance : Serialize (List.Vector α n) := ⟨fun values => toValue values.toList⟩
instance : Deserialize (List.Vector α n) where
  fromValue value := (fromValue value).bind fun values : List α =>
    if width : values.length = n then some ⟨values, width⟩ else none
instance [RoundTrips α] : RoundTrips (List.Vector α n) where
  fromValue_toValue values := by
    obtain ⟨values, width⟩ := values
    change (fromValue (toValue values)).bind _ = _
    rw [fromValue_toValue]
    simp [width]

instance : Serialize (Option α) := ⟨fun value => value.elim .null toValue⟩
instance : Deserialize (Option α) where
  fromValue
    | .null => some none
    | value => (fromValue value).map some

end Sequences

theorem fromValue_option [Deserialize α] {value : Value} : (fromValue value : Option (Option α)) =
    match value with
    | .null => some none
    | other => (fromValue other : Option α).map some := by
  cases value <;> rfl

/-- Where no key occurs twice, every member is found under its own. -/
theorem lookup_of_mem {members : List (String × α)} (distinct : (members.map Prod.fst).Nodup)
    (member : (name, value) ∈ members) : members.lookup name = some value := by
  obtain ⟨front, back, rfl⟩ := List.append_of_mem member
  rw [List.map_append, List.map_cons, List.nodup_append] at distinct
  refine List.lookup_eq_some_iff.mpr ⟨front, back, rfl, fun pair earlier => ?_⟩
  have apart := distinct.2.2 pair.1 (List.mem_map_of_mem earlier) name List.mem_cons_self
  simpa using Ne.symm apart

/-- A `BTreeMap<String, α>`: keys occur once, and their order is never observed. -/
structure StringMap (α : Type u) where
  entries : List (String × α)
  distinct : (entries.map Prod.fst).Nodup

namespace StringMap

variable {α : Type u} [Serialize α] [Deserialize α]

def members (map : StringMap α) : List (String × Value) :=
  map.entries.map fun entry => (entry.1, toValue entry.2)

def readEntry (member : String × Value) : Option (String × α) :=
  (fromValue member.2).map (member.1, ·)

/-- The map of some members, if no key occurs twice. -/
def ofMembers (members : List (String × Value)) : Option (StringMap α) :=
  (members.mapM readEntry).bind fun entries =>
    if distinct : (entries.map Prod.fst).Nodup then some ⟨entries, distinct⟩ else none

instance : Serialize (StringMap α) := ⟨fun map => .object map.members⟩
instance : Deserialize (StringMap α) where
  fromValue
    | .object members => ofMembers members
    | _ => none

@[simp] theorem ofMembers_members [RoundTrips α] (map : StringMap α) : ofMembers map.members = some map := by
  obtain ⟨entries, distinct⟩ := map
  have read : (entries.map fun entry => (entry.1, toValue entry.2)).mapM (readEntry (α := α)) =
      some entries := by
    clear distinct
    induction entries with
    | nil => rfl
    | cons head rest ih => simp [readEntry, ih]
  simp [ofMembers, members, read, distinct]

instance [RoundTrips α] : RoundTrips (StringMap α) := ⟨ofMembers_members⟩

end StringMap

/-- A unit variant of an externally tagged enum: its name, or a map from its name to
`null`. The content that an internally tagged enum has buffered takes an empty map for
a unit as well. -/
def Value.variantName (buffered : Bool) : Value → Option String
  | .string name => some name
  | .object [(name, .null)] => some name
  | .object [(name, .object [])] => if buffered then some name else none
  | _ => none

/-- An enum of unit variants, and whether it is read from buffered content. -/
class UnitEnum (α : Type u) where
  name : α → String
  ofName : String → Option α
  buffered : Bool := false

instance [UnitEnum α] : Serialize α := ⟨fun value => .string (UnitEnum.name value)⟩
instance [UnitEnum α] : Deserialize α :=
  ⟨fun value => (value.variantName (UnitEnum.buffered α)).bind UnitEnum.ofName⟩

/-- Unit variants read back once their names are told apart. -/
theorem UnitEnum.roundTrips [UnitEnum α] (named : ∀ value : α, ofName (name value) = some value) :
    RoundTrips α := ⟨named⟩

@[simp] theorem UnitEnum.toValue_ne_null [UnitEnum α] (value : α) : toValue value ≠ .null :=
  fun same => nomatch same

/-- Where a derived struct visitor takes its fields from: the members of a map
by name, or the elements of a sequence by position. -/
inductive Source where
  | map (members : List (String × Value))
  | seq (elements : List Value)

/-- Open `value` as a struct of `width` fields. Surplus sequence elements are an
error, unknown map members are not. -/
def Value.source (width : Nat) : Value → Option Source
  | .object members => some (.map members)
  | .array elements => if elements.length ≤ width then some (.seq elements) else none
  | _ => none

def Source.field (source : Source) (position : Nat) (name : String) : Option Value :=
  match source with
  | .map members => members.lookup name
  | .seq elements => elements[position]?

/-- A field without a default. -/
def Source.required [Deserialize α] (source : Source) (position : Nat) (name : String) : Option α :=
  (source.field position name).bind fromValue

/-- A field under `#[serde(default)]`. -/
def Source.defaulted [Deserialize α] (source : Source) (position : Nat) (name : String)
    (default : α) : Option α :=
  match source.field position name with
  | none => some default
  | some value => fromValue value

/-- An `Option` field without a default: a map may leave it out, a sequence may not. -/
def Source.optional [Deserialize α] (source : Source) (position : Nat) (name : String) :
    Option (Option α) :=
  match source with
  | .map _ => source.defaulted position name none
  | .seq _ => source.required position name

/-- The members that a struct serializer writes. A skipped field (`none`)
leaves no member. -/
def present (fields : List (String × Option Value)) : List (String × Value) :=
  fields.filterMap fun field => field.2.map (field.1, ·)

/-- A serialized struct. -/
def record (fields : List (String × Option Value)) : Value := .object (present fields)

/-- `skip_serializing_if = "Option::is_none"`. -/
def skipNone [Serialize α] (value : Option α) : Option Value := value.map toValue

/-- A struct under `#[derive(Serialize, Deserialize)]`. -/
class Struct (α : Type u) where
  width : Nat
  fields : α → List (String × Option Value)
  read : Source → Option α

instance [Struct α] : Serialize α := ⟨fun value => record (Struct.fields value)⟩
instance [Struct α] : Deserialize α :=
  ⟨fun value => (value.source (Struct.width α)).bind Struct.read⟩

/-- Of fields under different names, those that are present are found under their own. -/
theorem lookup_filterMap {fields : List (String × Option α)} (distinct : (fields.map Prod.fst).Nodup)
    (name : String) :
    (fields.filterMap fun field => field.2.map (field.1, ·)).lookup name = (fields.lookup name).join := by
  induction fields with
  | nil => rfl
  | cons field rest ih =>
    obtain ⟨key, value⟩ := field
    rw [List.map_cons, List.nodup_cons] at distinct
    obtain ⟨absent, distinct⟩ := distinct
    have later := ih distinct
    by_cases same : name = key
    · subst key
      cases value with
      | some value => simp
      | none =>
        have missing : rest.lookup name = none := by
          apply List.lookup_eq_none_iff.mpr
          intro pair member
          simp only [bne_iff_ne, ne_eq]
          intro same
          exact absent (List.mem_map.mpr ⟨pair, member, same.symm⟩)
        simp [later, missing]
    · have different : (name == key) = false := by simpa using same
      cases value <;> simp [List.lookup_cons, different, later]

theorem names_filterMap (fields : List (String × Option α)) :
    ((fields.filterMap fun field => field.2.map (field.1, ·)).map Prod.fst).Sublist (fields.map Prod.fst) := by
  induction fields with
  | nil => exact List.Sublist.slnil
  | cons field rest ih =>
    obtain ⟨key, value⟩ := field
    cases value with
    | none => exact ih.cons key
    | some value => exact ih.cons_cons key

/-- Reading back a serialized struct finds each field under its own name. -/
theorem lookup_present {fields : List (String × Option Value)}
    (distinct : (fields.map Prod.fst).Nodup) (name : String) :
    (present fields).lookup name = (fields.lookup name).join := lookup_filterMap distinct name

@[simp] theorem Struct.toValue_ne_null [Struct α] (value : α) : toValue value ≠ .null :=
  fun same => nomatch same

@[simp] theorem string_ne_null (text : String) : toValue text ≠ .null :=
  fun same => nomatch same

@[simp] theorem map_ne_null (members : List (String × Value)) : toValue members ≠ .null :=
  fun same => nomatch same

@[simp] theorem StringMap.toValue_ne_null [Serialize α] (map : StringMap α) : toValue map ≠ .null :=
  fun same => nomatch same

section Fields

variable [Deserialize α] {fields : List (String × Option Value)}

@[simp] theorem required_present (distinct : (fields.map Prod.fst).Nodup) (position : Nat)
    (name : String) : (Source.map (present fields)).required position name =
      ((fields.lookup name).join.bind fromValue : Option α) := by
  rw [Source.required, Source.field, lookup_present distinct]

@[simp] theorem defaulted_present (distinct : (fields.map Prod.fst).Nodup) (position : Nat)
    (name : String) (default : α) : (Source.map (present fields)).defaulted position name default =
      (fields.lookup name).join.elim (some default) fromValue := by
  rw [Source.defaulted, Source.field, lookup_present distinct]
  cases (fields.lookup name).join <;> rfl

@[simp] theorem optional_present (distinct : (fields.map Prod.fst).Nodup) (position : Nat)
    (name : String) : (Source.map (present fields)).optional position name =
      ((fields.lookup name).join.elim (some none) fromValue : Option (Option α)) :=
  defaulted_present distinct position name none

end Fields

/-- A struct round-trips once its own members are read back. -/
theorem Struct.roundTrips [Struct α]
    (readBack : ∀ value : α, read (.map (present (fields value))) = some value) : RoundTrips α :=
  ⟨readBack⟩

/-- An optional member reads back as itself, unless it is written as `null`. -/
theorem elim_skipNone_of [Serialize α] [Deserialize α] [RoundTrips α] {value : Option α}
    (written : ∀ inner, value = some inner → toValue inner ≠ .null) :
    (skipNone value).elim (some none) fromValue = some value := by
  cases value with
  | none => rfl
  | some inner =>
    have read := fromValue_toValue inner
    simp only [skipNone, Option.map_some, Option.elim_some]
    cases shape : toValue inner with
    | null => exact absurd shape (written inner rfl)
    | _ =>
      rw [shape] at read
      simp [fromValue] at read ⊢
      exact read

/-- An optional member of a type that is never written as `null` reads back as itself. -/
theorem elim_skipNone [Serialize α] [Deserialize α] [RoundTrips α]
    (written : ∀ value : α, toValue value ≠ .null) (value : Option α) :
    (skipNone value).elim (some none) fromValue = some value :=
  elim_skipNone_of fun inner _ => written inner

/-- An explicit `null` is read back as an absent document. -/
def dropNull : Option Value → Option Value
  | some .null => none
  | value => value

@[simp] theorem dropNull_idem (value : Option Value) : dropNull (dropNull value) = dropNull value := by
  obtain _ | ⟨⟨⟩⟩ := value <;> rfl

theorem dropNull_of_explicit {value : Option Value} (explicit : value ≠ some .null) :
    dropNull value = value := by
  obtain _ | inner := value
  · rfl
  · cases inner with
    | null => exact absurd rfl explicit
    | _ => rfl

/-- An optional document that was read is not an explicit `null`. -/
theorem Source.defaulted_explicit {source : Source} {document : Option Value}
    (read : source.defaulted position name none = some document) : document ≠ some .null := by
  unfold Source.defaulted at read
  split at read
  · cases read
    nofun
  · rename_i value _
    rintro rfl
    cases value <;> cases read

@[simp] theorem elim_skipNone_document (value : Option Value) :
    (skipNone value).elim (some none) fromValue = some (dropNull value) := by
  obtain _ | ⟨⟨⟩⟩ := value <;> rfl

/-! ### Compact printing of documents whose texts need no escape -/

mutual

def compact : Value → String
  | .null => "null"
  | .bool value => if value then "true" else "false"
  | .number (.posInt value) => toString value
  | .number (.negInt value) => toString value
  | .number (.float text) => text
  | .string text => "\"" ++ text ++ "\""
  | .array elements => "[" ++ ",".intercalate (compactElements elements) ++ "]"
  | .object members => "\x7b" ++ ",".intercalate (compactMembers members) ++ "\x7d"

def compactElements : List Value → List String
  | [] => []
  | head :: rest => compact head :: compactElements rest

def compactMembers : List (String × Value) → List String
  | [] => []
  | (key, value) :: rest => ("\"" ++ key ++ "\":" ++ compact value) :: compactMembers rest

end

end X402Nockchain.Foundation.Serde
