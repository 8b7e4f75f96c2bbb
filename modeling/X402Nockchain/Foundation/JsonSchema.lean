import X402Nockchain.Foundation.Serde

/-! JSON Schema, Draft 2020-12: what the keywords `type`, `const`, `enum`,
`required`, `properties` and `additionalProperties` ask of a document. -/

namespace X402Nockchain.Foundation.JsonSchema

open Serde

def draft : Value := .string "https://json-schema.org/draft/2020-12/schema"

def hasType : Value → String → Bool
  | .null, kind => kind == "null"
  | .bool _, kind => kind == "boolean"
  | .number _, kind => kind == "number"
  | .string _, kind => kind == "string"
  | .array _, kind => kind == "array"
  | .object _, kind => kind == "object"

/-- A document that is the text `value`. -/
def isText (document value : Value) : Bool :=
  match document, value with
  | .string text, .string expected => text == expected
  | _, _ => false

def hasMember (document name : Value) : Bool :=
  match document, name with
  | .object members, .string name => (members.lookup name).isSome
  | .object _, _ => false
  | _, _ => true

/-- The names under `properties`, which `additionalProperties` leaves out. -/
def declared (keywords : List (String × Value)) : List String :=
  match keywords.lookup "properties" with
  | some (.object properties) => properties.map Prod.fst
  | _ => []

/-- The members of a document that no property declares. -/
def additional (names : List String) : Value → List (String × Value)
  | .object members => members.filter fun member => !names.contains member.1
  | _ => []

mutual

/-- A keyword that does not apply to a document, or is not a keyword, asks nothing. -/
def satisfies : (schema document : Value) → Bool
  | .bool allowed, _ => allowed
  | .object keywords, document => keywordsHold (declared keywords) keywords document
  | _, _ => false

def keywordsHold (names : List String) : List (String × Value) → Value → Bool
  | [], _ => true
  | (keyword, argument) :: rest, document =>
    (match keyword, argument with
      | "type", .string kind => hasType document kind
      | "const", value => isText document value
      | "enum", .array values => values.any (isText document)
      | "required", .array required => required.all (hasMember document)
      | "properties", .object properties => propertiesHold properties document
      | "additionalProperties", schema =>
        (additional names document).all fun member => satisfies schema member.2
      | _, _ => true) && keywordsHold names rest document

def propertiesHold : List (String × Value) → Value → Bool
  | [], _ => true
  | (name, schema) :: rest, document =>
    (document.get name).all (satisfies schema) && propertiesHold rest document

end

mutual

/-- A schema whose keywords are the ones above, with arguments of the forms above. -/
def understood : Value → Bool
  | .bool _ => true
  | .object keywords => keywordsUnderstood keywords
  | _ => false

def keywordsUnderstood : List (String × Value) → Bool
  | [] => true
  | (keyword, argument) :: rest =>
    (match keyword, argument with
      | "$schema", .string uri => isText draft (.string uri)
      | "type", .string kind =>
        ["null", "boolean", "number", "string", "array", "object"].contains kind
      | "const", .string _ => true
      | "enum", .array values => values.all fun value => value.asStr.isSome
      | "required", .array required => required.all fun name => name.asStr.isSome
      | "properties", .object properties => propertiesUnderstood properties
      | "additionalProperties", schema => understood schema
      | _, _ => false) && keywordsUnderstood rest

def propertiesUnderstood : List (String × Value) → Bool
  | [] => true
  | (_, schema) :: rest => understood schema && propertiesUnderstood rest

end

/-! ### Schemas of objects -/

def texts (names : List String) : Value := .array (names.map .string)

/-- The keywords of an object with some properties, of which some are required. -/
def objectKeywords (properties : List (String × Option Value)) (required : List String) :
    List (String × Value) :=
  [("type", .string "object"), ("properties", .object (present properties)), ("required", texts required)]

/-- `objectKeywords`, and no further members. -/
def closedKeywords (properties : List (String × Option Value)) (required : List String) :
    List (String × Value) :=
  [("type", .string "object"), ("properties", .object (present properties)), ("required", texts required),
    ("additionalProperties", .bool false)]

section Records

variable {fields : List (String × Option Value)}

@[simp] theorem hasType_text (text kind : String) : hasType (toValue text) kind = (kind == "string") := rfl

@[simp] theorem hasType_record (kind : String) : hasType (record fields) kind = (kind == "object") := rfl

@[simp] theorem isText_text (text expected : String) :
    isText (toValue text) (.string expected) = (text == expected) := rfl

@[simp] theorem get_record (distinct : (fields.map Prod.fst).Nodup) (name : String) :
    (record fields).get name = (fields.lookup name).join := lookup_present distinct name

@[simp] theorem hasMember_record (distinct : (fields.map Prod.fst).Nodup) (name : String) :
    hasMember (record fields) (.string name) = (fields.lookup name).join.isSome :=
  congrArg Option.isSome (lookup_present distinct name)

@[simp] theorem propertiesHold_present_nil (document : Value) : propertiesHold (present []) document = true :=
  rfl

@[simp] theorem propertiesHold_present_cons (name : String) (schema : Option Value) (document : Value) :
    propertiesHold (present ((name, schema) :: fields)) document =
      ((schema.all fun schema => (document.get name).all (satisfies schema)) &&
        propertiesHold (present fields) document) := by
  cases schema <;> rfl

/-- The dialect asks nothing of a document. -/
theorem keywordsHold_draft (names : List String) (rest : List (String × Value)) (document : Value) :
    keywordsHold names (("$schema", draft) :: rest) document = keywordsHold names rest document := by
  simp [keywordsHold]

theorem all_hasMember_record (distinct : (fields.map Prod.fst).Nodup) (required : List String) :
    (required.map Value.string).all (hasMember (record fields)) =
      required.all fun name => (fields.lookup name).join.isSome := by
  rw [List.all_map]
  exact congrArg required.all (funext fun name => hasMember_record distinct name)

/-- A struct fits once its members fit their properties and the required ones are there. -/
theorem keywordsHold_objectKeywords (names : List String) (distinct : (fields.map Prod.fst).Nodup)
    (properties : List (String × Option Value)) (required : List String) :
    keywordsHold names (objectKeywords properties required) (record fields) =
      (propertiesHold (present properties) (record fields) &&
        required.all fun name => (fields.lookup name).join.isSome) := by
  simp [objectKeywords, keywordsHold, texts, -List.all_map, all_hasMember_record distinct]

/-- The members that `names` leave out are those of no name among them. -/
theorem additional_record (fields : List (String × Option Value)) (names : List String) :
    additional names (record fields) = [] ↔ ∀ field ∈ fields, field.2.isSome = true → field.1 ∈ names := by
  simp only [additional, record, present, List.filter_eq_nil_iff, List.mem_filterMap, Option.map_eq_some_iff]
  constructor
  · intro covered field member written
    obtain ⟨value, found⟩ := Option.isSome_iff_exists.mp written
    simpa using covered (field.1, value) ⟨field, member, value, found, rfl⟩
  · rintro covered _ ⟨field, member, value, found, rfl⟩
    simpa using covered field member (by rw [found]; rfl)

theorem mem_present_keys (distinct : (fields.map Prod.fst).Nodup) (name : String) :
    name ∈ (present fields).map Prod.fst ↔ (fields.lookup name).join.isSome = true := by
  rw [← lookup_present distinct, List.lookup_isSome_iff, List.mem_map]
  exact exists_congr fun pair => and_congr_right fun _ => by rw [beq_iff_eq, eq_comm]

/-- A struct fits a closed schema if besides it has no member that is not a property. -/
theorem satisfies_closedKeywords (distinct : (fields.map Prod.fst).Nodup)
    {properties : List (String × Option Value)} (distinct' : (properties.map Prod.fst).Nodup)
    (required : List String) :
    satisfies (.object (closedKeywords properties required)) (record fields) = true ↔
      propertiesHold (present properties) (record fields) = true ∧
      (∀ name ∈ required, (fields.lookup name).join.isSome = true) ∧
      ∀ field ∈ fields, field.2.isSome = true → (properties.lookup field.1).join.isSome = true := by
  have names : declared (closedKeywords properties required) = (present properties).map Prod.fst := rfl
  have others := additional_record fields ((present properties).map Prod.fst)
  simp only [mem_present_keys distinct'] at others
  rw [satisfies, names, ← others, List.eq_nil_iff_forall_not_mem]
  simp [closedKeywords, keywordsHold, texts, -List.all_map, all_hasMember_record distinct, satisfies]

end Records

/-- Every declared property that the document has satisfies its schema. -/
theorem propertiesHold_iff {properties : List (String × Value)} {document : Value} :
    propertiesHold properties document = true ↔ ∀ name schema, (name, schema) ∈ properties →
      ∀ value, document.get name = some value → satisfies schema value = true := by
  induction properties with
  | nil => simp [propertiesHold]
  | cons head rest ih =>
    obtain ⟨name, schema⟩ := head
    simp only [propertiesHold, Bool.and_eq_true, ih, List.mem_cons, Prod.mk.injEq]
    constructor
    · rintro ⟨first, others⟩ other subschema (⟨rfl, rfl⟩ | member) value found
      · simpa [found] using first
      · exact others other subschema member value found
    · intro each
      refine ⟨?_, fun other subschema member => each other subschema (.inr member)⟩
      cases found : document.get name with
      | none => rfl
      | some value => exact each name schema (.inl ⟨rfl, rfl⟩) value found

theorem propertiesUnderstood_iff {properties : List (String × Value)} :
    propertiesUnderstood properties = true ↔ ∀ name schema, (name, schema) ∈ properties →
      understood schema = true := by
  induction properties with
  | nil => simp [propertiesUnderstood]
  | cons head rest ih =>
    obtain ⟨name, schema⟩ := head
    simp only [propertiesUnderstood, Bool.and_eq_true, ih, List.mem_cons, Prod.mk.injEq]
    constructor
    · rintro ⟨first, others⟩ other subschema (⟨rfl, rfl⟩ | member)
      · exact first
      · exact others other subschema member
    · exact fun each => ⟨each name schema (.inl ⟨rfl, rfl⟩),
        fun other subschema member => each other subschema (.inr member)⟩

end X402Nockchain.Foundation.JsonSchema

namespace X402Nockchain.Foundation

open Serde

/-- The validator crate: schemas are compiled, and a document has a list of violations. -/
class JsonSchema where
  Compiled : Type
  compile : Value → Except String Compiled
  violations : Compiled → Value → List String

/-- The documented behaviour of the validator on the keywords above. -/
class LawfulJsonSchema [JsonSchema] : Prop where
  compiles : ∀ schema, JsonSchema.understood schema = true →
    ∃ compiled, JsonSchema.compile schema = .ok compiled ∧
      ∀ document, JsonSchema.violations compiled document = [] ↔
        JsonSchema.satisfies schema document = true

/-! ### A transparent stand-in -/

/-- A validator of the keywords above, with one violation text. -/
@[reducible] def plainSchemas : JsonSchema where
  Compiled := Value
  compile schema := if JsonSchema.understood schema then .ok schema else .error "unknown keyword"
  violations schema document := if JsonSchema.satisfies schema document then [] else ["not satisfied"]

theorem plainSchemas_lawful : @LawfulJsonSchema plainSchemas :=
  letI := plainSchemas
  ⟨fun schema known => ⟨schema, if_pos known, fun document => by
    change (if JsonSchema.satisfies schema document = true then [] else ["not satisfied"]) = [] ↔ _
    simp⟩⟩

end X402Nockchain.Foundation
