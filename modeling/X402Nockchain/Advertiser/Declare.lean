import X402Nockchain.Foundation.JsonSchema
import X402Nockchain.X402Types.Bazaar

/-! `x402-advertiser`: the extension blocks that a server attaches to its 402
responses, each with a schema for its own info. -/

namespace X402Nockchain.Advertiser

open Foundation Foundation.Serde X402Types

open JsonSchema (texts objectKeywords closedKeywords)

/-! ### The builders of schemas -/

def ofType (kind : String) : Value := .object [("type", .string kind)]

def constant (text : String) : Value := .object [("type", .string "string"), ("const", .string text)]

def oneOf (names : List String) : Value := .object [("type", .string "string"), ("enum", texts names)]

def outputSchema : Value := .object (objectKeywords [("type", some (ofType "string"))] ["type"])

/-- The schema of an info block, around that of its input. The three builders
write it alike. -/
def infoSchema (input : Value) (output : Option DiscoveryOutput) : Value :=
  .object (("$schema", JsonSchema.draft) :: objectKeywords
    [("input", some input), ("output", output.map fun _ => outputSchema)] ["input"])

/-- The `queryParams` that a query lists, each a text. -/
def queryParamsSchema (queryParams : StringMap Value) : Value :=
  let props := queryParams.entries.map fun entry => (entry.1, ofType "string")
  .object [("type", .string "object"), ("properties", .object props)]

def querySchema (queryParams : Option (StringMap Value)) : Value :=
  .object (closedKeywords [
    ("type", some (constant "http")),
    ("method", some (oneOf ["GET", "HEAD", "DELETE"])),
    ("queryParams", queryParams.map queryParamsSchema)] ["type", "method"])

def buildQuerySchema (_method : QueryMethod) (queryParams : Option (StringMap Value))
    (_headers : Option (StringMap String)) (output : Option DiscoveryOutput) : Value :=
  infoSchema (querySchema queryParams) output

def bodySchema : Value :=
  .object (objectKeywords [
    ("type", some (constant "http")),
    ("method", some (oneOf ["POST", "PUT", "PATCH"])),
    ("bodyType", some (oneOf ["json", "form-data", "text"])),
    ("body", some (.object []))] ["type", "method", "bodyType", "body"])

def buildBodySchema (_method : BodyMethod) (_bodyType : BodyType) (_body : Value)
    (_queryParams : Option (StringMap Value)) (_headers : Option (StringMap String))
    (output : Option DiscoveryOutput) : Value :=
  infoSchema bodySchema output

def mcpSchema : Value :=
  .object (closedKeywords [
    ("type", some (constant "mcp")),
    ("tool", some (ofType "string")),
    ("description", some (ofType "string")),
    ("transport", some (oneOf ["streamable-http", "sse"])),
    ("inputSchema", some (ofType "object")),
    ("example", some (ofType "object"))] ["type", "tool", "inputSchema"])

def buildMcpSchema (_inputSchema : Value) (_transport : Option McpTransport)
    (output : Option DiscoveryOutput) : Value :=
  infoSchema mcpSchema output

/-! ### The builders of extension blocks -/

def declareHttpQuery (method : QueryMethod) (queryParams : Option (StringMap Value))
    (headers : Option (StringMap String)) (output : Option DiscoveryOutput) : BazaarExtension where
  info := { input := .http (.query method queryParams headers), output }
  schema := buildQuerySchema method queryParams headers output

def declareHttpBody (method : BodyMethod) (bodyType : BodyType) (body : Value)
    (queryParams : Option (StringMap Value)) (headers : Option (StringMap String))
    (output : Option DiscoveryOutput) : BazaarExtension where
  info := { input := .http (.body method bodyType body queryParams headers), output }
  schema := buildBodySchema method bodyType body queryParams headers output

def declareMcp (tool : String) (description : Option String) (inputSchema : Value)
    (transport : Option McpTransport) («example» : Option Value) (output : Option DiscoveryOutput) :
    BazaarExtension where
  info := { input := .mcp { tool, description, inputSchema, transport, «example» }, output }
  schema := buildMcpSchema inputSchema transport output

/-! ### What the schemas ask -/

open JsonSchema

theorem understood_infoSchema (input : Value) (output : Option DiscoveryOutput) :
    understood (infoSchema input output) = understood input := by
  have outputs : understood outputSchema = true := by decide
  cases output <;> simp [infoSchema, objectKeywords, understood, keywordsUnderstood, propertiesUnderstood,
    present, texts, isText, draft, Value.asStr, outputs]

theorem understood_querySchema (queryParams : Option (StringMap Value)) :
    understood (querySchema queryParams) = true := by
  cases queryParams with
  | none => decide
  | some queryParams =>
    have each : propertiesUnderstood (queryParams.entries.map fun entry => (entry.1, ofType "string")) =
        true := by
      rw [propertiesUnderstood_iff]
      intro name schema member
      obtain ⟨entry, _, same⟩ := List.mem_map.mp member
      obtain ⟨_, rfl⟩ := Prod.mk.inj same
      decide
    simp [querySchema, closedKeywords, queryParamsSchema, understood, keywordsUnderstood,
      propertiesUnderstood, present, texts, constant, oneOf, Value.asStr, each]

theorem understood_bodySchema : understood bodySchema = true := by decide

theorem understood_mcpSchema : understood mcpSchema = true := by decide

/-- An output always satisfies its schema. -/
theorem satisfies_outputSchema (output : DiscoveryOutput) :
    satisfies outputSchema (toValue output) = true := by
  have written : toValue output = record (Struct.fields output) := rfl
  rw [written, outputSchema, satisfies, keywordsHold_objectKeywords _ (by simp [Struct.fields])]
  simp (disch := simp) [ofType, satisfies, keywordsHold, Struct.fields]

/-- An info block satisfies its schema once its input does. -/
theorem satisfies_infoSchema (input : Value) (info : DiscoveryInfo) :
    satisfies (infoSchema input info.output) (toValue info) = satisfies input (toValue info.input) := by
  have written : toValue info = record (Struct.fields info) := rfl
  rw [written, infoSchema, satisfies, keywordsHold_draft,
    keywordsHold_objectKeywords _ (by simp [Struct.fields])]
  obtain ⟨given, output⟩ := info
  cases output <;> simp (disch := simp) [Struct.fields, skipNone, List.lookup_cons, satisfies_outputSchema]

/-- Query parameters fit their schema exactly when each is a text. -/
theorem satisfies_queryParamsSchema_iff (queryParams : StringMap Value) :
    satisfies (queryParamsSchema queryParams) (toValue queryParams) = true ↔
      ∀ entry ∈ queryParams.entries, ∃ text, entry.2 = .string text := by
  have fits : satisfies (queryParamsSchema queryParams) (toValue queryParams) =
      propertiesHold (queryParams.entries.map fun entry => (entry.1, ofType "string"))
        (.object queryParams.members) := by
    change satisfies (queryParamsSchema queryParams) (.object queryParams.members) = _
    simp [queryParamsSchema, satisfies, keywordsHold, hasType]
  have text (value : Value) : satisfies (ofType "string") value = true ↔ ∃ text, value = .string text := by
    cases value <;> simp [ofType, satisfies, keywordsHold, hasType]
  have members : queryParams.members = queryParams.entries := List.map_id _
  rw [fits, propertiesHold_iff, members]
  constructor
  · intro each entry member
    have found := lookup_of_mem queryParams.distinct member
    exact (text entry.2).mp (each entry.1 (ofType "string") (List.mem_map.mpr ⟨entry, member, rfl⟩)
      entry.2 found)
  · intro each name schema member value found
    obtain ⟨entry, listed, same⟩ := List.mem_map.mp member
    obtain ⟨rfl, rfl⟩ := Prod.mk.inj same
    have held : queryParams.entries.lookup entry.1 = some entry.2 := lookup_of_mem queryParams.distinct listed
    obtain rfl := Option.some.inj (held.symm.trans found)
    exact (text entry.2).mpr (each entry listed)

/-- A query fits its schema exactly when it lists no headers and its parameters are texts. -/
theorem satisfies_querySchema_iff (method : QueryMethod) (queryParams : Option (StringMap Value))
    (headers : Option (StringMap String)) :
    satisfies (querySchema queryParams)
        (toValue (DiscoveryInput.http (.query method queryParams headers))) = true ↔
      headers = none ∧ ∀ map, queryParams = some map →
        ∀ entry ∈ map.entries, ∃ text, entry.2 = .string text := by
  have written : toValue (DiscoveryInput.http (.query method queryParams headers)) =
      record [("type", some (.string "http")), ("method", some (toValue method)),
        ("queryParams", skipNone queryParams), ("headers", skipNone headers)] := rfl
  have tag : satisfies (constant "http") (.string "http") = true := by decide
  have named : satisfies (oneOf ["GET", "HEAD", "DELETE"]) (toValue method) = true := by
    cases method <;> decide
  have fits : ((queryParams.map queryParamsSchema).all fun schema =>
      (queryParams.map toValue).all (satisfies schema)) = true ↔ ∀ map, queryParams = some map →
        ∀ entry ∈ map.entries, ∃ text, entry.2 = .string text := by
    cases queryParams <;> simp [satisfies_queryParamsSchema_iff]
  rw [written, querySchema, satisfies_closedKeywords (by simp) (by simp)]
  simp (disch := simp) [skipNone, List.lookup_cons, tag, named, fits, and_comm]

/-- A body always fits its schema. -/
theorem satisfies_bodySchema (method : BodyMethod) (bodyType : BodyType) (body : Value)
    (queryParams : Option (StringMap Value)) (headers : Option (StringMap String)) :
    satisfies bodySchema
      (toValue (DiscoveryInput.http (.body method bodyType body queryParams headers))) = true := by
  have written : toValue (DiscoveryInput.http (.body method bodyType body queryParams headers)) =
      record [("type", some (.string "http")), ("method", some (toValue method)),
        ("bodyType", some (toValue bodyType)), ("body", some body),
        ("queryParams", skipNone queryParams), ("headers", skipNone headers)] := rfl
  have tag : satisfies (constant "http") (.string "http") = true := by decide
  have named : satisfies (oneOf ["POST", "PUT", "PATCH"]) (toValue method) = true := by
    cases method <;> decide
  have typed : satisfies (oneOf ["json", "form-data", "text"]) (toValue bodyType) = true := by
    cases bodyType <;> decide
  have anything : satisfies (.object []) body = true := by simp [satisfies, keywordsHold]
  rw [written, bodySchema, satisfies, keywordsHold_objectKeywords _ (by simp)]
  simp (disch := simp) [List.lookup_cons, tag, named, typed, anything]

/-- An object, as the MCP schema asks of the input schema and the example. -/
def IsObject (value : Value) : Prop := ∃ members, value = .object members

theorem satisfies_object_iff (value : Value) : satisfies (ofType "object") value = true ↔ IsObject value := by
  cases value <;> simp [ofType, satisfies, keywordsHold, hasType, IsObject]

/-- A tool fits its schema exactly when its input schema and its example are objects. -/
theorem satisfies_mcpSchema_iff (input : McpInput) :
    satisfies mcpSchema (toValue (DiscoveryInput.mcp input)) = true ↔
      IsObject input.inputSchema ∧ ∀ value, input.example = some value → IsObject value := by
  obtain ⟨tool, description, inputSchema, transport, document⟩ := input
  have written : toValue (DiscoveryInput.mcp ⟨tool, description, inputSchema, transport, document⟩) =
      record [("type", some (.string "mcp")), ("tool", some (.string tool)),
        ("description", description.map .string), ("inputSchema", some inputSchema),
        ("transport", skipNone transport), ("example", document)] := by
    cases document <;> rfl
  have tag : satisfies (constant "mcp") (.string "mcp") = true := by decide
  have text (text : String) : satisfies (ofType "string") (.string text) = true := by
    simp [ofType, satisfies, keywordsHold, hasType]
  have named (transport : McpTransport) :
      satisfies (oneOf ["streamable-http", "sse"]) (toValue transport) = true := by
    cases transport <;> decide
  have described : (description.map Value.string).all (satisfies (ofType "string")) = true := by
    cases description with
    | none => rfl
    | some description => exact text description
  have carried : (transport.map toValue).all (satisfies (oneOf ["streamable-http", "sse"])) = true := by
    cases transport with
    | none => rfl
    | some transport => exact named transport
  have given : document.all (satisfies (ofType "object")) = true ↔
      ∀ value, document = some value → IsObject value := by
    cases document <;> simp [satisfies_object_iff]
  rw [written, mcpSchema, satisfies_closedKeywords (by simp) (by simp)]
  simp (disch := simp) [List.lookup_cons, tag, text, satisfies_object_iff, skipNone, described, carried, given]

end X402Nockchain.Advertiser
