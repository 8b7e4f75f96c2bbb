import X402Nockchain.X402Types.Payment

/-! The discovery types of `x402-types::bazaar`: the advertised extension block, and
what the catalog stores and queries. -/

namespace X402Nockchain.X402Types

open Foundation.Serde

/-- HTTP methods that carry parameters in the query string. -/
inductive QueryMethod where
  | get
  | head
  | delete
  deriving DecidableEq

/-- HTTP methods that carry a request body. -/
inductive BodyMethod where
  | post
  | put
  | patch
  deriving DecidableEq

inductive BodyType where
  | json
  | formData
  | text
  deriving DecidableEq

inductive McpTransport where
  | streamableHttp
  | sse
  deriving DecidableEq

inductive HttpInput where
  | query (method : QueryMethod) (queryParams : Option (StringMap Value))
      (headers : Option (StringMap String))
  | body (method : BodyMethod) (bodyType : BodyType) (body : Value)
      (queryParams : Option (StringMap Value)) (headers : Option (StringMap String))

structure McpInput where
  tool : String
  description : Option String := none
  inputSchema : Value
  transport : Option McpTransport := none
  «example» : Option Value := none

/-- `info.input`, discriminated by `type`. -/
inductive DiscoveryInput where
  | http (input : HttpInput)
  | mcp (input : McpInput)

structure DiscoveryOutput where
  kind : String
  format : Option String := none
  «example» : Option Value := none

structure DiscoveryInfo where
  input : DiscoveryInput
  output : Option DiscoveryOutput := none

/-- The `bazaar` extension block. -/
structure BazaarExtension where
  info : DiscoveryInfo
  schema : Value

/-- The query of `GET /discovery/resources`. -/
structure ListDiscoveryResourcesParams where
  kind : Option String := none
  limit : Option UInt32 := none
  offset : Option UInt32 := none
  network : Option String := none
  scheme : Option String := none

structure DiscoveryResource where
  resource : String
  kind : String
  x402Version : UInt32
  accepts : List PaymentRequirements
  lastUpdated : String
  metadata : Option Value := none

/-- What a catalog entry is stored under. -/
def DiscoveryResource.key (entry : DiscoveryResource) : String × String :=
  (entry.resource, entry.kind)

structure Pagination where
  limit : UInt32
  offset : UInt32
  total : UInt32

structure DiscoveryResourcesResponse where
  x402Version : UInt32
  items : List DiscoveryResource
  pagination : Pagination

/-! ### JSON forms -/

instance : UnitEnum QueryMethod where
  name
    | .get => "GET"
    | .head => "HEAD"
    | .delete => "DELETE"
  ofName
    | "GET" => some .get
    | "HEAD" => some .head
    | "DELETE" => some .delete
    | _ => none

instance : RoundTrips QueryMethod := UnitEnum.roundTrips fun method => by cases method <;> rfl

instance : UnitEnum BodyMethod where
  name
    | .post => "POST"
    | .put => "PUT"
    | .patch => "PATCH"
  ofName
    | "POST" => some .post
    | "PUT" => some .put
    | "PATCH" => some .patch
    | _ => none

instance : RoundTrips BodyMethod := UnitEnum.roundTrips fun method => by cases method <;> rfl

/-- The two kinds of HTTP input are told apart by their method. -/
theorem not_query_and_body_method (name : String) :
    (UnitEnum.ofName name : Option QueryMethod) = none ∨
      (UnitEnum.ofName name : Option BodyMethod) = none := by
  by_cases get : name = "GET"
  · subst get; right; rfl
  by_cases head : name = "HEAD"
  · subst head; right; rfl
  by_cases delete : name = "DELETE"
  · subst delete; right; rfl
  · left
    simp [UnitEnum.ofName]

instance : UnitEnum BodyType where
  name
    | .json => "json"
    | .formData => "form-data"
    | .text => "text"
  ofName
    | "json" => some .json
    | "form-data" => some .formData
    | "text" => some .text
    | _ => none

instance : RoundTrips BodyType := UnitEnum.roundTrips fun bodyType => by cases bodyType <;> rfl

instance : UnitEnum McpTransport where
  name
    | .streamableHttp => "streamable-http"
    | .sse => "sse"
  ofName
    | "streamable-http" => some .streamableHttp
    | "sse" => some .sse
    | _ => none
  -- a field of `McpInput` alone, behind the tag of `DiscoveryInput`
  buffered := true

instance : RoundTrips McpTransport := UnitEnum.roundTrips fun transport => by cases transport <;> rfl

namespace HttpInput

def fields : HttpInput → List (String × Option Value)
  | .query method queryParams headers => [("method", some (toValue method)),
    ("queryParams", skipNone queryParams), ("headers", skipNone headers)]
  | .body method bodyType content queryParams headers => [("method", some (toValue method)),
    ("bodyType", some (toValue bodyType)), ("body", some (toValue content)),
    ("queryParams", skipNone queryParams), ("headers", skipNone headers)]

def readQuery (source : Source) : Option HttpInput := do
  return .query (← source.required 0 "method") (← source.optional 1 "queryParams")
    (← source.optional 2 "headers")

def readBody (source : Source) : Option HttpInput := do
  return .body (← source.required 0 "method") (← source.required 1 "bodyType")
    (← source.required 2 "body") (← source.optional 3 "queryParams") (← source.optional 4 "headers")

instance : Serialize HttpInput := ⟨fun input => record input.fields⟩

/-- Untagged: the first variant that reads. Its struct variants are read from maps only. -/
instance : Deserialize HttpInput where
  fromValue
    | .object members => readQuery (.map members) <|> readBody (.map members)
    | _ => none

end HttpInput

instance : Struct McpInput where
  width := 5
  fields input := [("tool", some (toValue input.tool)), ("description", skipNone input.description),
    ("inputSchema", some (toValue input.inputSchema)), ("transport", skipNone input.transport),
    ("example", skipNone input.example)]
  read source := do
    return {
      tool := ← source.required 0 "tool"
      description := ← source.optional 1 "description"
      inputSchema := ← source.required 2 "inputSchema"
      transport := ← source.optional 3 "transport"
      «example» := ← source.optional 4 "example" }

/-- Internally tagged on `type`, a name that no field of the variants has. -/
instance : Serialize DiscoveryInput where
  toValue
    | .http input => record (("type", some (.string "http")) :: input.fields)
    | .mcp input => record (("type", some (.string "mcp")) :: Struct.fields input)

/-- The tag is a member of a map or the first element of a sequence. -/
instance : Deserialize DiscoveryInput where
  fromValue
    | .object members => do
      match ← members.lookup "type" with
      | .string "http" => return .http (← fromValue (.object members))
      | .string "mcp" => return .mcp (← fromValue (.object members))
      | _ => none
    | .array (.string "http" :: rest) => (fromValue (.array rest)).map .http
    | .array (.string "mcp" :: rest) => (fromValue (.array rest)).map .mcp
    | _ => none

instance : Struct DiscoveryOutput where
  width := 3
  fields output := [("type", some (toValue output.kind)), ("format", skipNone output.format),
    ("example", skipNone output.example)]
  read source := do
    return {
      kind := ← source.required 0 "type"
      format := ← source.optional 1 "format"
      «example» := ← source.optional 2 "example" }

instance : Struct DiscoveryInfo where
  width := 2
  fields info := [("input", some (toValue info.input)), ("output", skipNone info.output)]
  read source := do
    return { input := ← source.required 0 "input", output := ← source.optional 1 "output" }

instance : Struct BazaarExtension where
  width := 2
  fields extension := [("info", some (toValue extension.info)), ("schema", some extension.schema)]
  read source := do
    return { info := ← source.required 0 "info", schema := ← source.required 1 "schema" }

/-! ### Round trips -/

namespace HttpInput

/-- No document reads as both a query and a body. -/
theorem readQuery_none_or_readBody_none (source : Source) :
    readQuery source = none ∨ readBody source = none := by
  cases written : source.field 0 "method" with
  | none => simp [readQuery, Source.required, written]
  | some value =>
    cases named : value.variantName false with
    | none => simp [readQuery, Source.required, written, fromValue, UnitEnum.buffered, named]
    | some name =>
      apply (not_query_and_body_method name).imp <;> intro other <;>
        simp [readQuery, readBody, Source.required, written, fromValue, UnitEnum.buffered, named, other]

/-- The members of an input read back beside a tag, or without one. -/
theorem read_present (input : HttpInput) (tag : Option Value) :
    (fromValue (.object (present (("type", tag) :: input.fields))) : Option HttpInput) =
      some input := by
  cases input with
  | query method queryParams headers =>
    have read : readQuery (.map (present (("type", tag) :: (query method queryParams headers).fields))) =
        some (query method queryParams headers) := by
      simp (disch := simp) [readQuery, fields, List.lookup_cons, elim_skipNone]
    simp [fromValue, read]
  | body method bodyType content queryParams headers =>
    have read : readBody (.map (present (("type", tag) ::
        (body method bodyType content queryParams headers).fields))) =
          some (body method bodyType content queryParams headers) := by
      simp (disch := simp) [readBody, fields, List.lookup_cons, elim_skipNone]
    have unread := (readQuery_none_or_readBody_none (.map (present (("type", tag) ::
      (body method bodyType content queryParams headers).fields)))).resolve_right (by simp [read])
    simp [fromValue, read, unread]

instance : RoundTrips HttpInput := ⟨fun input => read_present input none⟩

end HttpInput

/-- The input as a reader of its JSON has it. -/
def McpInput.withoutNulls (input : McpInput) : McpInput :=
  { input with «example» := dropNull input.example }

theorem McpInput.read_present (input : McpInput) (tag : Option Value) :
    (fromValue (.object (present (("type", tag) :: Struct.fields input))) : Option McpInput) =
      some input.withoutNulls := by
  change Struct.read (.map (present (("type", tag) :: Struct.fields input))) = some input.withoutNulls
  simp (disch := simp) [Struct.read, Struct.fields, List.lookup_cons, elim_skipNone, withoutNulls]

def DiscoveryInput.withoutNulls : DiscoveryInput → DiscoveryInput
  | .http input => .http input
  | .mcp input => .mcp input.withoutNulls

@[simp] theorem DiscoveryInput.fromValue_toValue_withoutNulls (input : DiscoveryInput) :
    fromValue (toValue input) = some input.withoutNulls := by
  cases input with
  | http input =>
    change (fromValue (.object (present (("type", some (.string "http")) :: input.fields))) >>= _) = _
    rw [HttpInput.read_present]
    rfl
  | mcp input =>
    change (fromValue (.object (present (("type", some (.string "mcp")) :: Struct.fields input))) >>= _) = _
    rw [McpInput.read_present]
    rfl

def DiscoveryOutput.withoutNulls (output : DiscoveryOutput) : DiscoveryOutput :=
  { output with «example» := dropNull output.example }

@[simp] theorem DiscoveryOutput.fromValue_toValue_withoutNulls (output : DiscoveryOutput) :
    fromValue (toValue output) = some output.withoutNulls := by
  change Struct.read (.map (present (Struct.fields output))) = some output.withoutNulls
  simp (disch := simp) [Struct.read, Struct.fields, List.lookup_cons, elim_skipNone, withoutNulls]

def DiscoveryInfo.withoutNulls (info : DiscoveryInfo) : DiscoveryInfo where
  input := info.input.withoutNulls
  output := info.output.map DiscoveryOutput.withoutNulls

@[simp] theorem DiscoveryInfo.fromValue_toValue_withoutNulls (info : DiscoveryInfo) :
    fromValue (toValue info) = some info.withoutNulls := by
  obtain ⟨input, output⟩ := info
  have written : (skipNone output).elim (some none) fromValue =
      some (output.map DiscoveryOutput.withoutNulls) := by
    cases output with
    | none => rfl
    | some output =>
      change (fromValue (toValue output)).map some = _
      rw [DiscoveryOutput.fromValue_toValue_withoutNulls]
      rfl
  change Struct.read (.map (present (Struct.fields (DiscoveryInfo.mk input output)))) =
    some (DiscoveryInfo.mk input output).withoutNulls
  simp (disch := simp) [Struct.read, Struct.fields, List.lookup_cons, withoutNulls, written]

namespace BazaarExtension

def withoutNulls (extension : BazaarExtension) : BazaarExtension :=
  { extension with info := extension.info.withoutNulls }

@[simp] theorem fromValue_toValue_withoutNulls (extension : BazaarExtension) :
    fromValue (toValue extension) = some extension.withoutNulls := by
  change Struct.read (.map (present (Struct.fields extension))) = some extension.withoutNulls
  simp (disch := simp) [Struct.read, Struct.fields, List.lookup_cons, withoutNulls]
  rfl

/-- No optional document of the block is an explicit `null`. -/
def Explicit (extension : BazaarExtension) : Prop :=
  (∀ input, extension.info.input = .mcp input → input.example ≠ some .null) ∧
    ∀ output, extension.info.output = some output → output.example ≠ some .null

theorem withoutNulls_of_explicit {extension : BazaarExtension} (explicit : extension.Explicit) :
    extension.withoutNulls = extension := by
  obtain ⟨⟨input, output⟩, schema⟩ := extension
  obtain ⟨inputs, outputs⟩ := explicit
  have sameInput : input.withoutNulls = input := by
    cases input with
    | http input => rfl
    | mcp input => rw [DiscoveryInput.withoutNulls, McpInput.withoutNulls, dropNull_of_explicit (inputs input rfl)]
  have sameOutput : output.map DiscoveryOutput.withoutNulls = output := by
    cases output with
    | none => rfl
    | some output =>
      rw [Option.map_some, DiscoveryOutput.withoutNulls, dropNull_of_explicit (outputs output rfl)]
  rw [withoutNulls, DiscoveryInfo.withoutNulls, sameInput, sameOutput]

theorem fromValue_toValue {extension : BazaarExtension} (explicit : extension.Explicit) :
    fromValue (toValue extension) = some extension := by
  rw [fromValue_toValue_withoutNulls, withoutNulls_of_explicit explicit]

end BazaarExtension

/-! ### The listing -/

instance : Struct DiscoveryResource where
  width := 6
  fields entry := [("resource", some (toValue entry.resource)), ("type", some (toValue entry.kind)),
    ("x402Version", some (toValue entry.x402Version)), ("accepts", some (toValue entry.accepts)),
    ("lastUpdated", some (toValue entry.lastUpdated)), ("metadata", skipNone entry.metadata)]
  read source := do
    return {
      resource := ← source.required 0 "resource"
      kind := ← source.required 1 "type"
      x402Version := ← source.required 2 "x402Version"
      accepts := ← source.required 3 "accepts"
      lastUpdated := ← source.required 4 "lastUpdated"
      metadata := ← source.optional 5 "metadata" }

/-- No document of an entry is an explicit `null`. -/
structure DiscoveryResource.Explicit (entry : DiscoveryResource) : Prop where
  accepts : ∀ option ∈ entry.accepts, option.Explicit
  metadata : entry.metadata ≠ some .null

theorem DiscoveryResource.fromValue_toValue {entry : DiscoveryResource} (explicit : entry.Explicit) :
    fromValue (toValue entry) = some entry := by
  have accepts : fromValue (toValue entry.accepts) = some entry.accepts :=
    fromValue_toValue_of_each fun option member => PaymentRequirements.fromValue_toValue (explicit.accepts option member)
  change Struct.read (.map (present (Struct.fields entry))) = some entry
  simp (disch := simp) [Struct.read, Struct.fields, List.lookup_cons, accepts, dropNull_of_explicit explicit.metadata]

instance : Struct Pagination where
  width := 3
  fields pagination := [("limit", some (toValue pagination.limit)), ("offset", some (toValue pagination.offset)),
    ("total", some (toValue pagination.total))]
  read source := do
    return {
      limit := ← source.required 0 "limit"
      offset := ← source.required 1 "offset"
      total := ← source.required 2 "total" }

instance : RoundTrips Pagination := Struct.roundTrips fun pagination => by
  simp (disch := simp) [Struct.read, Struct.fields, List.lookup_cons]

instance : Struct DiscoveryResourcesResponse where
  width := 3
  fields response := [("x402Version", some (toValue response.x402Version)),
    ("items", some (toValue response.items)), ("pagination", some (toValue response.pagination))]
  read source := do
    return {
      x402Version := ← source.required 0 "x402Version"
      items := ← source.required 1 "items"
      pagination := ← source.required 2 "pagination" }

theorem DiscoveryResourcesResponse.fromValue_toValue {response : DiscoveryResourcesResponse}
    (explicit : ∀ item ∈ response.items, item.Explicit) : fromValue (toValue response) = some response := by
  have items : fromValue (toValue response.items) = some response.items :=
    fromValue_toValue_of_each fun item member => DiscoveryResource.fromValue_toValue (explicit item member)
  change Struct.read (.map (present (Struct.fields response))) = some response
  simp (disch := simp) [Struct.read, Struct.fields, List.lookup_cons, items]

end X402Nockchain.X402Types
