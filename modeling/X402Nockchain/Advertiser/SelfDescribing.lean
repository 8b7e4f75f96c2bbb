import X402Nockchain.Advertiser.Declare
import X402Nockchain.Facilitator.Bazaar

/-! Which advertisements the facilitator finds to match their own schema. -/

namespace X402Nockchain.Advertiser

open Foundation Foundation.Serde X402Types Facilitator

section Validation

variable [JsonSchema]

/-- A block passes validation, and so does what a client echoes of it. -/
def Validates (ext : BazaarExtension) : Prop :=
  validateInfoAgainstSchema ext = .ok () ∧
    ∀ echoed, fromValue (toValue ext) = some echoed → validateInfoAgainstSchema echoed = .ok ()

variable [LawfulJsonSchema]

/-- Validation of an advertised block decides whether its input fits. -/
theorem validateInfoAgainstSchema_infoSchema {ext : BazaarExtension} {input : Value}
    (schema : ext.schema = infoSchema input ext.info.output)
    (understood : JsonSchema.understood input = true) :
    validateInfoAgainstSchema ext = .ok () ↔
      JsonSchema.satisfies input (toValue ext.info.input) = true := by
  rw [validateInfoAgainstSchema_ok_iff, schema, satisfies_infoSchema]
  rw [schema, understood_infoSchema, understood]

/-- Both readings of a block are validated against the same input schema. -/
theorem validates_iff {ext : BazaarExtension} {input : Value}
    (schema : ext.schema = infoSchema input ext.info.output)
    (understood : JsonSchema.understood input = true) :
    Validates ext ↔ JsonSchema.satisfies input (toValue ext.info.input) = true ∧
      JsonSchema.satisfies input (toValue ext.info.input.withoutNulls) = true := by
  have echoed : ext.withoutNulls.schema = infoSchema input ext.withoutNulls.info.output := by
    change ext.schema = infoSchema input (ext.info.output.map DiscoveryOutput.withoutNulls)
    rw [schema, infoSchema, infoSchema, Option.map_map]
    rfl
  simp only [Validates, BazaarExtension.fromValue_toValue_withoutNulls, Option.some.injEq, forall_eq',
    validateInfoAgainstSchema_infoSchema schema understood,
    validateInfoAgainstSchema_infoSchema echoed understood]
  rfl

/-- A query validates exactly when it lists no headers and its parameters are texts. -/
theorem validates_declareHttpQuery_iff (method : QueryMethod) (queryParams : Option (StringMap Value))
    (headers : Option (StringMap String)) (output : Option DiscoveryOutput) :
    Validates (declareHttpQuery method queryParams headers output) ↔
      headers = none ∧ ∀ map, queryParams = some map →
        ∀ entry ∈ map.entries, ∃ text, entry.2 = .string text := by
  rw [validates_iff rfl (understood_querySchema queryParams), ← satisfies_querySchema_iff method]
  exact and_self_iff

theorem validates_declareHttpBody (method : BodyMethod) (bodyType : BodyType) (body : Value)
    (queryParams : Option (StringMap Value)) (headers : Option (StringMap String))
    (output : Option DiscoveryOutput) :
    Validates (declareHttpBody method bodyType body queryParams headers output) := by
  rw [validates_iff rfl understood_bodySchema]
  exact and_self_iff.mpr (satisfies_bodySchema method bodyType body queryParams headers)

/-- A tool validates exactly when its input schema and its example are objects. -/
theorem validates_declareMcp_iff (tool : String) (description : Option String) (inputSchema : Value)
    (transport : Option McpTransport) («example» : Option Value) (output : Option DiscoveryOutput) :
    Validates (declareMcp tool description inputSchema transport «example» output) ↔
      IsObject inputSchema ∧ ∀ value, «example» = some value → IsObject value := by
  rw [validates_iff rfl understood_mcpSchema]
  simp only [declareMcp, DiscoveryInput.withoutNulls, satisfies_mcpSchema_iff, McpInput.withoutNulls]
  constructor
  · exact And.left
  · rintro ⟨schema, objects⟩
    refine ⟨⟨schema, objects⟩, schema, ?_⟩
    rwa [dropNull_of_explicit]
    rintro rfl
    obtain ⟨members, same⟩ := objects .null rfl
    cases same

/-- Which of the blocks that the three builders declare pass validation. -/
theorem declarations_validate_iff :
    (∀ method queryParams headers output,
      Validates (declareHttpQuery method queryParams headers output) ↔
        headers = none ∧ ∀ map, queryParams = some map →
          ∀ entry ∈ map.entries, ∃ text, entry.2 = .string text) ∧
    (∀ method bodyType body queryParams headers output,
      Validates (declareHttpBody method bodyType body queryParams headers output)) ∧
    ∀ tool description inputSchema transport document output,
      Validates (declareMcp tool description inputSchema transport document output) ↔
        IsObject inputSchema ∧ ∀ value, document = some value → IsObject value :=
  ⟨validates_declareHttpQuery_iff, validates_declareHttpBody, validates_declareMcp_iff⟩

end Validation

/-! ### One advertisement of each kind -/

namespace Sample

attribute [local instance] plainSchemas plainSchemas_lawful

def headers : StringMap String := ⟨[("accept", "application/json")], by simp⟩

def params : StringMap Value := ⟨[("city", .string "Athens")], by simp⟩

theorem declarations_validate_samples :
    Validates (declareHttpQuery .get (some params) none none) ∧
    Validates (declareHttpBody .post .json .null none (some headers) none) ∧
    Validates (declareMcp "echo" none (.object []) none none none) := by
  obtain ⟨queries, bodies, tools⟩ := declarations_validate_iff
  refine ⟨(queries _ _ _ _).mpr ⟨rfl, ?_⟩, bodies _ _ _ _ _ _,
    (tools _ _ _ _ _ _).mpr ⟨⟨[], rfl⟩, nofun⟩⟩
  rintro map ⟨⟩ entry member
  rw [List.mem_singleton.mp member]
  exact ⟨"Athens", rfl⟩

/-- A query that lists its headers does not match the schema written for it. -/
theorem listed_headers_refused : ¬ Validates (declareHttpQuery .get none (some headers) none) := by
  rw [validates_declareHttpQuery_iff]
  rintro ⟨none, _⟩
  cases none

end Sample

end X402Nockchain.Advertiser
