import X402Nockchain.Foundation.Base64
import X402Nockchain.Foundation.JsonSchema
import X402Nockchain.Foundation.Outcome
import X402Nockchain.Storage.Contract
import X402Nockchain.X402Types.Facilitator

/-! The `bazaar` extension that a payment echoes: validated against its own schema,
and cataloged. -/

namespace X402Nockchain.Facilitator

open Foundation Foundation.Serde X402Types Storage

def rejected (reason : String) : BazaarExtensionResponse :=
  { status := .rejected, rejectedReason := some reason }

def discriminateKind : DiscoveryInput → String
  | .http _ => "http"
  | .mcp _ => "mcp"

section Process

variable [JsonSchema]

/-- An info block always serializes. -/
def validateInfoAgainstSchema (ext : BazaarExtension) : Except String Unit := do
  let infoVal := toValue ext.info
  let compiled ← (JsonSchema.compile ext.schema).mapError fun e => s!"bazaar schema compile failed: {e}"
  let msgs := JsonSchema.violations compiled infoVal
  let joined := "; ".intercalate msgs
  ensure (msgs = []) s!"info failed schema validation: {joined}"

/-- The row that a request asks for while the clock reads `lastUpdated`. -/
def catalogEntry (req : VerifyRequest) (lastUpdated : String) (ext : BazaarExtension) :
    DiscoveryResource where
  resource := req.requirements.resource
  kind := discriminateKind ext.info.input
  x402Version := req.payload.x402Version
  accepts := [req.requirements]
  lastUpdated := lastUpdated
  metadata := some (toValue ext.info)

variable [ErrorText]

/-- `process` up to the catalog: what the echoed extension advertises, or why it
is rejected. -/
def readExtension (req : VerifyRequest) : Option (Except String BazaarExtension) := do
  let extMap ← req.payload.extensions
  let bazaarVal ← extMap.lookup "bazaar"
  return do
    let ext ← okOr s!"bazaar extension parse failed: {ErrorText.decodeFailure bazaarVal}"
      (fromValue bazaarVal)
    validateInfoAgainstSchema ext
    return ext

def process [CatalogStore Store] (catalog : Store) (lastUpdated : String) (req : VerifyRequest) :
    Option BazaarExtensionResponse × Store :=
  match readExtension req with
  | none => (none, catalog)
  | some (.error reason) => (some (rejected reason), catalog)
  | some (.ok ext) =>
    match CatalogStore.upsert catalog (catalogEntry req lastUpdated ext) with
    | .ok catalog => (some { status := .success }, catalog)
    | .error e => (some (rejected s!"catalog upsert failed: {e}"), catalog)

end Process

/-- The value of the `EXTENSION-RESPONSES` header. Base64 text is always one. -/
def encodeHeaderValue [JsonText] [Base64] (response : BazaarExtensionResponse) : String :=
  let envelope : ExtensionResponsesHeader := { bazaar := some response, other := ⟨[], List.nodup_nil⟩ }
  Base64.encode (asBytes (toText envelope))

section Outcomes

variable [JsonSchema]

/-- On a schema of known keywords, validation decides whether it is satisfied. -/
theorem validateInfoAgainstSchema_ok_iff [LawfulJsonSchema] {ext : BazaarExtension}
    (understood : JsonSchema.understood ext.schema = true) :
    validateInfoAgainstSchema ext = .ok () ↔
      JsonSchema.satisfies ext.schema (toValue ext.info) = true := by
  obtain ⟨compiled, compiles, decides⟩ := LawfulJsonSchema.compiles ext.schema understood
  simp only [validateInfoAgainstSchema, compiles, Outcome.mapError_of_ok, Outcome.ok_bind,
    Outcome.ensure_ok, decides]

variable [ErrorText]

/-- An extension is read when it is there, decodes, and satisfies its schema. -/
theorem readExtension_ok_iff {req : VerifyRequest} : readExtension req = some (.ok ext) ↔
    ∃ members bazaarVal, req.payload.extensions = some members ∧
      members.lookup "bazaar" = some bazaarVal ∧ fromValue bazaarVal = some ext ∧
      validateInfoAgainstSchema ext = .ok () := by
  simp only [readExtension, Option.bind_eq_bind, Option.bind_eq_some_iff, Option.pure_def,
    Option.some.injEq, Outcome.bind_ok, Outcome.okOr_ok, Outcome.pure_ok]
  constructor
  · rintro ⟨members, extensions, bazaarVal, found, _, decoded, _, valid, rfl⟩
    exact ⟨members, bazaarVal, extensions, found, decoded, valid⟩
  · rintro ⟨members, bazaarVal, extensions, found, decoded, valid⟩
    exact ⟨members, extensions, bazaarVal, found, ext, decoded, (), valid, rfl⟩

/-- The catalog changes only by the row of a valid extension. -/
theorem process_cases [CatalogStore Store] (catalog : Store) (lastUpdated : String)
    (req : VerifyRequest) :
    (process catalog lastUpdated req).2 = catalog ∨
    ∃ ext next, readExtension req = some (.ok ext) ∧
      CatalogStore.upsert catalog (catalogEntry req lastUpdated ext) = .ok next ∧
      process catalog lastUpdated req = (some { status := .success }, next) := by
  unfold process
  split
  · exact .inl rfl
  · exact .inl rfl
  · rename_i ext read
    split
    · rename_i next stored
      exact .inr ⟨ext, next, read, stored, rfl⟩
    · exact .inl rfl

/-- The echoed extension validates, and the catalog takes its row. -/
def Catalogs [CatalogStore Store] (catalog : Store) (lastUpdated : String) (req : VerifyRequest) : Prop :=
  ∃ ext next, readExtension req = some (.ok ext) ∧
    CatalogStore.upsert catalog (catalogEntry req lastUpdated ext) = .ok next

theorem process_catalogs [CatalogStore Store] {catalog : Store} {req : VerifyRequest}
    (cataloged : Catalogs catalog lastUpdated req) :
    (process catalog lastUpdated req).1 = some { status := .success } := by
  obtain ⟨ext, next, read, stored⟩ := cataloged
  simp only [process, read, stored]

/-- A success is reported of a request that catalogs, and everything else is a rejection. -/
theorem process_status [CatalogStore Store] {catalog : Store} {req : VerifyRequest}
    (processed : (process catalog lastUpdated req).1 = some response) :
    response.status = .success ∧ Catalogs catalog lastUpdated req ∨
      response.status = .rejected ∧ (process catalog lastUpdated req).2 = catalog := by
  unfold process at processed ⊢
  split at processed
  · cases processed
  · cases processed
    exact .inr ⟨rfl, rfl⟩
  · rename_i ext read
    split at processed
    · rename_i next stored
      cases processed
      exact .inl ⟨rfl, ext, next, read, stored⟩
    · cases processed
      exact .inr ⟨rfl, rfl⟩

end Outcomes

end X402Nockchain.Facilitator
