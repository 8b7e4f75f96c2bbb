import X402Nockchain.Mcp.AdvertisedOptions

/-! The arguments that a tool handler is run with, and the `inputSchema` that they
are documented to satisfy. -/

namespace X402Nockchain.Mcp

open Foundation Foundation.Serde X402Types Facilitator Crypto

section Arguments

variable {World : Type} [JsonSchema]

/-- The schema compiles, and the document violates nothing of it. -/
def Matches (schema document : Value) : Prop :=
  ∃ compiled, JsonSchema.compile schema = .ok compiled ∧ JsonSchema.violations compiled document = []

theorem matches_iff [LawfulJsonSchema] (understood : JsonSchema.understood schema = true) :
    Matches schema document ↔ JsonSchema.satisfies schema document = true := by
  obtain ⟨compiled, compiles, decides⟩ := LawfulJsonSchema.compiles schema understood
  rw [← decides]
  constructor
  · rintro ⟨compiled', compiles', clean⟩
    obtain rfl := Except.ok.inj (compiles.symm.trans compiles')
    exact clean
  · exact fun clean => ⟨compiled, compiles, clean⟩

/-- Arguments as the tool of this name declares them. -/
def Declared (registry : McpToolRegistry World) (tool : String) (args : Value) : Prop :=
  ∃ registered, registry.get tool = some registered ∧ Matches registered.inputSchema args

variable [JsonText] [Base64] {registry : McpToolRegistry World} {verifier : PaymentVerifier World}
  {request : CallRequest} {world : World}

omit [JsonSchema] in
/-- The tool is registered, and its payment is there and accepted against the first entry. -/
def PaidCall (registry : McpToolRegistry World) (verifier : PaymentVerifier World) (request : CallRequest)
    (world : World) : Prop :=
  ∃ registered payload, registry.get request.tool = some registered ∧ request.payload = some payload ∧
    AcceptedFirst registry verifier world payload

omit [JsonSchema] in
theorem paidCall_iff_gate : PaidCall registry verifier request world ↔
    ∃ registered req, gate registry request = .check registered req ∧
      Accepts verifier world req.payload req.requirements := by
  simp only [gate_check_iff]
  constructor
  · rintro ⟨registered, payload, found, carried, first, offered, accepts⟩
    exact ⟨registered, { payload, requirements := first }, ⟨found, offered, carried⟩, accepts⟩
  · rintro ⟨registered, req, ⟨found, offered, carried⟩, accepts⟩
    exact ⟨registered, req.payload, found, carried, req.requirements, offered, accepts⟩

omit [JsonSchema] in
/-- A handler runs for the calls that are paid, with their own arguments. -/
theorem ran_iff : (callTool registry verifier request world).1.ran = some (name, args) ↔
    PaidCall registry verifier request world ∧ request.tool = name ∧ request.args = args := by
  rw [paidCall_iff_gate]
  unfold callTool
  cases gated : gate registry request with
  | respond reply => simp
  | check registered req =>
    have found := (gate_check_iff.mp gated).1
    have named := McpToolRegistry.tool_of_get found
    have asked : (∃ registered' req', Gated.check registered req = .check registered' req' ∧
        Accepts verifier world req'.payload req'.requirements) ↔
          Accepts verifier world req.payload req.requirements := by
      constructor
      · rintro ⟨_, _, same, accepts⟩
        cases same
        exact accepts
      · exact fun accepts => ⟨registered, req, rfl, accepts⟩
    rw [asked]
    rcases verdict : verifier.verify world req.payload req.requirements with ⟨failure | done, after⟩
    · simp [Accepts, verdict]
    · simp [Accepts, verdict, named, found]

/-- What a call runs is run with arguments as declared, exactly if the call's own
arguments are so whenever it is paid for. -/
theorem handler_args_valid_iff :
    (∀ name args, (callTool registry verifier request world).1.ran = some (name, args) →
      Declared registry name args) ↔
        (PaidCall registry verifier request world → Declared registry request.tool request.args) := by
  constructor
  · exact fun valid paid => valid _ _ (ran_iff.mpr ⟨paid, rfl, rfl⟩)
  · intro valid name args ran
    obtain ⟨paid, rfl, rfl⟩ := ran_iff.mp ran
    exact valid paid

end Arguments

/-! ### A paid call of a tool that takes objects -/

namespace Transparent

open Crypto.Transparent Facilitator.Transparent

attribute [local instance] transparent transparent_lawful plainErrors Wallet.spelledBase64
  Wallet.spelledBase64_lawful oneDocument plainSchemas plainSchemas_lawful

/-- `echo` behind a schema, for payments of `original`. -/
def typed : McpToolRegistry RecordLog where
  resource := { url := "https://example.test/mcp" }
  accepts := [requirements]
  tools := [{ echo with inputSchema := .object [("type", .string "object")] }]
  sorted := List.pairwise_singleton _ _

theorem typed_paid (args : Value) : PaidCall typed (remoteFacilitatorVerifier facilitator 1100)
    { paidCall with args } {} :=
  ⟨_, _, rfl, paidCall_payload, _, rfl, requirements_accept⟩

theorem object_understood : JsonSchema.understood (.object [("type", .string "object")]) = true := by decide

/-- The arguments `null` reach the handler of a tool that takes objects. -/
theorem undeclared_args_run : ¬ ∀ (registry : McpToolRegistry RecordLog) verifier request log name args,
    (callTool registry verifier request log).1.ran = some (name, args) → Declared registry name args := by
  intro claim
  obtain ⟨registered, found, matching⟩ := claim typed (remoteFacilitatorVerifier facilitator 1100) paidCall {}
    "echo" .null (ran_iff.mpr ⟨typed_paid .null, rfl, rfl⟩)
  cases found
  exact absurd ((matches_iff object_understood).mp matching) (by decide)

end Transparent

end X402Nockchain.Mcp
