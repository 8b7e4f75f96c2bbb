import Mathlib.Data.String.Basic
import X402Nockchain.Advertiser.Declare

/-! `x402-mcp::registry`: tools behind a common list of requirements, and the 402
body that each tool is refused with. -/

namespace X402Nockchain.Mcp

open Foundation Foundation.Serde X402Types Advertiser

structure ToolError where
  message : String
  deriving DecidableEq

/-- A handler acts on the world that it is deployed in. -/
abbrev ToolHandler (World : Type) := Value → World → Except ToolError Value × World

structure RegisteredTool (World : Type) where
  tool : String
  description : Option String
  inputSchema : Value
  transport : Option McpTransport
  bazaar : BazaarExtension
  handler : ToolHandler World

inductive RegisterError where
  | duplicate (name : String)
  deriving DecidableEq

inductive CallError where
  | unknownTool (name : String)
  | tool (error : ToolError)
  deriving DecidableEq

inductive CallOutcome where
  | success (value : Value)
  | toolFailed (error : ToolError)

variable {World : Type}

/-- The tools in the order of their names, which are their keys. -/
structure McpToolRegistry (World : Type) where
  resource : PaymentResource
  accepts : List PaymentRequirements
  tools : List (RegisteredTool World)
  sorted : (tools.map RegisteredTool.tool).Pairwise (· < ·)

/-- Put a tool in the place of its name. -/
def insertTool (new : RegisteredTool World) : List (RegisteredTool World) → List (RegisteredTool World)
  | [] => [new]
  | head :: rest => if new.tool < head.tool then new :: head :: rest else head :: insertTool new rest

theorem mem_insertTool {new other : RegisteredTool World} {tools : List (RegisteredTool World)} :
    other ∈ insertTool new tools ↔ other = new ∨ other ∈ tools := by
  induction tools with
  | nil => simp [insertTool]
  | cons head rest ih =>
    unfold insertTool
    split
    · simp
    · rw [List.mem_cons, ih, List.mem_cons]
      tauto

theorem sorted_insertTool {new : RegisteredTool World} {tools : List (RegisteredTool World)}
    (sorted : (tools.map RegisteredTool.tool).Pairwise (· < ·))
    (fresh : ∀ other ∈ tools, other.tool ≠ new.tool) :
    ((insertTool new tools).map RegisteredTool.tool).Pairwise (· < ·) := by
  induction tools with
  | nil => simp [insertTool]
  | cons head rest ih =>
    rw [List.map_cons, List.pairwise_cons] at sorted
    rw [List.forall_mem_cons] at fresh
    unfold insertTool
    split
    · rename_i before
      rw [List.map_cons, List.map_cons, List.pairwise_cons, List.pairwise_cons]
      refine ⟨?_, sorted⟩
      intro name member
      obtain rfl | member := List.mem_cons.mp member
      · exact before
      · exact before.trans (sorted.1 name member)
    · rename_i after
      have above : head.tool < new.tool := lt_of_le_of_ne (not_lt.mp after) fresh.1
      rw [List.map_cons, List.pairwise_cons]
      refine ⟨?_, ih sorted.2 fresh.2⟩
      intro name member
      obtain ⟨other, inserted, rfl⟩ := List.mem_map.mp member
      obtain rfl | old := mem_insertTool.mp inserted
      · exact above
      · exact sorted.1 other.tool (List.mem_map_of_mem old)

namespace McpToolRegistry

def new (resource : PaymentResource) (accepts : List PaymentRequirements) : McpToolRegistry World where
  resource
  accepts
  tools := []
  sorted := List.Pairwise.nil

def get (registry : McpToolRegistry World) (name : String) : Option (RegisteredTool World) :=
  registry.tools.find? fun registered => registered.tool = name

theorem tool_of_get {registry : McpToolRegistry World} (found : registry.get name = some registered) :
    registered.tool = name := by
  have named := List.find?_some found
  exact of_decide_eq_true named

theorem fresh_of_get {registry : McpToolRegistry World} (absent : registry.get name = none) :
    ∀ other ∈ registry.tools, other.tool ≠ name := by
  intro other member same
  exact absurd (decide_eq_true same) (List.find?_eq_none.mp absent other member)

def register (registry : McpToolRegistry World) (tool : String) (description : Option String)
    (inputSchema : Value) (transport : Option McpTransport) (handler : ToolHandler World) :
    Except RegisterError (McpToolRegistry World) :=
  match absent : registry.get tool with
  | some _ => .error (.duplicate tool)
  | none =>
    let bazaar := declareMcp tool description inputSchema transport none none
    .ok { registry with
      tools := insertTool { tool, description, inputSchema, transport, bazaar, handler } registry.tools
      sorted := sorted_insertTool registry.sorted (fresh_of_get absent) }

/-- The 402 body of a tool. Its bazaar block always serializes. -/
def paymentRequired (registry : McpToolRegistry World) (tool : String) : Option PaymentRequired := do
  let registered ← registry.get tool
  return {
    x402Version := 2
    error := s!"Payment required for tool '{tool}'"
    resource := registry.resource
    accepts := registry.accepts
    extensions := some [("bazaar", toValue registered.bazaar)] }

/-- No payment check. -/
def invoke (registry : McpToolRegistry World) (tool : String) (args : Value) (world : World) :
    Except CallError CallOutcome × World :=
  match registry.get tool with
  | none => (.error (.unknownTool tool), world)
  | some registered =>
    match registered.handler args world with
    | (.ok v, world) => (.ok (.success v), world)
    | (.error e, world) => (.ok (.toolFailed e), world)

theorem paymentRequired_of_get {registry : McpToolRegistry World}
    (found : registry.get tool = some registered) :
    ∃ body, registry.paymentRequired tool = some body ∧ body.accepts = registry.accepts := by
  simp [paymentRequired, found]

end McpToolRegistry

end X402Nockchain.Mcp
