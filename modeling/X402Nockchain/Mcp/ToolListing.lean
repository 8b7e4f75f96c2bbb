import Mathlib.Data.List.Perm.Basic
import X402Nockchain.Foundation.Component
import X402Nockchain.Mcp.PaymentHeader

/-! `GET /mcp/tools`, after any calls of `register`: the same information that a client
sees in a 402 response. -/

namespace X402Nockchain.Mcp

open Foundation Foundation.Serde X402Types Advertiser

variable {World : Type}

/-! ### Registration -/

/-- The arguments of a `register`. -/
structure Registration (World : Type) where
  tool : String
  description : Option String
  inputSchema : Value
  transport : Option McpTransport
  handler : ToolHandler World

/-- The entry that a registration asks for. -/
def Registration.registered (call : Registration World) : RegisteredTool World where
  tool := call.tool
  description := call.description
  inputSchema := call.inputSchema
  transport := call.transport
  bazaar := declareMcp call.tool call.description call.inputSchema call.transport none none
  handler := call.handler

/-- `register` in place. A registry that refuses stays as it is. -/
def enroll : Component (McpToolRegistry World) (Registration World) (Except RegisterError Unit) :=
  fun registry call =>
    match registry.register call.tool call.description call.inputSchema call.transport call.handler with
    | .ok registry => (.ok (), registry)
    | .error error => (.error error, registry)

theorem enroll_taken {registry : McpToolRegistry World} {call : Registration World}
    (found : registry.get call.tool = some registered) :
    enroll registry call = (.error (.duplicate call.tool), registry) := by
  unfold enroll McpToolRegistry.register
  split
  · rename_i absent
    split at absent
    · cases absent
    · rename_i none
      cases found.symm.trans none
  · rename_i absent
    split at absent
    · cases absent
      rfl
    · cases absent

theorem enroll_fresh {registry : McpToolRegistry World} {call : Registration World}
    (absent : registry.get call.tool = none) :
    (enroll registry call).1 = .ok () ∧ (enroll registry call).2.resource = registry.resource ∧
      (enroll registry call).2.accepts = registry.accepts ∧
      (enroll registry call).2.tools = insertTool call.registered registry.tools := by
  unfold enroll McpToolRegistry.register
  split
  · rename_i stored
    split at stored
    · cases stored
    · cases stored
      exact ⟨rfl, rfl, rfl, rfl⟩
  · rename_i refused
    split at refused
    · rename_i found
      cases absent.symm.trans found
    · cases refused

/-- The lookup finds a tool exactly if it is there, since no two have one name. -/
theorem McpToolRegistry.get_eq_some_iff {registry : McpToolRegistry World} :
    registry.get name = some registered ↔ registered ∈ registry.tools ∧ registered.tool = name := by
  constructor
  · intro found
    exact ⟨List.mem_of_find?_eq_some found, tool_of_get found⟩
  · rintro ⟨member, rfl⟩
    have unique : (registry.tools.map RegisteredTool.tool).Nodup := registry.sorted.imp ne_of_lt
    cases found : registry.get registered.tool with
    | none => exact absurd rfl (fresh_of_get found registered member)
    | some other =>
      have inside : other ∈ registry.tools := List.mem_of_find?_eq_some found
      rw [List.inj_on_of_nodup_map unique inside member (tool_of_get found)]

/-- A name that is taken stays as it was. -/
theorem get_enroll (registry : McpToolRegistry World) (call : Registration World) (name : String) :
    (enroll registry call).2.get name =
      (registry.get name).or (if call.tool = name then some call.registered else none) := by
  cases found : registry.get call.tool with
  | some registered =>
    rw [enroll_taken found]
    split
    · rename_i same
      rw [← same, found, Option.some_or]
    · rw [Option.or_none]
  | none =>
    have inserted := (enroll_fresh found).2.2.2
    split
    · rename_i same
      rw [← same, found, Option.none_or, McpToolRegistry.get_eq_some_iff, inserted]
      exact ⟨mem_insertTool.mpr (.inl rfl), rfl⟩
    · rename_i other
      rw [Option.or_none]
      ext registered
      rw [McpToolRegistry.get_eq_some_iff, McpToolRegistry.get_eq_some_iff, inserted, mem_insertTool]
      constructor
      · rintro ⟨rfl | member, named⟩
        · exact absurd named other
        · exact ⟨member, named⟩
      · rintro ⟨member, named⟩
        exact ⟨.inr member, named⟩

/-- The first registration of a name. -/
def firstOf (calls : List (Registration World)) (name : String) : Option (Registration World) :=
  calls.find? fun call => call.tool = name

theorem firstOf_eq_none_iff {calls : List (Registration World)} :
    firstOf calls name = none ↔ name ∉ calls.map Registration.tool := by
  simp [firstOf]

/-- The first registration of a name is the one that the registry keeps. -/
theorem get_after (registry : McpToolRegistry World) (calls : List (Registration World)) (name : String) :
    (enroll.after registry calls).get name =
      (registry.get name).or ((firstOf calls name).map Registration.registered) := by
  induction calls generalizing registry with
  | nil => rw [Component.after, firstOf, List.find?_nil, Option.map_none, Option.or_none]
  | cons call rest ih =>
    rw [Component.after, ih, get_enroll, Option.or_assoc, firstOf, firstOf, List.find?_cons]
    by_cases same : call.tool = name <;> simp [same]

theorem get_after_new (resource : PaymentResource) (accepts : List PaymentRequirements)
    (calls : List (Registration World)) (name : String) :
    (enroll.after (.new resource accepts) calls).get name = (firstOf calls name).map Registration.registered := by
  rw [get_after]
  exact Option.none_or

theorem offer_after (registry : McpToolRegistry World) (calls : List (Registration World)) :
    (enroll.after registry calls).resource = registry.resource ∧
      (enroll.after registry calls).accepts = registry.accepts := by
  induction calls generalizing registry with
  | nil => exact ⟨rfl, rfl⟩
  | cons call rest ih =>
    obtain ⟨resource, accepts⟩ := ih (enroll registry call).2
    rw [Component.after, resource, accepts]
    cases found : registry.get call.tool with
    | some registered =>
      rw [enroll_taken found]
      exact ⟨rfl, rfl⟩
    | none =>
      obtain ⟨_, resource, accepts, _⟩ := enroll_fresh found
      exact ⟨resource, accepts⟩

theorem McpToolRegistry.mem_tools_iff {registry : McpToolRegistry World} :
    registered ∈ registry.tools ↔ registry.get registered.tool = some registered := by
  rw [get_eq_some_iff]
  exact (and_iff_left rfl).symm

theorem McpToolRegistry.get_eq_none_iff {registry : McpToolRegistry World} :
    registry.get name = none ↔ name ∉ registry.tools.map RegisteredTool.tool := by
  rw [get, List.find?_eq_none, List.mem_map, not_exists]
  simp only [decide_eq_true_eq, not_and]

/-- Two registries with one offer are the same if they look up the same. -/
theorem eq_of_get {left right : McpToolRegistry World} (resource : left.resource = right.resource)
    (accepts : left.accepts = right.accepts) (same : ∀ name, left.get name = right.get name) : left = right := by
  have members (registered : RegisteredTool World) : registered ∈ left.tools ↔ registered ∈ right.tools := by
    rw [McpToolRegistry.mem_tools_iff, McpToolRegistry.mem_tools_iff, same]
  have ascending (registry : McpToolRegistry World) :
      registry.tools.Pairwise fun a b : RegisteredTool World => a.tool < b.tool :=
    List.pairwise_map.mp registry.sorted
  have distinct (registry : McpToolRegistry World) : registry.tools.Nodup :=
    (ascending registry).imp fun {a b} before same => absurd (same ▸ before) (lt_irrefl _)
  have permuted : left.tools.Perm right.tools :=
    (List.perm_ext_iff_of_nodup (distinct left) (distinct right)).mpr members
  have tools : left.tools = right.tools :=
    permuted.eq_of_pairwise (fun a b _ _ before after => absurd (before.trans after) (lt_irrefl _))
      (ascending left) (ascending right)
  obtain ⟨_, _, _, _⟩ := left
  obtain ⟨_, _, _, _⟩ := right
  subst resource accepts tools
  rfl

/-! ### The listing -/

/-- What `list_tools` says of a tool. -/
def toolEntry (registered : RegisteredTool World) : Value :=
  .object [("name", toValue registered.tool), ("description", toValue registered.description),
    ("inputSchema", registered.inputSchema), ("transport", toValue registered.transport),
    ("bazaar", toValue registered.bazaar)]

/-- The body of `GET /mcp/tools`. -/
def listTools (registry : McpToolRegistry World) : Value :=
  .object [("tools", .array (registry.tools.map toolEntry))]

/-- The entries of a listing, as a reader of its JSON has them. -/
def listedTools (listing : Value) : List Value :=
  match listing.get "tools" with
  | some (.array entries) => entries
  | _ => []

def entryName (entry : Value) : Option String := (entry.get "name").bind Value.asStr

/-- The entry of a tool in a listing. -/
def listedAs (listing : Value) (tool : String) : Option Value :=
  (listedTools listing).find? fun entry => entryName entry = some tool

/-- An entry says of a tool what its bazaar block says, with `null` for what that leaves out. -/
structure Describes (entry block : Value) : Prop where
  bazaar : entry.get "bazaar" = some block
  name : entry.get "name" = ((block.get "info").bind (·.get "input")).bind (·.get "tool")
  inputSchema : entry.get "inputSchema" = ((block.get "info").bind (·.get "input")).bind (·.get "inputSchema")
  description : entry.get "description" =
    some ((((block.get "info").bind (·.get "input")).bind (·.get "description")).getD .null)
  transport : entry.get "transport" =
    some ((((block.get "info").bind (·.get "input")).bind (·.get "transport")).getD .null)

theorem describes_registered (call : Registration World) :
    Describes (toolEntry call.registered) (toValue call.registered.bazaar) := by
  obtain ⟨tool, description, inputSchema, transport, handler⟩ := call
  constructor <;> cases description <;> cases transport <;> rfl

theorem listedAs_listTools (registry : McpToolRegistry World) (tool : String) :
    listedAs (listTools registry) tool = (registry.get tool).map toolEntry := by
  have named (registered : RegisteredTool World) : entryName (toolEntry registered) = some registered.tool := rfl
  change (registry.tools.map toolEntry).find? _ = _
  rw [List.find?_map, McpToolRegistry.get]
  simp only [Function.comp_def, named, Option.some.injEq]

theorem names_listTools (registry : McpToolRegistry World) :
    (listedTools (listTools registry)).filterMap entryName = registry.tools.map RegisteredTool.tool := by
  change (registry.tools.map toolEntry).filterMap entryName = _
  rw [List.filterMap_map]
  exact congrFun List.filterMap_eq_map registry.tools

section Calls

variable [JsonText] [Base64]

/-- The answer to a call without a payment that can be read. -/
theorem callTool_unread {registry : McpToolRegistry World} {request : CallRequest}
    (unread : request.payload = none) (offers : registry.accepts ≠ []) (verifier : PaymentVerifier World)
    (world : World) :
    callTool registry verifier request world = ({ reply := paymentRequired registry request.tool }, world) := by
  have refused : gate registry request = .respond (paymentRequired registry request.tool) := by
    unfold gate
    cases found : registry.get request.tool with
    | none => simp [paymentRequired, McpToolRegistry.paymentRequired, found]
    | some registered => simp only [List.head?_eq_some_head offers, unread]
  rw [callTool, refused]

/-- The bazaar block of a 402 body. -/
def blockOf (body : Value) : Option Value := (body.get "extensions").bind (·.get "bazaar")

omit [JsonText] [Base64] in
theorem paymentRequired_found {registry : McpToolRegistry World} (found : registry.get tool = some registered) :
    (paymentRequired registry tool).status = 402 ∧
      blockOf (paymentRequired registry tool).body = some (toValue registered.bazaar) := by
  simp only [paymentRequired, McpToolRegistry.paymentRequired, found]
  exact ⟨rfl, rfl⟩

omit [JsonText] [Base64] in
theorem paymentRequired_absent {registry : McpToolRegistry World} (absent : registry.get tool = none) :
    paymentRequired registry tool = notFound tool := by
  simp only [paymentRequired, McpToolRegistry.paymentRequired, absent]
  rfl

/-- Whatever is registered, the first registration of a name is kept and every further one
refused, so that the order of the others makes no difference. The listing has these
tools once each, by name; and it says of each what the 402 of an unpaid call says, which
is a 404 for exactly the tools that it does not have. -/
theorem tools_listed (resource : PaymentResource) (accepts : List PaymentRequirements)
    (calls : List (Registration World)) :
    let registry := enroll.after (.new resource accepts) calls
    let names := (listedTools (listTools registry)).filterMap entryName
    (∀ before call later, calls = before ++ call :: later →
      (enroll (enroll.after (.new resource accepts) before) call).1 =
        if call.tool ∈ before.map Registration.tool then .error (.duplicate call.tool) else .ok ()) ∧
    (∀ calls', firstOf calls' = firstOf calls → enroll.after (.new resource accepts) calls' = registry) ∧
    names.Pairwise (· < ·) ∧ (∀ name, name ∈ names ↔ name ∈ calls.map Registration.tool) ∧
    ∀ request, request.payload = none → accepts ≠ [] → ∀ verifier world,
      let reply := (callTool registry verifier request world).1.reply
      (∀ call, firstOf calls request.tool = some call → ∃ entry block,
        listedAs (listTools registry) request.tool = some entry ∧ Describes entry block ∧
          block = toValue call.registered.bazaar ∧ reply.status = 402 ∧ blockOf reply.body = some block) ∧
      (firstOf calls request.tool = none →
        listedAs (listTools registry) request.tool = none ∧ reply = notFound request.tool) := by
  intro registry names
  have tools : names = registry.tools.map RegisteredTool.tool := names_listTools registry
  have kept : registry.accepts = accepts := (offer_after (.new resource accepts) calls).2
  refine ⟨?_, ?_, tools ▸ registry.sorted, ?_, ?_⟩
  · rintro before call later rfl
    have held := get_after_new resource accepts before call.tool
    split
    · rename_i taken
      cases first : firstOf before call.tool with
      | none => exact absurd taken (firstOf_eq_none_iff.mp first)
      | some earlier => rw [enroll_taken (held.trans (by rw [first, Option.map_some]))]
    · rename_i fresh
      rw [firstOf_eq_none_iff.mpr fresh, Option.map_none] at held
      exact (enroll_fresh held).1
  · intro calls' same
    obtain ⟨resource', accepts'⟩ := offer_after (.new resource accepts) calls'
    obtain ⟨resource'', accepts''⟩ := offer_after (.new resource accepts) calls
    refine eq_of_get (resource'.trans resource''.symm) (accepts'.trans accepts''.symm) fun name => ?_
    rw [get_after_new, get_after_new, same]
  · intro name
    rw [tools, ← not_iff_not, ← McpToolRegistry.get_eq_none_iff, ← firstOf_eq_none_iff, get_after_new,
      Option.map_eq_none_iff]
  · intro request unread offers verifier world reply
    have answered : reply = paymentRequired registry request.tool := by
      have call := callTool_unread unread (kept.symm ▸ offers) verifier world
      exact congrArg (fun result => result.1.reply) call
    have held := get_after_new resource accepts calls request.tool
    constructor
    · intro call first
      rw [first, Option.map_some] at held
      obtain ⟨status, block⟩ := paymentRequired_found held
      refine ⟨_, _, ?_, describes_registered call, rfl, answered ▸ status, answered ▸ block⟩
      rw [listedAs_listTools, held, Option.map_some]
    · intro never
      rw [never, Option.map_none] at held
      refine ⟨?_, answered.trans (paymentRequired_absent held)⟩
      rw [listedAs_listTools, held, Option.map_none]

end Calls

/-! ### Two tools, one of them registered again -/

namespace Transparent

open Facilitator.Transparent

attribute [local instance] Wallet.spelledBase64 oneDocument

/-- A tool that takes anything and returns it. -/
def echoes (tool : String) : Registration Unit where
  tool
  description := none
  inputSchema := .object []
  transport := some .sse
  handler args done := (.ok args, done)

def registrations : List (Registration Unit) := [echoes "weather", echoes "echo", echoes "weather"]

def premises : PaymentResource := { url := "https://example.test/mcp" }

/-- Whoever pays is let in. -/
def anyPayment : PaymentVerifier Unit where
  verify world _ _ := (.ok (), world)

def unpaidCall (tool : String) : CallRequest where
  tool
  headers := []
  args := .null

/-- The second `weather` is refused and the listing has each tool once. An unpaid call of
`weather` is told what the listing says of it, one of a tool that is not there nothing. -/
theorem tools_listed_twice :
    let kept := enroll.after (.new premises [requirements]) registrations
    (enroll (enroll.after (.new premises [requirements]) [echoes "weather", echoes "echo"])
      (echoes "weather")).1 = .error (.duplicate "weather") ∧
    (listedTools (listTools kept)).filterMap entryName = ["echo", "weather"] ∧
    (∃ entry block, listedAs (listTools kept) "weather" = some entry ∧ Describes entry block ∧
      (callTool kept anyPayment (unpaidCall "weather") ()).1.reply.status = 402 ∧
      blockOf (callTool kept anyPayment (unpaidCall "weather") ()).1.reply.body = some block) ∧
    (callTool kept anyPayment (unpaidCall "tides") ()).1.reply = notFound "tides" := by
  intro kept
  obtain ⟨refused, _, _, _, unpaid⟩ := tools_listed premises [requirements] registrations
  refine ⟨?_, by decide, ?_, ?_⟩
  · exact (refused [echoes "weather", echoes "echo"] (echoes "weather") [] rfl).trans (if_pos (by decide))
  · have told := (unpaid (unpaidCall "weather") rfl (List.cons_ne_nil _ _) anyPayment ()).1
    obtain ⟨entry, block, listed, describes, _, status, body⟩ := told (echoes "weather") rfl
    exact ⟨entry, block, listed, describes, status, body⟩
  · exact ((unpaid (unpaidCall "tides") rfl (List.cons_ne_nil _ _) anyPayment ()).2 rfl).2

end Transparent

end X402Nockchain.Mcp
