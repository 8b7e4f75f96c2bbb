import X402Nockchain.Facilitator.ReplayOnce
import X402Nockchain.Mcp.AdvertisedOptions

/-! Tool calls on any number of routers that ask one facilitator, interleaved as
they may. -/

namespace X402Nockchain.Mcp

open Foundation Foundation.Serde X402Types Crypto Facilitator

/-- How far a call has come. A handler runs from its start to its reply. -/
inductive CallPhase (World : Type) where
  | received
  /-- The question to the facilitator is on its way. -/
  | asking (registered : RegisteredTool World) (req : VerifyRequest)
  | waiting (registered : RegisteredTool World)
  | running (registered : RegisteredTool World)
  | answered (reply : Reply)

/-- A call at a router. `posted` is the facilitator's number for its question, and
`runs` the handlers that ran for it, with their arguments. -/
structure ToolCall (World : Type) where
  registry : McpToolRegistry World
  request : CallRequest
  phase : CallPhase World := .received
  posted : Option Nat := none
  runs : List (String × Value) := []

structure Deployment (Chain Cache World : Type) where
  facilitator : Server Chain Cache
  world : World
  calls : List (ToolCall World) := []

/-- The number of the question that the call at `number` has put. -/
def Deployment.postedAt (deployment : Deployment Chain Cache World) (number : Nat) : Option Nat :=
  deployment.calls[number]?.bind ToolCall.posted

theorem postedAt_set {deployment : Deployment Chain Cache World} {call' : ToolCall World}
    (found : deployment.calls[number]? = some call) (other : Nat) :
    Deployment.postedAt { facilitator, world, calls := deployment.calls.set number call' } other =
      if other = number then call'.posted else deployment.postedAt other :=
  Machine.held_set found call' other

/-- Nothing has been asked of the routers or the facilitator. The cache may hold anything. -/
structure Deployment.Initial (deployment : Deployment Chain Cache World) : Prop where
  idle : deployment.facilitator.Idle
  calls : deployment.calls = []

inductive Move where
  | gate
  /-- The question arrives at the facilitator. -/
  | deliver
  /-- The facilitator's answer arrives. -/
  | verdict
  /-- The question or its answer is lost. -/
  | disconnect
  /-- The handler returns. -/
  | finish

inductive DeployLabel (World : Type) where
  | arrive (registry : McpToolRegistry World) (request : CallRequest)
  | move (index : Nat) (move : Move)
  /-- The clock, and whatever else the facilitator is asked or goes on with. -/
  | facilitator (label : Label)

/-- The clock of the facilitator stays within one replay TTL. -/
def DeployLabel.WithinTtl {Chain World : Type} (state : AppState Chain) (start : UInt64) : DeployLabel World → Prop
  | .facilitator label => Facilitator.WithinTtl state start label
  | .arrive _ _ | .move _ _ => True

section Machine

variable {Chain Cache World : Type} [Vesl] [ErrorText] [JsonText] [Base64] [ReplayCache Cache]

/-- `call_tool` from one await to the next. -/
def advanceTool (state : AppState Chain) (facilitator : Server Chain Cache) (world : World)
    (call : ToolCall World) : Move → Option (ToolCall World × Server Chain Cache × World)
  | .gate =>
    match call.phase with
    | .received =>
      match gate call.registry call.request with
      | .respond reply => some ({ call with phase := .answered reply }, facilitator, world)
      | .check registered req => some ({ call with phase := .asking registered req }, facilitator, world)
    | _ => none
  | .deliver =>
    match call.phase with
    | .asking registered req =>
      (step state facilitator (.arrive req.withoutNulls)).map fun next =>
        ({ call with phase := .waiting registered, posted := some facilitator.calls.length }, next, world)
    | _ => none
  | .verdict =>
    match call.phase with
    | .waiting registered => do
      let index ← call.posted
      let served ← facilitator.calls[index]?
      let outcome ← served.outcome
      match readReply (toValue (verifyResponse outcome)) with
      | .error _ =>
        let reply := paymentRequired call.registry call.request.tool
        return ({ call with phase := .answered reply }, facilitator, world)
      | .ok () =>
        match call.registry.get registered.tool with
        | none => return ({ call with phase := .answered (notFound registered.tool) }, facilitator, world)
        | some found =>
          let runs := call.runs ++ [(found.tool, call.request.args)]
          return ({ call with phase := .running registered, runs }, facilitator, world)
    | _ => none
  | .disconnect =>
    let refused := { call with phase := .answered (paymentRequired call.registry call.request.tool) }
    match call.phase with
    | .asking _ _ => some (refused, facilitator, world)
    | .waiting _ => some (refused, facilitator, world)
    | _ => none
  | .finish =>
    match call.phase with
    | .running registered =>
      let (outcome, world) := call.registry.invoke registered.tool call.request.args world
      some ({ call with phase := .answered (invocationReply outcome) }, facilitator, world)
    | _ => none

def deployStep (state : AppState Chain) : Machine (Deployment Chain Cache World) (DeployLabel World)
  | deployment, .arrive registry request =>
    some { deployment with calls := deployment.calls ++ [{ registry, request }] }
  | deployment, .move index move => do
    let call ← deployment.calls[index]?
    let (call, facilitator, world) ←
      advanceTool state deployment.facilitator deployment.world call move
    return { facilitator, world, calls := deployment.calls.set index call }
  | deployment, .facilitator label =>
    (step state deployment.facilitator label).map fun facilitator => { deployment with facilitator }

end Machine

section Calls

variable {Chain Cache World : Type} [JsonText] [Base64]

/-- The facilitator answered a question with valid. -/
def Paid (facilitator : Server Chain Cache) (posted : Option Nat) : Prop :=
  ∃ index served, posted = some index ∧ facilitator.calls[index]? = some served ∧
    served.outcome = some (.ok ())

/-- The handler of the call has not been reached. -/
def CallPhase.BeforeRun : CallPhase World → Prop
  | .received | .asking _ _ | .waiting _ => True
  | .running _ | .answered _ => False

/-- Everything that a call can do. -/
inductive ToolStep [Vesl] [ReplayCache Cache] (state : AppState Chain) (facilitator : Server Chain Cache)
    (call : ToolCall World) : ToolCall World → Server Chain Cache → Prop where
  | refuse (before : call.phase.BeforeRun) (status : reply.status ≠ 200) :
      ToolStep state facilitator call { call with phase := .answered reply } facilitator
  | ask (phase : call.phase = .received) (gated : gate call.registry call.request = .check registered req) :
      ToolStep state facilitator call { call with phase := .asking registered req } facilitator
  | post (phase : call.phase = .asking registered req)
      (taken : step state facilitator (.arrive req.withoutNulls) = some next) :
      ToolStep state facilitator call
        { call with phase := .waiting registered, posted := some facilitator.calls.length } next
  | run (phase : call.phase = .waiting registered) (found : call.registry.get registered.tool = some tool)
      (paid : Paid facilitator call.posted) :
      ToolStep state facilitator call { call with
        phase := .running registered
        runs := call.runs ++ [(tool.tool, call.request.args)] } facilitator
  | finish (phase : call.phase = .running registered) (reply : Reply) :
      ToolStep state facilitator call { call with phase := .answered reply } facilitator

/-- A call asks the facilitator at most once at a time, under a new number. -/
theorem ToolStep.asks [Vesl] [ReplayCache Cache] {state : AppState Chain} {facilitator : Server Chain Cache}
    {call call' : ToolCall World} (taken : ToolStep state facilitator call call' facilitator') :
    (facilitator' = facilitator ∧ call'.posted = call.posted) ∨
      ∃ req, step state facilitator (.arrive req) = some facilitator' ∧
        call'.posted = some facilitator.calls.length := by
  cases taken with
  | refuse | ask | run | finish => exact .inl ⟨rfl, rfl⟩
  | post phase posts => exact .inr ⟨_, posts, rfl⟩

end Calls

section Steps

variable {Chain Cache World : Type} [Vesl] [JsonText] [Base64] [LawfulReplayCache Cache]
  {state : AppState Chain} {facilitator facilitator' : Server Chain Cache} {world world' : World}
  {call call' : ToolCall World} {deployment : Deployment Chain Cache World} {move : Move}

theorem toolStep_of_advance [ErrorText]
    (taken : advanceTool state facilitator world call move = some (call', facilitator', world')) :
    ToolStep state facilitator call call' facilitator' := by
  obtain ⟨registry, request, phase, posted, runs⟩ := call
  cases move with
  | gate =>
    cases phase with
    | received =>
      simp only [advanceTool] at taken
      cases gated : gate registry request with
      | respond reply =>
        rw [gated] at taken
        cases taken
        exact .refuse trivial (gate_respond_status gated)
      | check registered req =>
        rw [gated] at taken
        cases taken
        exact .ask rfl gated
    | asking | waiting | running | answered => cases taken
  | deliver =>
    cases phase with
    | asking registered req =>
      simp only [advanceTool, Option.map_eq_some_iff] at taken
      obtain ⟨next, posts, same⟩ := taken
      cases same
      exact .post rfl posts
    | received | waiting | running | answered => cases taken
  | verdict =>
    cases phase with
    | waiting registered =>
      simp only [advanceTool, Option.bind_eq_bind, Option.bind_eq_some_iff] at taken
      obtain ⟨index, posted, served, found, outcome, finished, read⟩ := taken
      cases verdict : readReply (toValue (verifyResponse outcome)) with
      | error failure =>
        rw [verdict] at read
        cases read
        exact .refuse trivial (paymentRequired_status _ _)
      | ok done =>
        rw [verdict] at read
        cases known : registry.get registered.tool with
        | none =>
          simp only [known] at read
          cases read
          exact .refuse trivial (notFound_status _)
        | some tool =>
          simp only [known] at read
          cases read
          have valid := verifyResponse_valid.mp (readReply_ok_iff.mp verdict)
          rw [valid] at finished
          exact .run rfl known ⟨index, served, posted, found, finished⟩
    | received | asking | running | answered => cases taken
  | disconnect =>
    cases phase with
    | asking | waiting =>
      cases taken
      exact .refuse trivial (paymentRequired_status _ _)
    | received | running | answered => cases taken
  | finish =>
    cases phase with
    | running registered =>
      cases taken
      exact .finish rfl _
    | received | asking | waiting | answered => cases taken

/-- What the facilitator does by itself, it does in a deployment. -/
theorem run_facilitator [ErrorText]
    (reached : Machine.run (step state) deployment.facilitator labels = some facilitator') :
    Machine.run (deployStep state) deployment (labels.map .facilitator) =
      some { deployment with facilitator := facilitator' } := by
  refine Machine.run_within (fun facilitator => { deployment with facilitator })
    DeployLabel.facilitator ?_ reached
  intro facilitator label next taken
  simp only [deployStep, taken, Option.map_some]

/-! ### A call with nobody else around -/

/-- `RemoteFacilitatorVerifier`, for routers whose facilitator is no part of the world
of their handlers. It asks the facilitator as it stands. -/
def standing [ErrorText] (state : AppState Chain) (facilitator : Server Chain Cache) :
    PaymentVerifier World where
  verify world payload requirements :=
    let verifier := remoteFacilitatorVerifier state facilitator.clock
    ((verifier.verify facilitator.cache payload requirements).1, world)

omit [JsonText] [Base64] in
theorem accepts_standing_iff [ErrorText] {payload : PaymentPayload Value} :
    Accepts (standing state facilitator) world payload requirements ↔
      (verifyEnvelope state facilitator.clock facilitator.cache
        (VerifyRequest.withoutNulls { payload, requirements })).1 = .ok () := by
  have same : Accepts (standing state facilitator) world payload requirements ↔
      Accepts (remoteFacilitatorVerifier state facilitator.clock) facilitator.cache payload requirements := Iff.rfl
  exact same.trans accepts_remote_iff

theorem deployStep_last [ErrorText]
    (taken : advanceTool state facilitator world call move = some (call', facilitator', world')) :
    deployStep state { facilitator, world, calls := front ++ [call] } (.move front.length move) =
      some { facilitator := facilitator', world := world', calls := front ++ [call'] } := by
  simp [deployStep, taken]

/-- The facilitator has answered one question, at the reading that its clock has. -/
structure Served (state : AppState Chain) (facilitator : Server Chain Cache) (req : VerifyRequest)
    (facilitator' : Server Chain Cache) : Prop where
  clock : facilitator'.clock = facilitator.clock
  cache : facilitator'.cache =
    (verifyEnvelope state facilitator.clock facilitator.cache req.withoutNulls).2

/-- From the arrival of a call to the answer of the facilitator. -/
theorem run_asked [ErrorText] (state : AppState Chain) (gated : gate registry request = .check registered req)
    (facilitator : Server Chain Cache) (world : World) (calls : List (ToolCall World)) :
    ∃ labels facilitator' served, Machine.run (deployStep state) { facilitator, world, calls } labels = some {
        facilitator := facilitator'
        world
        calls := calls ++ [{
          registry, request
          phase := .waiting registered
          posted := some facilitator.calls.length }] } ∧
      Served state facilitator req facilitator' ∧
      facilitator'.calls[facilitator.calls.length]? = some served ∧
      served.outcome = some (verifyEnvelope state facilitator.clock facilitator.cache req.withoutNulls).1 ∧
      ∀ start, ∀ label ∈ labels, label.WithinTtl state start := by
  obtain ⟨checks, served, reached, _, outcome, _⟩ := run_alone state facilitator req.withoutNulls
  obtain ⟨asked, arrives, serves⟩ := Machine.run_cons reached
  have gates : advanceTool state facilitator world { registry, request } .gate =
      some ({ registry, request, phase := .asking registered req }, facilitator, world) := by
    simp [advanceTool, gated]
  have delivers : advanceTool state facilitator world
      { registry, request, phase := .asking registered req } .deliver =
        some ({ registry, request, phase := .waiting registered, posted := some facilitator.calls.length },
          asked, world) := by
    simp [advanceTool, arrives]
  refine ⟨[.arrive registry request, .move calls.length .gate, .move calls.length .deliver] ++
    (List.replicate checks (.advance facilitator.calls.length)).map .facilitator, { facilitator with
      cache := (verifyEnvelope state facilitator.clock facilitator.cache req.withoutNulls).2
      calls := facilitator.calls ++ [served] }, served, ?_, ⟨rfl, rfl⟩, List.getElem?_concat_length, outcome, ?_⟩
  · rw [Machine.run_append, Machine.run, deployStep, Option.bind_some, Machine.run, deployStep_last gates,
      Option.bind_some, Machine.run, deployStep_last delivers, Option.bind_some, Machine.run, Option.bind_some,
      run_facilitator serves]
  · intro start
    refine List.forall_mem_append.mpr ⟨by simp [DeployLabel.WithinTtl], ?_⟩
    intro label member
    obtain ⟨check, same, rfl⟩ := List.mem_map.mp member
    rw [List.eq_of_mem_replicate same]
    trivial

/-- From the answer of the facilitator to that of the router. -/
theorem run_answered [ErrorText] {standingAt : Server Chain Cache} (gated : gate registry request = .check registered req)
    (found : facilitator.calls[index]? = some served) (outcome : served.outcome =
      some (verifyEnvelope state standingAt.clock standingAt.cache req.withoutNulls).1)
    (world : World) (calls : List (ToolCall World)) :
    let result := callTool registry (standing state standingAt) request world
    ∃ labels call, Machine.run (deployStep state) { facilitator, world, calls := calls ++ [{
          registry, request
          phase := .waiting registered
          posted := some index }] } labels = some {
        facilitator
        world := result.2
        calls := calls ++ [call] } ∧
      call.request = request ∧ call.phase = .answered result.1.reply ∧ call.runs = result.1.ran.toList ∧
      ∀ start, ∀ label ∈ labels, label.WithinTtl state start := by
  have known := (gate_check_iff.mp gated).1
  have named := McpToolRegistry.tool_of_get known
  let waiting : ToolCall World := {
    registry, request
    phase := .waiting registered
    posted := some index }
  cases verdict : readReply (toValue (verifyResponse
      (verifyEnvelope state standingAt.clock standingAt.cache req.withoutNulls).1)) with
  | error failure =>
    have refuses : advanceTool state facilitator world waiting .verdict =
        some ({ waiting with phase := .answered (paymentRequired registry request.tool) },
          facilitator, world) := by
      simp [advanceTool, waiting, found, outcome, verdict]
    simp only [callTool, gated, standing, remoteFacilitatorVerifier, verdict]
    refine ⟨[.move calls.length .verdict],
      { waiting with phase := .answered (paymentRequired registry request.tool) }, ?_, rfl, rfl, rfl, ?_⟩
    · rw [Machine.run, deployStep_last refuses, Option.bind_some, Machine.run]
    · simp [DeployLabel.WithinTtl]
  | ok done =>
    have runs : advanceTool state facilitator world waiting .verdict =
        some ({ waiting with phase := .running registered, runs := [(request.tool, request.args)] },
          facilitator, world) := by
      simp [advanceTool, waiting, found, outcome, verdict, named, known]
    obtain ⟨outcome, world', invoked⟩ : ∃ outcome world',
        registry.invoke request.tool request.args world = (outcome, world') := ⟨_, _, rfl⟩
    have finishes : advanceTool state facilitator world
        { waiting with phase := .running registered, runs := [(request.tool, request.args)] } .finish =
        some ({ waiting with
          phase := .answered (invocationReply outcome)
          runs := [(request.tool, request.args)] }, facilitator, world') := by
      simp [advanceTool, waiting, named, invoked]
    simp only [callTool, gated, standing, remoteFacilitatorVerifier, verdict, named, known, invoked,
      Option.map_some]
    refine ⟨[.move calls.length .verdict, .move calls.length .finish],
      { waiting with
        phase := .answered (invocationReply outcome)
        runs := [(request.tool, request.args)] }, ?_, rfl, rfl, rfl, ?_⟩
    · rw [Machine.run, deployStep_last runs, Option.bind_some, Machine.run, deployStep_last finishes,
        Option.bind_some, Machine.run]
    · simp [DeployLabel.WithinTtl]

/-- A call that is served at once is one `call_tool`. -/
theorem run_call [ErrorText] (state : AppState Chain) (deployment : Deployment Chain Cache World)
    (registry : McpToolRegistry World) (request : CallRequest) :
    let result := callTool registry (standing state deployment.facilitator) request deployment.world
    ∃ labels facilitator' call, Machine.run (deployStep state) deployment labels = some {
        facilitator := facilitator'
        world := result.2
        calls := deployment.calls ++ [call] } ∧
      call.request = request ∧ call.phase = .answered result.1.reply ∧ call.runs = result.1.ran.toList ∧
      (∀ registered req, gate registry request = .check registered req →
        Served state deployment.facilitator req facilitator') ∧
      ∀ start, ∀ label ∈ labels, label.WithinTtl state start := by
  obtain ⟨facilitator, world, calls⟩ := deployment
  cases gated : gate registry request with
  | respond reply =>
    have answers : advanceTool state facilitator world { registry, request } .gate =
        some ({ registry, request, phase := .answered reply }, facilitator, world) := by
      simp [advanceTool, gated]
    simp only [callTool, gated]
    refine ⟨[.arrive registry request, .move calls.length .gate], facilitator,
      { registry, request, phase := .answered reply }, ?_, rfl, rfl, rfl, ?_, ?_⟩
    · rw [Machine.run, deployStep, Option.bind_some, Machine.run, deployStep_last answers, Option.bind_some,
        Machine.run]
    · intro registered req checks
      cases checks
    · simp [DeployLabel.WithinTtl]
  | check registered req =>
    obtain ⟨before, facilitator', served, asked, answers, found, outcome, within⟩ :=
      run_asked state gated facilitator world calls
    obtain ⟨after, call, answered, asks, phase, ran, within'⟩ := run_answered gated found outcome world calls
    refine ⟨before ++ after, facilitator', call, ?_, asks, phase, ran, ?_, fun start =>
      List.forall_mem_append.mpr ⟨within start, within' start⟩⟩
    · rw [Machine.run_append, asked, Option.bind_some, answered]
    · intro _ _ same
      obtain ⟨rfl, rfl⟩ := Gated.check.inj same
      exact answers

end Steps

end X402Nockchain.Mcp
