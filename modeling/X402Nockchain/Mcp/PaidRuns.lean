import X402Nockchain.Mcp.ToolCalls

/-! Every run of a tool is paid for: no two of them with one nonce, and none
without an answer of the facilitator to its own payment. -/

namespace X402Nockchain.Mcp

open Foundation Foundation.Serde X402Types Crypto Facilitator

section Invariant

variable {Chain Cache World : Type} [JsonText] [Base64]

/-- The facilitator has the question of a request under this number. -/
def Asked (facilitator : Server Chain Cache) (registry : McpToolRegistry World) (request : CallRequest)
    (index : Nat) : Prop :=
  ∃ registered req served, gate registry request = .check registered req ∧
    facilitator.calls[index]? = some served ∧ served.request = req.withoutNulls

/-- The tool of the call ran, once, with the arguments of the call. -/
def RanOnce (call : ToolCall World) : Prop := call.runs = [(call.request.tool, call.request.args)]

/-- What the phase of a call tells. -/
inductive Progress (facilitator : Server Chain Cache) (call : ToolCall World) : CallPhase World → Prop where
  | received (unposted : call.posted = none) (idle : call.runs = []) : Progress facilitator call .received
  | asking (gated : gate call.registry call.request = .check registered req)
      (unposted : call.posted = none) (idle : call.runs = []) :
      Progress facilitator call (.asking registered req)
  | waiting (gated : gate call.registry call.request = .check registered req) (idle : call.runs = []) :
      Progress facilitator call (.waiting registered)
  | running (ran : RanOnce call) (paid : Paid facilitator call.posted) :
      Progress facilitator call (.running registered)
  | refused (idle : call.runs = []) (status : reply.status ≠ 200) :
      Progress facilitator call (.answered reply)
  | served (ran : RanOnce call) (paid : Paid facilitator call.posted) :
      Progress facilitator call (.answered reply)

structure Sound (facilitator : Server Chain Cache) (call : ToolCall World) : Prop where
  progress : Progress facilitator call call.phase
  asked : ∀ index, call.posted = some index → Asked facilitator call.registry call.request index

theorem Progress.idle {facilitator : Server Chain Cache} {call : ToolCall World}
    (progress : Progress facilitator call phase) (before : phase.BeforeRun) : call.runs = [] := by
  cases progress with
  | received _ idle => exact idle
  | asking _ _ idle => exact idle
  | waiting _ idle => exact idle
  | running | refused | served => exact before.elim

/-- What the facilitator is to be asked about a call: its own payload, against the
first entry of its router. -/
def ToolCall.question (call : ToolCall World) : Option VerifyRequest := do
  let payload ← call.request.payload
  let requirements ← call.registry.accepts.head?
  return VerifyRequest.withoutNulls { payload, requirements }

/-- The facilitator was asked about a call, and answered valid. -/
def PaidBy (facilitator : Server Chain Cache) (call : ToolCall World) : Prop :=
  ∃ index served, call.posted = some index ∧ facilitator.calls[index]? = some served ∧
    call.question = some served.request ∧ served.outcome = some (.ok ())

theorem question_of_gated {call : ToolCall World}
    (gated : gate call.registry call.request = .check registered req) : call.question = some req.withoutNulls := by
  obtain ⟨_, offered, carried⟩ := gate_check_iff.mp gated
  simp [ToolCall.question, offered, carried]

/-- The question that was answered valid is that of the call. -/
theorem Sound.paidBy {call : ToolCall World} {facilitator : Server Chain Cache}
    (sound : Sound facilitator call) (paid : Paid facilitator call.posted) : PaidBy facilitator call := by
  obtain ⟨index, served, posted, found, valid⟩ := paid
  obtain ⟨_, req, served', gated, found', same⟩ := sound.asked index posted
  obtain rfl := Option.some.inj (found.symm.trans found')
  exact ⟨index, served, posted, found, same ▸ question_of_gated gated, valid⟩

/-- A call ran its tool once and is paid for, or ran nothing and gets no 200. -/
theorem Sound.cases {call : ToolCall World} {facilitator : Server Chain Cache} (sound : Sound facilitator call) :
    (RanOnce call ∧ PaidBy facilitator call) ∨
      (call.runs = [] ∧ ∀ reply, call.phase = .answered reply → reply.status ≠ 200) := by
  have progress := sound.progress
  generalize call.phase = phase at progress
  cases progress with
  | received _ idle | asking _ _ idle | waiting _ idle => exact .inr ⟨idle, nofun⟩
  | running ran paid => exact .inl ⟨ran, sound.paidBy paid⟩
  | refused idle status =>
    refine .inr ⟨idle, fun reply answered => ?_⟩
    obtain rfl := CallPhase.answered.inj answered
    exact status
  | served ran paid => exact .inl ⟨ran, sound.paidBy paid⟩

end Invariant

section Steps

variable {Chain Cache World : Type} [Vesl] [JsonText] [Base64] [LawfulReplayCache Cache]
  {state : AppState Chain} {facilitator facilitator' : Server Chain Cache} {world world' : World}
  {call call' : ToolCall World} {deployment next : Deployment Chain Cache World} {move : Move}

/-- A step of the facilitator takes no question and no answer back. -/
theorem Asked.later {registry : McpToolRegistry World} (asked : Asked facilitator registry request index)
    (taken : step state facilitator label = some facilitator') :
    Asked facilitator' registry request index := by
  obtain ⟨registered, req, served, gated, found, same⟩ := asked
  obtain ⟨served', found', kept, _⟩ := calls_step taken found
  exact ⟨registered, req, served', gated, found', kept.trans same⟩

omit [JsonText] [Base64] in
theorem Paid.later (paid : Paid facilitator posted)
    (taken : step state facilitator label = some facilitator') : Paid facilitator' posted := by
  obtain ⟨index, served, posted, found, valid⟩ := paid
  obtain ⟨served', found', _, same⟩ := calls_step taken found
  rw [same (by simp [valid])] at found'
  exact ⟨index, served, posted, found', valid⟩

theorem Sound.later (sound : Sound facilitator call)
    (taken : step state facilitator label = some facilitator') : Sound facilitator' call where
  progress := by
    have progress := sound.progress
    generalize call.phase = phase at progress
    cases progress with
    | received unposted idle => exact .received unposted idle
    | asking gated unposted idle => exact .asking gated unposted idle
    | waiting gated idle => exact .waiting gated idle
    | running ran paid => exact .running ran (paid.later taken)
    | refused idle status => exact .refused idle status
    | served ran paid => exact .served ran (paid.later taken)
  asked index posted := (sound.asked index posted).later taken

/-- What a call does keeps it sound. -/
theorem sound_step (sound : Sound facilitator call)
    (taken : ToolStep state facilitator call call' facilitator') : Sound facilitator' call' := by
  obtain ⟨progress, asked⟩ := sound
  cases taken with
  | refuse before status => exact ⟨.refused (progress.idle before) status, fun index => asked index⟩
  | ask phase gated =>
    rw [phase] at progress
    cases progress with
    | received unposted idle => exact ⟨.asking gated unposted idle, fun index => asked index⟩
  | post phase posts =>
    rw [phase] at progress
    cases progress with
    | asking gated unposted idle =>
      refine ⟨.waiting gated idle, fun index numbered => ?_⟩
      obtain rfl := Option.some.inj numbered
      obtain rfl := Option.some.inj posts
      exact ⟨_, _, ⟨_, .arrived⟩, gated, List.getElem?_concat_length, rfl⟩
  | run phase found paid =>
    rw [phase] at progress
    cases progress with
    | waiting gated idle =>
      have registered := (gate_check_iff.mp gated).1
      refine ⟨.running ?_ paid, fun index => asked index⟩
      rw [RanOnce, idle, McpToolRegistry.tool_of_get found, McpToolRegistry.tool_of_get registered]
      rfl
  | finish phase reply =>
    rw [phase] at progress
    cases progress with
    | running ran paid => exact ⟨.served ran paid, fun index => asked index⟩

/-- The invariant of the routers and their facilitator. -/
structure Accounted (state : AppState Chain) (start : UInt64) (deployment : Deployment Chain Cache World) :
    Prop where
  valid : Valid state deployment.facilitator
  recent : Recent state start deployment.facilitator
  sound : ∀ call ∈ deployment.calls, Sound deployment.facilitator call
  apart : ∀ i j index, deployment.postedAt i = some index → deployment.postedAt j = some index → i = j

/-- The facilitator goes on, for others or for a question of its own. -/
theorem accounted_facilitator {start : UInt64} (accounted : Accounted state start deployment)
    (allowed : WithinTtl state start label)
    (taken : step state deployment.facilitator label = some facilitator') :
    Accounted state start { deployment with facilitator := facilitator' } where
  valid := valid_step accounted.valid taken
  recent := recent_step allowed accounted.recent taken
  sound call member := (accounted.sound call member).later taken
  apart := accounted.apart

theorem accounted_arrive {start : UInt64} (accounted : Accounted state start deployment)
    (registry : McpToolRegistry World) (request : CallRequest) :
    Accounted state start { deployment with calls := deployment.calls ++ [{ registry, request }] } where
  valid := accounted.valid
  recent := accounted.recent
  sound := by
    rw [List.forall_mem_append]
    refine ⟨accounted.sound, fun call member => ?_⟩
    obtain rfl := List.mem_singleton.mp member
    exact ⟨.received rfl rfl, nofun⟩
  apart := by
    have same : ∀ number, Deployment.postedAt { deployment with
        calls := deployment.calls ++ [({ registry, request } : ToolCall World)] } number =
        deployment.postedAt number := Machine.held_concat rfl
    intro i j index left right
    rw [same] at left right
    exact accounted.apart i j index left right

/-- The facilitator has the questions that its callers have put. -/
theorem Accounted.known {start : UInt64} (accounted : Accounted state start deployment)
    (posted : deployment.postedAt number = some index) : index < deployment.facilitator.calls.length := by
  obtain ⟨call, here, numbered⟩ := Option.bind_eq_some_iff.mp posted
  obtain ⟨_, _, served, _, found, _⟩ :=
    (accounted.sound call (List.mem_of_getElem? here)).asked index numbered
  exact (List.getElem?_eq_some_iff.mp found).1

/-- What one call does leaves the others accounted for. -/
theorem accounted_move {start : UInt64} (accounted : Accounted state start deployment)
    (found : deployment.calls[number]? = some call)
    (taken : ToolStep state deployment.facilitator call call' facilitator') (world : World) :
    Accounted state start
      { facilitator := facilitator', world, calls := deployment.calls.set number call' } := by
  have sound := sound_step (accounted.sound call (List.mem_of_getElem? found)) taken
  have own : deployment.postedAt number = call.posted := by
    rw [Deployment.postedAt, found, Option.bind_some]
  rcases taken.asks with ⟨rfl, posted⟩ | ⟨req, asked, posted⟩
  · refine ⟨accounted.valid, accounted.recent, fun other member => ?_, fun i j index left right => ?_⟩
    · rcases List.mem_or_eq_of_mem_set member with member | rfl
      · exact accounted.sound other member
      · exact sound
    · have same : ∀ other, (if other = number then call'.posted else deployment.postedAt other) =
          deployment.postedAt other := by
        intro other
        split
        · rw [posted, ← own, ‹other = number›]
        · rfl
      rw [postedAt_set found, same] at left right
      exact accounted.apart i j index left right
  · have untouched : WithinTtl state start (.arrive req) := trivial
    refine ⟨valid_step accounted.valid asked, recent_step untouched accounted.recent asked,
      fun other member => ?_, fun i j index left right => ?_⟩
    · rcases List.mem_or_eq_of_mem_set member with member | rfl
      · exact (accounted.sound other member).later asked
      · exact sound
    · -- The number of the new question is none that was given before.
      have new : ∀ other, deployment.postedAt other ≠ some deployment.facilitator.calls.length :=
        fun other same => absurd (accounted.known same) (Nat.lt_irrefl _)
      rw [postedAt_set found, posted] at left right
      split at left <;> split at right
      · rw [‹i = number›, ‹j = number›]
      · exact absurd (right.trans left.symm) (new j)
      · exact absurd (left.trans right.symm) (new i)
      · exact accounted.apart i j index left right

theorem accounted_step [ErrorText] {start : UInt64} (allowed : label.WithinTtl state start)
    (accounted : Accounted state start deployment)
    (taken : deployStep state deployment label = some next) : Accounted state start next := by
  cases label with
  | arrive registry request =>
    obtain rfl := Option.some.inj taken
    exact accounted_arrive accounted registry request
  | move number move =>
    simp only [deployStep, Option.bind_eq_bind, Option.bind_eq_some_iff] at taken
    obtain ⟨call, found, ⟨call', facilitator', world'⟩, advanced, same⟩ := taken
    obtain rfl := Option.some.inj same
    exact accounted_move accounted found (toolStep_of_advance advanced) world'
  | facilitator label =>
    obtain ⟨facilitator', stepped, rfl⟩ := Option.map_eq_some_iff.mp taken
    exact accounted_facilitator accounted allowed stepped

theorem accounted_run [ErrorText] (initial : deployment.Initial)
    (within : ∀ label ∈ labels, label.WithinTtl state deployment.facilitator.clock)
    (reached : Machine.run (deployStep state) deployment labels = some final) :
    Accounted state deployment.facilitator.clock final := by
  refine Machine.invariant (fun allowed accounted taken => accounted_step allowed accounted taken)
    (Machine.within_of_labels within deployment) ?_ reached
  refine ⟨valid_of_idle initial.idle, recent_of_idle initial.idle, ?_, ?_⟩
  · rw [initial.calls]
    exact List.forall_mem_nil _
  · intro i j index posted
    rw [Deployment.postedAt, initial.calls] at posted
    cases posted

/-! ### Every run is paid for -/

/-- The authorization in the payment of a call, as the facilitator reads it. -/
def Carries (state : AppState Chain) (call : ToolCall World) (auth : Authorization) : Prop :=
  ∃ req, call.question = some req ∧ Shows state req auth

/-- What a deployment owes to the one who is paid. -/
structure PaidOnce [ErrorText] (state : AppState Chain) (deployment : Deployment Chain Cache World) : Prop where
  paid : ∀ call ∈ deployment.calls, call.runs ≠ [] → PaidBy deployment.facilitator call
  once : ∀ call ∈ deployment.calls, call.runs ≠ [] → RanOnce call
  carried : ∀ call ∈ deployment.calls, call.runs ≠ [] → ∃ auth, Carries state call auth
  distinct : ∀ (i j : Nat) (a b : ToolCall World) auth auth', i ≠ j → deployment.calls[i]? = some a →
    deployment.calls[j]? = some b → a.runs ≠ [] → b.runs ≠ [] → Carries state a auth →
    Carries state b auth' → auth.nonce ≠ auth'.nonce
  /-- Whether the payment is missing, does not decode or is rejected. -/
  unpaid : ∀ call ∈ deployment.calls, ¬ PaidBy deployment.facilitator call →
    call.runs = [] ∧ ∀ reply, call.phase = .answered reply → reply.status ≠ 200
  /-- No question is put for it, and nothing that it does reaches the facilitator. -/
  unregistered : ∀ (number : Nat) call, deployment.calls[number]? = some call →
    call.registry.get call.request.tool = none → call.posted = none ∧
      ∀ move next, deployStep state deployment (.move number move) = some next →
        next.facilitator = deployment.facilitator

/-- A call whose tool is not registered never gets as far as the facilitator. -/
theorem Sound.unasked (sound : Sound facilitator call) (absent : call.registry.get call.request.tool = none) :
    call.posted = none ∧ ∀ call' facilitator', ToolStep state facilitator call call' facilitator' →
      facilitator' = facilitator := by
  have ungated : ∀ registered req, gate call.registry call.request ≠ .check registered req := by
    intro registered req gated
    cases absent.symm.trans (gate_check_iff.mp gated).1
  refine ⟨?_, fun call' facilitator' taken => ?_⟩
  · cases posted : call.posted with
    | none => rfl
    | some index =>
      obtain ⟨registered, req, _, gated, _⟩ := sound.asked index posted
      exact absurd gated (ungated registered req)
  · cases taken with
    | refuse | ask | run | finish => rfl
    | post phase =>
      have progress := sound.progress
      rw [phase] at progress
      cases progress with
      | asking gated => exact absurd gated (ungated _ _)

/-- A paid call carries an authorization. -/
theorem carries_of_paid {start : UInt64} (accounted : Accounted state start deployment)
    (paid : PaidBy deployment.facilitator call) : ∃ auth, Carries state call auth := by
  obtain ⟨index, served, _, found, asked, valid⟩ := paid
  obtain ⟨auth, _, shown⟩ := accepted_of_outcome accounted.valid found valid
  exact ⟨auth, served.request, asked, shown⟩

/-- Two paid calls carry two nonces. -/
theorem nonces_apart {start : UInt64} {i j : Nat} {a b : ToolCall World}
    (accounted : Accounted state start deployment) (distinct : i ≠ j)
    (left : deployment.calls[i]? = some a) (right : deployment.calls[j]? = some b)
    (paid : PaidBy deployment.facilitator a) (paid' : PaidBy deployment.facilitator b)
    (carries : Carries state a auth) (carries' : Carries state b auth') : auth.nonce ≠ auth'.nonce := by
  obtain ⟨index, served, posted, found, asked, valid⟩ := paid
  obtain ⟨index', served', posted', found', asked', valid'⟩ := paid'
  obtain ⟨req, same, showsReq⟩ := carries
  obtain ⟨req', same', showsReq'⟩ := carries'
  obtain rfl := Option.some.inj (asked.symm.trans same)
  obtain rfl := Option.some.inj (asked'.symm.trans same')
  have numbers : index ≠ index' := by
    rintro rfl
    apply distinct
    apply accounted.apart i j index
    · rw [Deployment.postedAt, left, Option.bind_some, posted]
    · rw [Deployment.postedAt, right, Option.bind_some, posted']
  obtain ⟨_, accepted, shown⟩ := accepted_of_outcome accounted.valid found valid
  obtain ⟨_, accepted', shown'⟩ := accepted_of_outcome accounted.valid found' valid'
  obtain rfl := showsReq.unique shown
  obtain rfl := showsReq'.unique shown'
  obtain ⟨record, stored, rfl, _⟩ := Call.record_of_accepted accepted
  obtain ⟨record', stored', rfl, _⟩ := Call.record_of_accepted accepted'
  intro nonce
  apply key_once accounted.valid accounted.recent numbers (r := record) (s := record')
  · rw [Server.recordAt, found, Option.bind_some, stored]
  · rw [Server.recordAt, found', Option.bind_some, stored']
  · rw [replayKey, replayKey, nonce]

theorem paidOnce_of_accounted [ErrorText] {start : UInt64} (accounted : Accounted state start deployment) :
    PaidOnce state deployment := by
  have paid : ∀ call ∈ deployment.calls, call.runs ≠ [] →
      RanOnce call ∧ PaidBy deployment.facilitator call :=
    fun call member ran => (accounted.sound call member).cases.resolve_right fun idle => ran idle.1
  refine ⟨fun call member ran => (paid call member ran).2, fun call member ran => (paid call member ran).1,
    fun call member ran => carries_of_paid accounted (paid call member ran).2, ?_, ?_, ?_⟩
  · intro i j a b auth auth' distinct left right ran ran'
    exact nonces_apart accounted distinct left right (paid a (List.mem_of_getElem? left) ran).2
      (paid b (List.mem_of_getElem? right) ran').2
  · intro call member unpaid
    exact (accounted.sound call member).cases.resolve_left fun ran => unpaid ran.2
  · intro number call found absent
    obtain ⟨unposted, still⟩ := (accounted.sound call (List.mem_of_getElem? found)).unasked absent
    refine ⟨unposted, fun move next taken => ?_⟩
    simp only [deployStep, Option.bind_eq_bind, Option.bind_eq_some_iff] at taken
    obtain ⟨call', found', ⟨_, facilitator', _⟩, advanced, same⟩ := taken
    obtain rfl := Option.some.inj (found.symm.trans found')
    obtain rfl := Option.some.inj same
    exact still _ _ (toolStep_of_advance advanced)

/-- Tool runs are paid for one by one, on any routers and in every interleaving of
their calls within one replay TTL of the facilitator that they share. -/
theorem runs_are_paid_once [ErrorText] (initial : deployment.Initial)
    (within : ∀ label ∈ labels, label.WithinTtl state deployment.facilitator.clock)
    (reached : Machine.run (deployStep state) deployment labels = some final) : PaidOnce state final :=
  paidOnce_of_accounted (accounted_run initial within reached)

end Steps

/-! ### Three calls with two payments -/

namespace Transparent

open Crypto.Transparent Facilitator.Transparent

attribute [local instance] transparent transparent_lawful plainErrors Wallet.spelledBase64
  Wallet.spelledBase64_lawful

/-- A payment like that of `original`, with another nonce. -/
def another : VerifyRequest := request (payment strangers)

theorem strangers_signable : Signable strangers :=
  { authorization_signable with nonce := ⟨5, rfl, by decide⟩ }

theorem another_honest : Honest payer (payment strangers) another :=
  honest strangers_signable rfl rfl rfl none

/-- Texts for two documents, the payloads of the two payments. -/
@[reducible] def twoDocuments : JsonText where
  print _ := ""
  parse text := some (toValue (if text = "" then original else another).payload)

attribute [local instance] twoDocuments

def anotherCall : CallRequest := { paidCall with headers := [(paymentSignatureHeader, asBytes "2g")] }

theorem original_read : paidCall.payload = some original.payload := by
  have header : paidCall.payload = fromValue (toValue original.payload) := rfl
  rw [header, fromValue_toValue]

theorem another_read : anotherCall.payload = some another.payload := by
  have header : anotherCall.payload = fromValue (toValue another.payload) := rfl
  rw [header, fromValue_toValue]

def deployed : Deployment Unit RecordLog RecordLog where
  facilitator := idle
  world := {}

theorem deployed_initial : deployed.Initial := ⟨nothing_asked, rfl⟩

section Echo

variable {call : CallRequest} {req : VerifyRequest} (server : Server Unit RecordLog) (world : RecordLog)

theorem echo_gated (named : call.tool = "echo") (read : call.payload = some req.payload)
    (offered : requirements = req.requirements) : gate (stall [requirements]) call = .check echo req :=
  gate_check_iff.mpr ⟨by rw [named]; rfl, congrArg some offered, read⟩

/-- A call that the facilitator accepts runs its tool. -/
theorem echo_runs (gated : gate (stall [requirements]) call = .check echo req) (named : call.tool = "echo")
    (accepted : (verifyEnvelope facilitator server.clock server.cache req.withoutNulls).1 = .ok ()) :
    (callTool (stall [requirements]) (standing facilitator server) call world).1.ran =
      some ("echo", call.args) := by
  obtain ⟨found, offered, read⟩ := gate_check_iff.mp gated
  have accepts : Accepts (standing facilitator server) world req.payload req.requirements :=
    accepts_standing_iff.mpr accepted
  rw [← named]
  exact ((admitted_iff found read).mpr ⟨req.requirements, offered, accepts⟩).1

/-- A call that it refuses runs none. -/
theorem echo_refused (gated : gate (stall [requirements]) call = .check echo req)
    (refused : (verifyEnvelope facilitator server.clock server.cache req.withoutNulls).1 = .error error) :
    (callTool (stall [requirements]) (standing facilitator server) call world).1.ran = none := by
  cases verdict : readReply (toValue (verifyResponse (.error error))) with
  | error failure => simp only [callTool, gated, standing, remoteFacilitatorVerifier, refused, verdict]
  | ok done => cases verifyResponse_valid.mp (readReply_ok_iff.mp verdict)

/-- A call of the tool, with nobody else around. -/
theorem echo_called (calls : List (ToolCall RecordLog)) (gated : gate (stall [requirements]) call = .check echo req)
    (named : call.tool = "echo") : ∃ labels server' world' made,
      Machine.run (deployStep facilitator) { facilitator := server, world, calls } labels =
        some { facilitator := server', world := world', calls := calls ++ [made] } ∧
      made.request = call ∧ Served facilitator server req server' ∧
      ((verifyEnvelope facilitator server.clock server.cache req.withoutNulls).1 = .ok () →
        made.runs = [("echo", call.args)]) ∧
      (∀ error, (verifyEnvelope facilitator server.clock server.cache req.withoutNulls).1 = .error error →
        made.runs = []) ∧
      ∀ start, ∀ label ∈ labels, label.WithinTtl facilitator start := by
  obtain ⟨labels, server', made, called, asks, _, runs, serves, within⟩ :=
    run_call facilitator { facilitator := server, world, calls } (stall [requirements]) call
  refine ⟨labels, server', _, made, called, asks, serves _ _ gated, fun accepted => ?_, fun error refused => ?_,
    within⟩
  · rw [runs, echo_runs server world gated named accepted]
    rfl
  · rw [runs, echo_refused server world gated refused]
    rfl

end Echo

/-- The nonce of another payment is fresh when the first is stored, and then both are known. -/
theorem another_accepted (records : Records authorization 1100 ({} : RecordLog) cache) :
    (verifyEnvelope facilitator 1100 cache another).1 = .ok () ∧
      (verifyEnvelope facilitator 1100 (verifyEnvelope facilitator 1100 cache another).2 original).1 =
        .error (.nonceReplayed "3") := by
  have window : checkTimeWindow facilitator 1100 (payment strangers).authorization = .ok () :=
    in_window rfl rfl rfl 1100 (by decide) (by decide)
  have apart : replayKey authorization ≠ replayKey (payment strangers).authorization :=
    fun same => absurd (replayKey_inj.mp same) (by decide)
  have fresh : ¬ Consumed facilitator 1100 cache (payment strangers).authorization := by
    rintro ⟨time, found, _⟩
    rw [records, if_neg (Ne.symm apart)] at found
    cases found
  have records' := another_honest.records rfl window fresh
  refine ⟨(another_honest.accepted_iff rfl).mpr ⟨window, fresh⟩, ?_⟩
  rw [original_honest.replayed rfl (original_window 1100 (by decide) (by decide))]
  · rfl
  · refine remembered_iff.mpr ⟨1100, ?_, Nat.le_add_right _ _⟩
    exact (records' _).trans ((if_neg apart).trans ((records _).trans (if_pos rfl)))

/-- A payment pays for one run of the tool, and one with another nonce for another. -/
theorem runs_are_paid_once_echo : ∃ labels final,
    Machine.run (deployStep facilitator) deployed labels = some final ∧
      final.calls.map ToolCall.request = [paidCall, anotherCall, paidCall] ∧
      final.calls.map ToolCall.runs = [[("echo", .null)], [("echo", .null)], []] ∧
      PaidOnce facilitator final := by
  have gated : gate (stall [requirements]) paidCall = .check echo original := echo_gated rfl original_read rfl
  have gated' : gate (stall [requirements]) anotherCall = .check echo another := echo_gated rfl another_read rfl
  obtain ⟨labels, one, world, first, called, asks, served, runs, _, within⟩ := echo_called idle {} [] gated rfl
  obtain ⟨labels', two, world', second, called', asks', served', runs', _, within'⟩ :=
    echo_called one world [first] gated' rfl
  obtain ⟨labels'', three, world'', third, called'', asks'', _, _, runs'', within''⟩ :=
    echo_called two world' [first, second] gated rfl
  have time : one.clock = 1100 := served.clock
  have time' : two.clock = 1100 := served'.clock.trans time
  have stored : Records authorization 1100 ({} : RecordLog) one.cache := by
    rw [served.cache]
    exact original_recorded
  obtain ⟨accepted, replayed⟩ := another_accepted stored
  have known : two.cache = (verifyEnvelope facilitator 1100 one.cache another).2 := by
    rw [served'.cache, time]
    rfl
  rw [← time] at accepted
  rw [← known, ← time'] at replayed
  have reached : Machine.run (deployStep facilitator) deployed (labels ++ (labels' ++ labels'')) =
      some { facilitator := three, world := world'', calls := [first, second, third] } := by
    rw [Machine.run_append, deployed, called, Option.bind_some, List.nil_append, Machine.run_append, called',
      Option.bind_some]
    exact called''
  have recent : ∀ label ∈ labels ++ (labels' ++ labels''),
      label.WithinTtl facilitator deployed.facilitator.clock :=
    List.forall_mem_append.mpr ⟨within _, List.forall_mem_append.mpr ⟨within' _, within'' _⟩⟩
  refine ⟨_, _, reached, ?_, ?_, runs_are_paid_once deployed_initial recent reached⟩
  · simp only [List.map_cons, List.map_nil, asks, asks', asks'']
  · simp only [List.map_cons, List.map_nil, runs original_accepted, runs' accepted, runs'' _ replayed]
    rfl

end Transparent

end X402Nockchain.Mcp
