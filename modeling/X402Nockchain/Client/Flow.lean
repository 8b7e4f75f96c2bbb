import X402Nockchain.Client.Fetch
import X402Nockchain.Facilitator.VerifyCalls

/-! The 402 flow of a client, a resource server and their facilitator. Messages are
delivered in any order, and the facilitator serves others in between. -/

namespace X402Nockchain.Client

open Foundation Foundation.Serde X402Types Crypto Facilitator

variable {Chain Cache : Type}

/-- Who asks `/verify`. -/
inductive Party where
  | client
  | resourceServer
  deriving DecidableEq

inductive Message where
  | get (paymentHeader : Option String)
  | response (response : Response)
  | verify (asker : Party) (req : VerifyRequest)
  | verdict (asker : Party) (resp : VerifyResponse)

/-- A `/verify` request of a party: the call that serves it, and the answer. -/
structure Exchange where
  asker : Party
  index : Nat
  answer : Option VerifyResponse := none

structure Parties (Chain : Type) where
  facilitator : AppState Chain
  server : ResourceServer
  fetch : Fetch

structure Flow (Chain Cache : Type) where
  facilitator : Server Chain Cache
  client : ClientPhase := .start
  wire : List Message := []
  exchanges : List Exchange := []

namespace Flow

def send (flow : Flow Chain Cache) (message : Message) : Flow Chain Cache :=
  { flow with wire := flow.wire ++ [message] }

/-- The flow as `fetch_with_payment` finds it. The cache may hold anything. -/
structure Initial (flow : Flow Chain Cache) : Prop where
  idle : flow.facilitator.Idle
  client : flow.client = .start
  wire : flow.wire = []
  exchanges : flow.exchanges = []

end Flow

inductive FlowLabel where
  | fetch
  /-- The message at `index` arrives. -/
  | deliver (index : Nat)
  /-- The facilitator goes on with a call, or serves somebody else. -/
  | facilitator (label : Label)
  /-- A finished call is answered. -/
  | answer (index : Nat)

section Machine

variable [Vesl] [ReplayCache Cache] [JsonText] [Base64]

namespace Parties

/-- What the receiver of a message does. -/
def receive (parties : Parties Chain) (flow : Flow Chain Cache) : Message → Option (Flow Chain Cache)
  | .get paymentHeader =>
    match parties.server.receive paymentHeader with
    | .respond response => some (flow.send (.response response))
    | .check req => some (flow.send (.verify .resourceServer req))
  | .response response =>
    match flow.client with
    | .asking =>
      match parties.fetch.prepare response.withoutNulls with
      | .error e => some { flow with client := .finished none (.error e) }
      | .ok req => some (Flow.send { flow with client := .verifying req } (.verify .client req))
    | .retrying req => some { flow with client := .finished (some req) (.ok response) }
    | _ => none
  | .verify asker req =>
    (step parties.facilitator flow.facilitator (.arrive req.withoutNulls)).map fun facilitator => { flow with
      facilitator
      exchanges := flow.exchanges ++ [{ asker, index := flow.facilitator.calls.length }] }
  | .verdict .client resp =>
    match flow.client with
    | .verifying req =>
      if resp.valid then
        some (Flow.send { flow with client := .retrying req }
          (.get (some (encodePaymentSignatureHeader req.payload))))
      else some { flow with client := .finished (some req) (.error (.rejected resp.error)) }
    | _ => none
  | .verdict .resourceServer resp => some (flow.send (.response (parties.server.conclude resp)))

def flowStep (parties : Parties Chain) : Machine (Flow Chain Cache) FlowLabel
  | flow, .fetch =>
    match flow.client with
    | .start => some (Flow.send { flow with client := .asking } (.get none))
    | _ => none
  | flow, .deliver index => do
    let message ← flow.wire[index]?
    parties.receive { flow with wire := flow.wire.eraseIdx index } message
  | flow, .facilitator label =>
    (step parties.facilitator flow.facilitator label).map fun facilitator => { flow with facilitator }
  | flow, .answer index => do
    let exchange ← flow.exchanges[index]?
    let call ← flow.facilitator.calls[exchange.index]?
    let outcome ← call.outcome
    if exchange.answer.isNone then
      let exchanges := flow.exchanges.set index { exchange with answer := some (verifyResponse outcome) }
      return Flow.send { flow with exchanges } (.verdict exchange.asker (verifyResponse outcome))
    else none

end Parties

end Machine

/-! ### What is behind a message -/

/-- A `/verify` request of `asker` was answered as valid. -/
def AnsweredOk (flow : Flow Chain Cache) (asker : Party) : Prop :=
  ∃ exchange ∈ flow.exchanges, exchange.asker = asker ∧
    (∃ resp, exchange.answer = some resp ∧ resp.valid = true) ∧
    ∃ call, flow.facilitator.calls[exchange.index]? = some call ∧ call.outcome = some (.ok ())

def JustifiedResponse (parties : Parties Chain) (flow : Flow Chain Cache) : Response → Prop
  | .paymentRequired body => body = parties.server.offer
  | .served _ => AnsweredOk flow .resourceServer
  | .misconfigured => parties.server.offer.accepts.head? = none

def Justified [JsonText] [Base64] (parties : Parties Chain) (flow : Flow Chain Cache) : Message → Prop
  | .get none => True
  | .get (some header) => AnsweredOk flow .client ∧ ∃ req, flow.client.request = some req ∧
      header = encodePaymentSignatureHeader req.payload
  | .response response => JustifiedResponse parties flow response
  | .verify asker req => flow.client.request = some req.withoutNulls ∧
      (asker = .resourceServer → AnsweredOk flow .client)
  | .verdict asker resp => resp.valid = true → AnsweredOk flow asker

/-- Both parties ask about the same request, the server after the client's was accepted. -/
structure JustifiedExchange (flow : Flow Chain Cache) (exchange : Exchange) : Prop where
  request : ∃ call, flow.facilitator.calls[exchange.index]? = some call ∧
    flow.client.request = some call.request
  precedes : exchange.asker = .resourceServer → ∃ other ∈ flow.exchanges, other.asker = .client ∧
    (∃ resp, other.answer = some resp ∧ resp.valid = true) ∧
    Precedes flow.facilitator other.index exchange.index
  answered : ∀ resp, exchange.answer = some resp →
    ∃ call outcome, flow.facilitator.calls[exchange.index]? = some call ∧
      call.outcome = some outcome ∧ resp = verifyResponse outcome

/-- What no step of the flow takes back. -/
structure Extends (flow next : Flow Chain Cache) : Prop where
  calls : ∀ (i : Nat) (call : Call Chain), flow.facilitator.calls[i]? = some call →
    ∃ call' : Call Chain, next.facilitator.calls[i]? = some call' ∧ call'.request = call.request ∧
      (call.outcome ≠ none → call' = call)
  precedes : ∀ i j, Precedes flow.facilitator i j → Precedes next.facilitator i j
  request : ∀ req, flow.client.request = some req → next.client.request = some req
  exchanges : ∀ exchange ∈ flow.exchanges, ∃ later ∈ next.exchanges, later.asker = exchange.asker ∧
    later.index = exchange.index ∧ ∀ resp, exchange.answer = some resp → later.answer = some resp

section Extension

variable {parties : Parties Chain} {flow next : Flow Chain Cache}

theorem AnsweredOk.later (answered : AnsweredOk flow asker) (extends' : Extends flow next) :
    AnsweredOk next asker := by
  obtain ⟨exchange, member, asked, ⟨resp, answer, valid⟩, call, found, finished⟩ := answered
  obtain ⟨later, member', asker', index, kept⟩ := extends'.exchanges exchange member
  obtain ⟨call', found', _, same⟩ := extends'.calls _ call found
  rw [same (by simp [finished])] at found'
  exact ⟨later, member', asker'.trans asked, ⟨resp, kept resp answer, valid⟩, call,
    by rw [index]; exact found', finished⟩

theorem JustifiedResponse.later (justified : JustifiedResponse parties flow response)
    (extends' : Extends flow next) : JustifiedResponse parties next response := by
  cases response with
  | paymentRequired body => exact justified
  | served resource => exact AnsweredOk.later justified extends'
  | misconfigured => exact justified

theorem Justified.later [JsonText] [Base64] (justified : Justified parties flow message)
    (extends' : Extends flow next) : Justified parties next message := by
  match message, justified with
  | .get none, _ => trivial
  | .get (some header), ⟨answered, req, asked, encoded⟩ =>
    exact ⟨answered.later extends', req, extends'.request req asked, encoded⟩
  | .response response, justified => exact JustifiedResponse.later justified extends'
  | .verify asker req, ⟨asked, answered⟩ =>
    exact ⟨extends'.request _ asked, fun server => (answered server).later extends'⟩
  | .verdict asker resp, answered => exact fun valid => (answered valid).later extends'

theorem JustifiedExchange.later (justified : JustifiedExchange flow exchange)
    (extends' : Extends flow next) : JustifiedExchange next exchange where
  request := by
    obtain ⟨call, found, asked⟩ := justified.request
    obtain ⟨call', found', request, _⟩ := extends'.calls _ call found
    exact ⟨call', found', by rw [request]; exact extends'.request _ asked⟩
  precedes := by
    intro server
    obtain ⟨other, member, asked, ⟨resp, answer, valid⟩, precedes⟩ := justified.precedes server
    obtain ⟨later, member', asker', index, kept⟩ := extends'.exchanges other member
    exact ⟨later, member', asker'.trans asked, ⟨resp, kept resp answer, valid⟩,
      by rw [index]; exact extends'.precedes _ _ precedes⟩
  answered := by
    intro resp answer
    obtain ⟨call, outcome, found, finished, same⟩ := justified.answered resp answer
    obtain ⟨call', found', _, kept⟩ := extends'.calls _ call found
    rw [kept (by simp [finished])] at found'
    exact ⟨call, outcome, found', finished, same⟩

end Extension

/-! ### The invariant of the flow -/

section Tracking

variable [Vesl] [LawfulReplayCache Cache] [JsonText] [Base64]

structure Tracked (parties : Parties Chain) (flow : Flow Chain Cache) : Prop where
  valid : Valid parties.facilitator flow.facilitator
  prepared : ∀ req, flow.client.request = some req →
    parties.fetch.prepare (.paymentRequired parties.server.offer.withoutNulls) = .ok req
  wire : ∀ message ∈ flow.wire, Justified parties flow message
  exchanges : ∀ exchange ∈ flow.exchanges, JustifiedExchange flow exchange
  fetched : ∀ req response, flow.client = .finished req (.ok response) →
    req ≠ none ∧ JustifiedResponse parties flow response

/-- The header that the client sends is read back by the resource server. -/
def ReadsBack (parties : Parties Chain) : Prop :=
  ∀ req, parties.fetch.prepare (.paymentRequired parties.server.offer.withoutNulls) = .ok req →
    JsonText.parse (JsonText.print (toValue req.payload)) = some (toValue req.payload)

variable {parties : Parties Chain} {flow next : Flow Chain Cache} {message : Message}

omit [JsonText] [Base64] [Vesl] [LawfulReplayCache Cache] in
/-- The client pays for the first option of the offer, as it reads it. -/
theorem requirements_of_prepared {req : VerifyRequest}
    (prepared : parties.fetch.prepare (.paymentRequired parties.server.offer.withoutNulls) = .ok req) :
    ∃ requirements, parties.server.offer.accepts.head? = some requirements ∧
      req.requirements = requirements.withoutNulls := by
  obtain ⟨envelope, challenged, offered, _⟩ := Fetch.prepare_ok_iff.mp prepared
  obtain rfl := Response.paymentRequired.inj challenged
  rw [PaymentRequired.withoutNulls, List.head?_map, Option.map_eq_some_iff] at offered
  obtain ⟨requirements, offered, read⟩ := offered
  exact ⟨requirements, offered, read.symm⟩

omit [JsonText] [Base64] [Vesl] [LawfulReplayCache Cache] in
/-- The facilitator reads the request that the client has prepared. -/
theorem withoutNulls_of_prepared {req : VerifyRequest}
    (prepared : parties.fetch.prepare (.paymentRequired parties.server.offer.withoutNulls) = .ok req) :
    req.withoutNulls = req := by
  obtain ⟨requirements, _, read⟩ := requirements_of_prepared prepared
  rw [VerifyRequest.withoutNulls, read, PaymentRequirements.withoutNulls_withoutNulls, ← read]

omit [JsonText] [Base64] [Vesl] [LawfulReplayCache Cache] in
/-- Neither a message nor a client that keeps its request takes anything back. -/
theorem extends_client {client : ClientPhase} (wire : List Message)
    (keeps : ∀ req, flow.client.request = some req → client.request = some req) :
    Extends flow { flow with client, wire } where
  calls _ call found := ⟨call, found, rfl, fun _ => rfl⟩
  precedes _ _ := id
  request := keeps
  exchanges exchange member := ⟨exchange, member, rfl, rfl, fun _ => id⟩

/-- A step has to justify only what it adds. -/
theorem Tracked.later (tracked : Tracked parties flow) (extends' : Extends flow next)
    (valid : Valid parties.facilitator next.facilitator)
    (prepared : ∀ req, next.client.request = some req →
      parties.fetch.prepare (.paymentRequired parties.server.offer.withoutNulls) = .ok req)
    (wire : ∀ message ∈ next.wire, message ∈ flow.wire ∨ Justified parties next message)
    (exchanges : ∀ exchange ∈ next.exchanges,
      exchange ∈ flow.exchanges ∨ JustifiedExchange next exchange)
    (fetched : ∀ req response, next.client = .finished req (.ok response) →
      next.client = flow.client ∨ req ≠ none ∧ JustifiedResponse parties next response) :
    Tracked parties next where
  valid := valid
  prepared := prepared
  wire message member := (wire message member).elim
    (fun old => (tracked.wire message old).later extends') id
  exchanges exchange member := (exchanges exchange member).elim
    (fun old => (tracked.exchanges exchange old).later extends') id
  fetched := by
    intro req response same
    obtain unchanged | justified := fetched req response same
    · obtain ⟨asked, justified⟩ := tracked.fetched req response (unchanged.symm.trans same)
      exact ⟨asked, justified.later extends'⟩
    · exact justified

theorem tracked_send (tracked : Tracked parties flow) (justified : Justified parties flow message) :
    Tracked parties (flow.send message) := by
  have extends' : Extends flow (flow.send message) := extends_client _ fun _ => id
  refine tracked.later extends' tracked.valid tracked.prepared ?_ (fun _ => .inl) fun _ _ _ => .inl rfl
  intro other member
  obtain old | new := List.mem_append.mp member
  · exact .inl old
  · obtain rfl := List.mem_singleton.mp new
    exact .inr (justified.later extends')

theorem tracked_client {client : ClientPhase} (tracked : Tracked parties flow)
    (keeps : ∀ req, flow.client.request = some req → client.request = some req)
    (prepared : ∀ req, client.request = some req →
      parties.fetch.prepare (.paymentRequired parties.server.offer.withoutNulls) = .ok req)
    (fetched : ∀ req response, client = .finished req (.ok response) →
      req ≠ none ∧ JustifiedResponse parties flow response) :
    Tracked parties { flow with client } := by
  have extends' : Extends flow { flow with client } := extends_client _ keeps
  refine tracked.later extends' tracked.valid prepared (fun _ => .inl) (fun _ => .inl) ?_
  intro req response same
  obtain ⟨asked, justified⟩ := fetched req response same
  exact .inr ⟨asked, justified.later extends'⟩

/-- The facilitator takes a step, and so serves the `new` exchanges. -/
theorem tracked_step {facilitator : Server Chain Cache} (tracked : Tracked parties flow)
    (taken : step parties.facilitator flow.facilitator label = some facilitator) (new : List Exchange)
    (justified : ∀ exchange ∈ new, JustifiedExchange
      { flow with facilitator, exchanges := flow.exchanges ++ new } exchange) :
    Tracked parties { flow with facilitator, exchanges := flow.exchanges ++ new } := by
  have extends' : Extends flow { flow with facilitator, exchanges := flow.exchanges ++ new } := {
    calls := fun _ _ found => calls_step taken found
    precedes := fun _ _ => precedes_step tracked.valid taken
    request := fun _ => id
    exchanges := fun exchange member =>
      ⟨exchange, List.mem_append_left _ member, rfl, rfl, fun _ => id⟩ }
  refine tracked.later extends' (valid_step tracked.valid taken) tracked.prepared (fun _ => .inl) ?_
    fun _ _ _ => .inl rfl
  exact fun exchange member => (List.mem_append.mp member).imp id (justified exchange)

theorem tracked_get [LawfulBase64] (readsBack : ReadsBack parties) (tracked : Tracked parties flow)
    (justified : Justified parties flow (.get header))
    (taken : parties.receive flow (.get header) = some next) : Tracked parties next := by
  cases received : parties.server.receive header with
  | respond response =>
    simp only [Parties.receive, received, Option.some.injEq] at taken
    obtain rfl := taken
    obtain rfl | ⟨rfl, empty⟩ := ResourceServer.receive_respond received
    · exact tracked_send tracked rfl
    · exact tracked_send tracked empty
  | check req =>
    simp only [Parties.receive, received, Option.some.injEq] at taken
    obtain rfl := taken
    obtain ⟨offered, text, rfl, decoded⟩ := ResourceServer.receive_check received
    obtain ⟨answered, req', asked, rfl⟩ := justified
    have prepared := tracked.prepared req' asked
    rw [decodePaymentHeader_encode (readsBack req' prepared)] at decoded
    obtain ⟨requirements, offered', same⟩ := requirements_of_prepared prepared
    -- the request of the server is read as that of the client
    have read : req.withoutNulls = req' := by
      obtain ⟨payload, requirements⟩ := req
      obtain ⟨payload', requirements'⟩ := req'
      obtain rfl : payload' = payload := Option.some.inj decoded
      obtain rfl := Option.some.inj (offered'.symm.trans offered)
      obtain rfl := same
      rfl
    exact tracked_send tracked ⟨by rw [read]; exact asked, fun _ => answered⟩

theorem tracked_response (tracked : Tracked parties flow)
    (justified : Justified parties flow (.response response))
    (taken : parties.receive flow (.response response) = some next) : Tracked parties next := by
  simp only [Parties.receive] at taken
  split at taken
  · rename_i asking
    have nothing : ∀ client : ClientPhase, ∀ req, flow.client.request = some req →
        client.request = some req := by simp [asking, ClientPhase.request]
    split at taken
    · obtain rfl := Option.some.inj taken
      apply tracked_client tracked (nothing _)
      · simp [ClientPhase.request]
      · simp
    · rename_i req prepared
      obtain rfl := Option.some.inj taken
      have challenge : response.withoutNulls = .paymentRequired parties.server.offer.withoutNulls := by
        cases response with
        | paymentRequired body =>
          have offer : body = parties.server.offer := justified
          rw [offer, Response.withoutNulls]
        | served | misconfigured =>
          obtain ⟨_, challenged, _⟩ := Fetch.prepare_ok_iff.mp prepared
          cases challenged
      rw [challenge] at prepared
      have read := withoutNulls_of_prepared prepared
      refine tracked_send (tracked_client tracked (nothing _) ?_ ?_)
        ⟨congrArg some read.symm, fun server => nomatch server⟩
      · intro req' same
        obtain rfl := Option.some.inj same
        exact prepared
      · simp
  · rename_i req retrying
    obtain rfl := Option.some.inj taken
    apply tracked_client tracked (by simp [retrying, ClientPhase.request])
    · intro req' same
      exact tracked.prepared req' (by rw [retrying]; exact same)
    · rintro req' response' same
      obtain ⟨rfl, answer⟩ := ClientPhase.finished.inj same
      obtain rfl := Except.ok.inj answer
      exact ⟨by simp, justified⟩
  · cases taken

theorem tracked_verify (tracked : Tracked parties flow)
    (justified : Justified parties flow (.verify asker req))
    (taken : parties.receive flow (.verify asker req) = some next) : Tracked parties next := by
  simp only [Parties.receive, Option.map_eq_some_iff] at taken
  obtain ⟨facilitator, arrived, rfl⟩ := taken
  apply tracked_step tracked arrived _
  intro exchange member
  obtain rfl := List.mem_singleton.mp member
  obtain ⟨asked, answered⟩ := justified
  refine ⟨⟨⟨req.withoutNulls, .arrived⟩, ?_, asked⟩, fun server => ?_, fun resp answer => by cases answer⟩
  · obtain rfl := Option.some.inj arrived
    simp
  · obtain ⟨other, member, client, valid, accepted⟩ := answered server
    exact ⟨other, List.mem_append_left _ member, client, valid, precedes_arrive arrived accepted⟩

theorem tracked_verdict (tracked : Tracked parties flow)
    (justified : Justified parties flow (.verdict asker resp))
    (taken : parties.receive flow (.verdict asker resp) = some next) : Tracked parties next := by
  cases asker with
  | client =>
    simp only [Parties.receive] at taken
    split at taken
    · rename_i req verifying
      have keeps : ∀ client : ClientPhase, client.request = some req → ∀ req',
          flow.client.request = some req' → client.request = some req' := by
        intro client same req' asked
        rw [verifying] at asked
        obtain rfl := Option.some.inj asked
        exact same
      have prepared : ∀ client : ClientPhase, client.request = some req → ∀ req',
          client.request = some req' →
          parties.fetch.prepare (.paymentRequired parties.server.offer.withoutNulls) = .ok req' := by
        intro client same req' asked
        obtain rfl := Option.some.inj (same.symm.trans asked)
        exact tracked.prepared req (by rw [verifying]; rfl)
      by_cases valid : resp.valid = true
      · rw [if_pos valid] at taken
        obtain rfl := Option.some.inj taken
        have moved : Tracked parties { flow with client := .retrying req } :=
          tracked_client tracked (keeps _ rfl) (prepared _ rfl) (by simp)
        exact tracked_send moved
          ⟨(justified valid).later (extends_client _ (keeps _ rfl)), req, rfl, rfl⟩
      · rw [if_neg valid] at taken
        obtain rfl := Option.some.inj taken
        exact tracked_client tracked (keeps _ rfl) (prepared _ rfl) (by simp)
    · cases taken
  | resourceServer =>
    obtain rfl := Option.some.inj taken
    apply tracked_send tracked
    rw [ResourceServer.conclude_eq]
    by_cases valid : resp.valid = true
    · rw [if_pos valid]
      exact justified valid
    · rw [if_neg valid]
      rfl

theorem tracked_receive [LawfulBase64] (readsBack : ReadsBack parties) (tracked : Tracked parties flow)
    (justified : Justified parties flow message) (taken : parties.receive flow message = some next) :
    Tracked parties next := by
  cases message with
  | get paymentHeader => exact tracked_get readsBack tracked justified taken
  | response response => exact tracked_response tracked justified taken
  | verify asker req => exact tracked_verify tracked justified taken
  | verdict asker resp => exact tracked_verdict tracked justified taken

/-- A finished call answers an exchange that has no answer yet. -/
theorem tracked_answer {index : Nat} {exchange : Exchange} {call : Call Chain}
    {outcome : Except Facilitator.VerifyError Unit} (tracked : Tracked parties flow)
    (here : flow.exchanges[index]? = some exchange) (unanswered : exchange.answer = none)
    (found : flow.facilitator.calls[exchange.index]? = some call) (finished : call.outcome = some outcome) :
    Tracked parties (Flow.send { flow with
      exchanges := flow.exchanges.set index { exchange with answer := some (verifyResponse outcome) } }
      (.verdict exchange.asker (verifyResponse outcome))) := by
  obtain ⟨bound, _⟩ := List.getElem?_eq_some_iff.mp here
  let answered : Exchange := { exchange with answer := some (verifyResponse outcome) }
  have member' : answered ∈ flow.exchanges.set index answered :=
    List.mem_of_getElem? (List.getElem?_set_self bound)
  have extends' : Extends flow { flow with exchanges := flow.exchanges.set index answered } := {
    calls := fun _ call found => ⟨call, found, rfl, fun _ => rfl⟩
    precedes := fun _ _ => id
    request := fun _ => id
    exchanges := by
      intro other member
      obtain ⟨i, there⟩ := List.getElem?_of_mem member
      by_cases same : index = i
      · subst same
        obtain rfl := Option.some.inj (here.symm.trans there)
        exact ⟨answered, member', rfl, rfl, fun resp answer => by simp [unanswered] at answer⟩
      · have kept : (flow.exchanges.set index answered)[i]? = some other := by
          rw [List.getElem?_set_ne same]
          exact there
        exact ⟨other, List.mem_of_getElem? kept, rfl, rfl, fun _ => id⟩ }
  have justified := (tracked.exchanges exchange (List.mem_of_getElem? here)).later extends'
  refine tracked_send (tracked.later extends' tracked.valid tracked.prepared (fun _ => .inl) ?_
    fun _ _ _ => .inl rfl) fun valid => ?_
  · intro other member
    obtain old | rfl := List.mem_or_eq_of_mem_set member
    · exact .inl old
    · refine .inr ⟨justified.request, justified.precedes, fun resp answer => ?_⟩
      exact ⟨call, outcome, found, finished, (Option.some.inj answer).symm⟩
  · obtain rfl := verifyResponse_valid.mp valid
    exact ⟨answered, member', rfl, ⟨_, rfl, rfl⟩, call, found, finished⟩

theorem tracked_flowStep [LawfulBase64] (readsBack : ReadsBack parties) (tracked : Tracked parties flow)
    (taken : parties.flowStep flow label = some next) : Tracked parties next := by
  cases label with
  | fetch =>
    simp only [Parties.flowStep] at taken
    split at taken
    · rename_i start
      obtain rfl := Option.some.inj taken
      refine tracked_send (tracked_client tracked ?_ ?_ ?_) trivial
      · simp [start, ClientPhase.request]
      · simp [ClientPhase.request]
      · simp
    · cases taken
  | deliver index =>
    obtain ⟨message, found, received⟩ := Option.bind_eq_some_iff.mp taken
    have extends' : Extends flow { flow with wire := flow.wire.eraseIdx index } :=
      extends_client _ fun _ => id
    have taken : Tracked parties { flow with wire := flow.wire.eraseIdx index } :=
      tracked.later extends' tracked.valid tracked.prepared
        (fun _ member => .inl ((List.eraseIdx_sublist _ _).subset member)) (fun _ => .inl)
        fun _ _ _ => .inl rfl
    have justified := (tracked.wire message (List.mem_of_getElem? found)).later extends'
    exact tracked_receive readsBack taken justified received
  | facilitator label =>
    obtain ⟨facilitator, stepped, rfl⟩ := Option.map_eq_some_iff.mp taken
    have kept := tracked_step tracked stepped [] (by simp)
    simpa using kept
  | answer index =>
    simp only [Parties.flowStep, Option.bind_eq_bind, Option.bind_eq_some_iff] at taken
    obtain ⟨exchange, here, call, found, outcome, finished, answered⟩ := taken
    by_cases unanswered : exchange.answer.isNone = true
    · rw [if_pos unanswered] at answered
      obtain rfl := Option.some.inj answered
      exact tracked_answer tracked here (Option.isNone_iff_eq_none.mp unanswered) found finished
    · rw [if_neg unanswered] at answered
      cases answered

theorem tracked_of_initial (initial : flow.Initial) : Tracked parties flow := by
  refine ⟨valid_of_idle initial.idle, ?_, ?_, ?_, ?_⟩
  · simp [initial.client, ClientPhase.request]
  · simp [initial.wire]
  · simp [initial.exchanges]
  · simp [initial.client]

/-- The invariant holds after every run, in whatever order messages arrive. -/
theorem tracked_run [LawfulBase64] (readsBack : ReadsBack parties) (initial : flow.Initial)
    (reached : Machine.run parties.flowStep flow labels = some next) : Tracked parties next :=
  Machine.invariant (fun _ tracked taken => tracked_flowStep readsBack tracked taken)
    (Machine.within_of_labels (fun _ _ => trivial) _ : Machine.Within _ (fun _ _ => True) _ _)
    (tracked_of_initial initial) reached

end Tracking

end X402Nockchain.Client
