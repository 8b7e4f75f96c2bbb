import X402Nockchain.Client.SecondChallenge

/-! `PolicyEnforcedSigner`: a policy of the caller stands before the signature, and so
before everything that the 402 flow does with a payment. -/

namespace X402Nockchain.Client

open Foundation Foundation.Serde X402Types Crypto Facilitator

structure PolicyDenied where
  reason : String
  deriving DecidableEq

def PolicyDenied.display (denied : PolicyDenied) : String := s!"policy denied: {denied.reason}"

abbrev PolicyFn := PaymentRequirements → Except PolicyDenied Unit

/-- The inner signer is asked only for requirements that the policy allows. -/
def policyEnforcedSigner (inner : Signer) (policy : PolicyFn) : Signer where
  fromIdentifier := inner.fromIdentifier
  signAuthorization auth requirements := do
    (policy requirements).mapError PolicyDenied.display
    inner.signAuthorization auth requirements

/-- Policies around a signer, the outermost first. -/
def enforced (inner : Signer) : List PolicyFn → Signer
  | [] => inner
  | policy :: rest => policyEnforcedSigner (enforced inner rest) policy

section Signing

variable {inner : Signer} {policies : List PolicyFn} {requirements : PaymentRequirements}

theorem enforced_fromIdentifier (inner : Signer) (policies : List PolicyFn) :
    (enforced inner policies).fromIdentifier = inner.fromIdentifier := by
  induction policies with
  | nil => rfl
  | cons policy rest ih => exact ih

/-- Requirements that every policy allows are signed as by the inner signer. -/
theorem enforced_allowed (allowed : ∀ policy ∈ policies, policy requirements = .ok ()) (auth : Authorization) :
    (enforced inner policies).signAuthorization auth requirements =
      inner.signAuthorization auth requirements := by
  induction policies with
  | nil => rfl
  | cons policy rest ih =>
    rw [List.forall_mem_cons] at allowed
    simp only [enforced, policyEnforcedSigner, allowed.1, Outcome.mapError_of_ok, Outcome.ok_bind]
    exact ih allowed.2

/-- The first policy that denies them gives the reason. -/
theorem enforced_denied (passed : ∀ policy ∈ before, policy requirements = .ok ())
    (refused : policy requirements = .error denied) (auth : Authorization) :
    (enforced inner (before ++ policy :: after)).signAuthorization auth requirements =
      .error denied.display := by
  induction before with
  | nil =>
    simp only [List.nil_append, enforced, policyEnforcedSigner, refused]
    rfl
  | cons earlier rest ih =>
    rw [List.forall_mem_cons] at passed
    simp only [List.cons_append, enforced, policyEnforcedSigner, passed.1, Outcome.mapError_of_ok,
      Outcome.ok_bind]
    exact ih passed.2

end Signing

section Fetching

variable {fetch : Fetch} {envelope : PaymentRequired} {requirements : PaymentRequirements} {inner : Signer}

/-- The same fetch with another signer. -/
def Fetch.withSigner (fetch : Fetch) (signer : Signer) : Fetch := { fetch with signer }

theorem prepare_allowed {policies : List PolicyFn} (signs : fetch.signer = enforced inner policies)
    (offered : envelope.accepts.head? = some requirements)
    (allowed : ∀ policy ∈ policies, policy requirements = .ok ()) :
    fetch.prepare (.paymentRequired envelope) = (fetch.withSigner inner).prepare (.paymentRequired envelope) := by
  simp only [Fetch.prepare, getPaymentRequired, Outcome.ok_bind, offered, Outcome.okOr_some, Fetch.withSigner,
    buildExactNockchainPayload, signs, enforced_fromIdentifier, enforced_allowed allowed]

theorem prepare_denied (signs : fetch.signer = enforced inner (before ++ policy :: after))
    (offered : envelope.accepts.head? = some requirements)
    (passed : ∀ policy ∈ before, policy requirements = .ok ())
    (refused : policy requirements = .error denied) :
    fetch.prepare (.paymentRequired envelope) = .error (.build denied.display) := by
  simp only [Fetch.prepare, getPaymentRequired, Outcome.ok_bind, offered, Outcome.okOr_some,
    buildExactNockchainPayload, signs, enforced_denied passed refused]
  rfl

end Fetching

/-! ### The flow under a policy -/

section Flows

variable {Chain Cache : Type} [Vesl] [ReplayCache Cache] [JsonText] [Base64] {parties : Parties Chain}
  {flow next : Flow Chain Cache} {inner : Signer} {requirements : PaymentRequirements}

/-- The same parties with another signer. -/
def Parties.withSigner (parties : Parties Chain) (signer : Signer) : Parties Chain :=
  { parties with fetch := parties.fetch.withSigner signer }

/-- A challenge that is under way is the server's offer. -/
def Challenged (parties : Parties Chain) (flow : Flow Chain Cache) : Prop :=
  ∀ body, .response (.paymentRequired body) ∈ flow.wire → body = parties.server.offer

omit [Vesl] [ReplayCache Cache] [JsonText] [Base64] in
theorem challenged_send {message : Message} (challenged : Challenged parties flow)
    (offers : ∀ body, message = .response (.paymentRequired body) → body = parties.server.offer) :
    Challenged parties (flow.send message) := by
  intro body member
  obtain old | new := List.mem_append.mp member
  · exact challenged body old
  · exact offers body (List.mem_singleton.mp new).symm

theorem challenged_receive (challenged : Challenged parties flow) {message : Message}
    (received : parties.receive flow message = some next) : Challenged parties next := by
  cases message with
  | get paymentHeader =>
    simp only [Parties.receive] at received
    split at received
    · rename_i response responds
      obtain rfl := Option.some.inj received
      refine challenged_send challenged fun body same => ?_
      obtain rfl := Message.response.inj same
      obtain offer | ⟨misconfigured, _⟩ := ResourceServer.receive_respond responds
      · exact Response.paymentRequired.inj offer
      · cases misconfigured
    · obtain rfl := Option.some.inj received
      exact challenged_send challenged fun body same => by cases same
  | response response =>
    simp only [Parties.receive] at received
    split at received
    · split at received
      · obtain rfl := Option.some.inj received
        exact challenged
      · obtain rfl := Option.some.inj received
        exact challenged_send challenged fun body same => by cases same
    · obtain rfl := Option.some.inj received
      exact challenged
    · cases received
  | verify asker req =>
    simp only [Parties.receive, Option.map_eq_some_iff] at received
    obtain ⟨facilitator, _, rfl⟩ := received
    exact challenged
  | verdict asker resp =>
    cases asker with
    | client =>
      simp only [Parties.receive] at received
      split at received
      · split at received
        · obtain rfl := Option.some.inj received
          exact challenged_send challenged fun body same => by cases same
        · obtain rfl := Option.some.inj received
          exact challenged
      · cases received
    | resourceServer =>
      obtain rfl := Option.some.inj received
      refine challenged_send challenged fun body same => ?_
      rw [ResourceServer.conclude_eq] at same
      split at same
      · cases same
      · exact (Response.paymentRequired.inj (Message.response.inj same)).symm

theorem challenged_flowStep (challenged : Challenged parties flow)
    (taken : parties.flowStep flow label = some next) : Challenged parties next := by
  cases label with
  | fetch =>
    simp only [Parties.flowStep] at taken
    split at taken
    · obtain rfl := Option.some.inj taken
      exact challenged_send challenged fun body same => by cases same
    · cases taken
  | deliver index =>
    obtain ⟨message, _, received⟩ := Option.bind_eq_some_iff.mp taken
    refine challenged_receive ?_ received
    exact fun body member => challenged body ((List.eraseIdx_sublist _ _).subset member)
  | facilitator label =>
    obtain ⟨facilitator, _, rfl⟩ := Option.map_eq_some_iff.mp taken
    exact challenged
  | answer index =>
    simp only [Parties.flowStep, Option.bind_eq_bind, Option.bind_eq_some_iff] at taken
    obtain ⟨exchange, _, call, _, outcome, _, answered⟩ := taken
    split at answered
    · obtain rfl := Option.some.inj answered
      exact challenged_send challenged fun body same => by cases same
    · cases answered

/-- Policies that allow the offer change no step. -/
theorem flowStep_allowed {policies : List PolicyFn} (signs : parties.fetch.signer = enforced inner policies)
    (offered : parties.server.offer.withoutNulls.accepts.head? = some requirements)
    (allowed : ∀ policy ∈ policies, policy requirements = .ok ()) (challenged : Challenged parties flow) :
    parties.flowStep flow label = (Parties.withSigner parties inner).flowStep flow label := by
  have prepares : ∀ response, .response response ∈ flow.wire →
      parties.fetch.prepare response.withoutNulls =
        (parties.fetch.withSigner inner).prepare response.withoutNulls := by
    intro response member
    cases response with
    | paymentRequired body =>
      obtain rfl := challenged body member
      exact prepare_allowed signs offered allowed
    | served | misconfigured => rfl
  cases label with
  | fetch | facilitator | answer => rfl
  | deliver index =>
    simp only [Parties.flowStep, Option.bind_eq_bind]
    cases found : flow.wire[index]? with
    | none => rfl
    | some message =>
      cases message with
      | get | verify => rfl
      | verdict asker resp => cases asker <;> rfl
      | response response =>
        simp only [Option.bind_some, Parties.receive, prepares response (List.mem_of_getElem? found)]
        rfl

/-- Nothing of a payment has come out of the client. -/
structure Withheld (parties : Parties Chain) (denied : PolicyDenied) (flow : Flow Chain Cache) : Prop where
  wire : ∀ message ∈ flow.wire,
    message = .get none ∨ message = .response (.paymentRequired parties.server.offer)
  unasked : flow.exchanges = []
  client : flow.client = .start ∨ flow.client = .asking ∨
    flow.client = .finished none (.error (.build denied.display))

theorem withheld_flowStep (offered : parties.server.offer.withoutNulls.accepts.head? = some requirements)
    (refused : parties.fetch.prepare (.paymentRequired parties.server.offer.withoutNulls) =
      .error (.build denied.display))
    (withheld : Withheld parties denied flow) (taken : parties.flowStep flow label = some next) :
    Withheld parties denied next := by
  obtain ⟨wire, unasked, client⟩ := withheld
  obtain ⟨first, listed, _⟩ : ∃ first, parties.server.offer.accepts.head? = some first ∧
      first.withoutNulls = requirements := by
    rwa [PaymentRequired.withoutNulls, List.head?_map, Option.map_eq_some_iff] at offered
  cases label with
  | fetch =>
    simp only [Parties.flowStep] at taken
    split at taken
    · obtain rfl := Option.some.inj taken
      refine ⟨fun message member => ?_, unasked, .inr (.inl rfl)⟩
      obtain old | new := List.mem_append.mp member
      · exact wire message old
      · exact .inl (List.mem_singleton.mp new)
    · cases taken
  | deliver index =>
    obtain ⟨message, found, received⟩ := Option.bind_eq_some_iff.mp taken
    have left : ∀ other ∈ flow.wire.eraseIdx index,
        other = .get none ∨ other = .response (.paymentRequired parties.server.offer) :=
      fun other member => wire other ((List.eraseIdx_sublist _ _).subset member)
    obtain rfl | rfl := wire message (List.mem_of_getElem? found)
    · -- the server answers with its offer
      simp only [Parties.receive, ResourceServer.receive, listed, Option.bind_none] at received
      obtain rfl := Option.some.inj received
      refine ⟨fun message member => ?_, unasked, client⟩
      obtain old | new := List.mem_append.mp member
      · exact left message old
      · exact .inr (List.mem_singleton.mp new)
    · -- the client does not get beyond the signature
      obtain start | asking | finished := client
      · simp only [Parties.receive, start] at received
        cases received
      · simp only [Parties.receive, asking, Response.withoutNulls, refused] at received
        obtain rfl := Option.some.inj received
        exact ⟨left, unasked, .inr (.inr rfl)⟩
      · simp only [Parties.receive, finished] at received
        cases received
  | facilitator label =>
    obtain ⟨facilitator, _, rfl⟩ := Option.map_eq_some_iff.mp taken
    exact ⟨wire, unasked, client⟩
  | answer index =>
    simp only [Parties.flowStep, unasked] at taken
    cases taken

omit [Vesl] [ReplayCache Cache] [JsonText] [Base64] in
theorem withheld_of_initial (initial : flow.Initial) : Withheld parties denied flow where
  wire := by simp [initial.wire]
  unasked := initial.exchanges
  client := .inl initial.client

/-- Policies decide before the flow does. An offer that they allow is paid for exactly
as without them; of one that they deny nothing leaves the client, in whatever order
messages arrive: the facilitator is never asked, and the fetch can only end in the
reason of the first policy that denies it. -/
theorem policies_gate_flow {policies : List PolicyFn} (signs : parties.fetch.signer = enforced inner policies)
    (offered : parties.server.offer.withoutNulls.accepts.head? = some requirements) (initial : flow.Initial) :
    ((∀ policy ∈ policies, policy requirements = .ok ()) → ∀ labels,
      Machine.run parties.flowStep flow labels =
        Machine.run (Parties.withSigner parties inner).flowStep flow labels) ∧
    ∀ before policy after denied, policies = before ++ policy :: after →
      (∀ earlier ∈ before, earlier requirements = .ok ()) → policy requirements = .error denied →
      ∀ labels final, Machine.run parties.flowStep flow labels = some final → Withheld parties denied final := by
  constructor
  · intro allowed labels
    have nothing : Challenged parties flow := by simp [Challenged, initial.wire]
    exact Machine.run_congr (fun challenged taken => challenged_flowStep challenged taken)
      (fun challenged => flowStep_allowed signs offered allowed challenged) nothing labels
  · rintro before policy after denied rfl passed refused labels final reached
    have withheld : Machine.Within parties.flowStep (fun _ _ => True) flow labels :=
      Machine.within_of_labels (fun _ _ => trivial) flow
    exact Machine.invariant
      (fun _ withheld taken => withheld_flowStep offered (prepare_denied signs offered passed refused) withheld taken)
      withheld (withheld_of_initial initial) reached

end Flows

/-! ### A cap on what is spent -/

namespace Transparent

open Crypto.Transparent Facilitator.Transparent

attribute [local instance] transparent transparent_lawful plainErrors Wallet.spelledBase64 text

/-- The policy of the module's example. -/
def capAt (maxValue : Nat) : PolicyFn := fun req => do
  let cap ← okOr ⟨"max_amount_required is not a u128"⟩ (Decimal.parseU128 req.maxAmountRequired)
  ensure (¬ maxValue < cap) ⟨s!"operator policy caps max_amount_required at {maxValue}, got {cap}"⟩

/-- The client of `parties`, with caps on what it signs. -/
def capped (caps : List Nat) : Parties Unit :=
  Parties.withSigner parties (enforced (ofNockchain payer) (caps.map capAt))

def overCap : PolicyDenied := ⟨"operator policy caps max_amount_required at 4, got 5"⟩

/-- Five nicks pass a cap of nine, and then not one of four. -/
theorem policies_gate_flow_capped :
    (∀ labels, Machine.run (capped [9]).flowStep beginning labels =
      Machine.run parties.flowStep beginning labels) ∧
    ∃ final, Machine.run (capped [9, 4]).flowStep beginning [.fetch, .deliver 0, .deliver 0] = some final ∧
      final.client = .finished none (.error (.build overCap.display)) ∧ Withheld (capped [9, 4]) overCap final := by
  have nine : capAt 9 requirements = .ok () := by decide
  have four : capAt 4 requirements = .error overCap := by decide
  have offered : ∀ caps, (capped caps).server.offer.withoutNulls.accepts.head? = some requirements := fun _ => rfl
  constructor
  · have signs : (capped [9]).fetch.signer = enforced (ofNockchain payer) [capAt 9] := rfl
    exact (policies_gate_flow signs (offered _) beginning_initial).1 (by simpa using nine)
  · have signs : (capped [9, 4]).fetch.signer = enforced (ofNockchain payer) ([capAt 9] ++ capAt 4 :: []) := rfl
    have passed : ∀ policy ∈ [capAt 9], policy requirements = .ok () := by simpa using nine
    have refused := prepare_denied signs (offered [9, 4]) passed four
    obtain ⟨_, denies⟩ := policies_gate_flow signs (offered _) beginning_initial
    obtain ⟨final, reached, ended⟩ : ∃ final,
        Machine.run (capped [9, 4]).flowStep beginning [.fetch, .deliver 0, .deliver 0] = some final ∧
          final.client = .finished none (.error (.build overCap.display)) := by
      have listed : (capped [9, 4]).server.offer.accepts.head? = some requirements := rfl
      refine ⟨{ beginning with client := .finished none (.error (.build overCap.display)) }, ?_, rfl⟩
      simp only [Machine.run, Parties.flowStep, beginning, Flow.send, List.nil_append, Option.bind_eq_bind,
        Option.bind_some, List.getElem?_cons_zero, Parties.receive, ResourceServer.receive, listed,
        Option.bind_none, List.eraseIdx_cons_zero, Response.withoutNulls, refused]
    exact ⟨final, reached, ended, denies _ _ _ _ rfl passed four _ final reached⟩

end Transparent

end X402Nockchain.Client
