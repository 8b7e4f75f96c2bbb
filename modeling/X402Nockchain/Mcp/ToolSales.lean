import X402Nockchain.Advertiser.SelfDescribing
import X402Nockchain.Client.Discovery
import X402Nockchain.Client.HonestPayment
import X402Nockchain.Facilitator.Acceptance
import X402Nockchain.Facilitator.VerifyThenSettle
import X402Nockchain.Mcp.ToolListing

/-! The way of a tool through the whole system, as the client of `demo_full` walks it: called
without a payment, paid for, run, settled, and found in the listing of the facilitator. -/

namespace X402Nockchain.Mcp

open Foundation Foundation.Serde X402Types Crypto Facilitator Advertiser
open Client (BazaarClient Delivered Draws Fetch HttpText Listable Offers SignsDigests ClocksAgree
  buildExactNockchainPayload directory discoveryEndpoint encodePaymentSignatureHeader entries ofNockchain
  rereadParams rowOf)
open Storage (CatalogStore CatalogHistory)

/-- A facilitator, and the world that the tools act on. -/
abbrev Site (Chain Cache Store World : Type) := Service Chain Cache Store × World

section Parties

variable {Chain Cache Store World : Type} [JsonText] [Base64]

/-- `RemoteFacilitatorVerifier`, over a facilitator that serves nobody else meanwhile. The
handlers of the tools see it as the call has left it. -/
def facilitatorVerifier [Vesl] [ErrorText] [JsonSchema] [ReplayCache Cache] [CatalogStore Store]
    (state : AppState Chain) (now : UInt64) (lastUpdated : String) :
    PaymentVerifier (Site Chain Cache Store World) where
  verify site payload requirements :=
    let req : VerifyRequest := { payload, requirements }
    let ((_, body), service) := verifyHandler state now lastUpdated site.1 req.withoutNulls
    (readReply (toValue body), service, site.2)

/-- The first call, without a payment. -/
def unpaidCall (tool : String) (args : Value) : CallRequest where
  tool
  headers := []
  args

/-- The call again, with the payment under the header that the router reads. -/
def paidRetry (tool : String) (args : Value) (payload : PaymentPayload Value) : CallRequest where
  tool
  headers := [(paymentSignatureHeader, asBytes (encodePaymentSignatureHeader payload))]
  args

/-- The demo goes on with a 402 only. -/
def readChallenge (reply : Reply) : Option PaymentRequired :=
  if reply.status = 402 then fromValue reply.body else none

/-- What the client has paid with, and what it got. -/
structure Purchase where
  req : VerifyRequest
  reply : Reply

/-- Steps 1 and 2 of the demo, for any tool: the payment is for the first option of the 402,
and echoes its extensions. -/
def purchase (registry : McpToolRegistry World) (verifier : PaymentVerifier World) (fetch : Fetch)
    (tool : String) (args : Value) (world : World) : Option Purchase × World :=
  let (first, world) := callTool registry verifier (unpaidCall tool args) world
  match (readChallenge first.reply).map fun challenge => fetch.prepare (.paymentRequired challenge) with
  | some (.ok req) =>
    let (second, world) := callTool registry verifier (paidRetry tool args req.payload) world
    (some { req, reply := second.reply }, world)
  | _ => (none, world)

/-- What the handler of a tool makes of a call. -/
def handled (handler : ToolHandler World) (args : Value) (world : World) : Reply × World :=
  match handler args world with
  | (.ok v, world) => (invocationReply (.ok (.success v)), world)
  | (.error e, world) => (invocationReply (.ok (.toolFailed e)), world)

/-! ### The header -/

omit [JsonText] in
/-- Base64 text is a header value that reads as itself. -/
theorem headerText_encode [PrintableBase64] (bytes : List UInt8) :
    headerText (asBytes (Base64.encode bytes)) = some (Base64.encode bytes) := by
  have letters := PrintableBase64.printable bytes
  generalize Base64.encode bytes = text at letters
  have ascii : ∀ letter ∈ text.toList, Utf8.Ascii letter := fun letter member =>
    Nat.lt_succ_of_lt (letters letter member).2
  have written : asBytes text = text.toList.map Utf8.byteOf := by
    rw [← asBytes_ofList ascii, String.ofList_toList]
  have visible : (asBytes text).all isVisibleAscii = true := by
    rw [written, List.all_map, List.all_eq_true]
    intro letter member
    obtain ⟨above, below⟩ := letters letter member
    have byte : (Utf8.byteOf letter).toNat = letter.toNat := Utf8.toNat_byteOf (below.trans (by decide))
    rw [Function.comp_apply, isVisibleAscii, Bool.or_eq_true, Bool.and_eq_true, decide_eq_true_iff,
      decide_eq_true_iff, UInt8.le_iff_toNat_le, UInt8.lt_iff_toNat_lt, byte]
    exact .inl ⟨above.le, below⟩
  rw [headerText, if_pos visible, ofBytes_asBytes]

/-! ### What each party does -/

variable {registry : McpToolRegistry World} {verifier : PaymentVerifier World} {world : World}

/-- An unpaid call is answered with a challenge, in which a reader of JSON finds the first
option of the registry and the bazaar block of the tool. -/
theorem challenged (found : registry.get tool = some registered)
    (offered : registry.accepts.head? = some requirements) (verifier : PaymentVerifier World) (args : Value)
    (world : World) :
    callTool registry verifier (unpaidCall tool args) world = ({ reply := paymentRequired registry tool }, world) ∧
      ∃ challenge, readChallenge (paymentRequired registry tool) = some challenge ∧
        challenge.accepts.head? = some requirements.withoutNulls ∧
        challenge.extensions = some [("bazaar", toValue registered.bazaar)] := by
  have offers : registry.accepts ≠ [] := by
    intro empty
    rw [empty] at offered
    cases offered
  have unread : (unpaidCall tool args).payload = none := rfl
  refine ⟨callTool_unread unread offers verifier world, ?_⟩
  obtain ⟨body, built, accepts⟩ := McpToolRegistry.paymentRequired_of_get found
  have extensions : body.extensions = some [("bazaar", toValue registered.bazaar)] := by
    simp only [McpToolRegistry.paymentRequired, found, Option.bind_eq_bind, Option.bind_some, Option.pure_def,
      Option.some.injEq] at built
    rw [← built]
  refine ⟨body.withoutNulls, ?_, ?_, extensions⟩
  · simp only [readChallenge, paymentRequired, built, if_true]
    exact PaymentRequired.fromValue_toValue_withoutNulls body
  · rw [PaymentRequired.withoutNulls, accepts, List.head?_map, offered, Option.map_some]

/-- The router reads the payment that the client attached. -/
theorem gate_paidRetry [LawfulBase64] [PrintableBase64] (found : registry.get tool = some registered)
    (offered : registry.accepts.head? = some requirements) {payload : PaymentPayload Value}
    (travels : JsonText.parse (JsonText.print (toValue payload)) = some (toValue payload)) (args : Value) :
    gate registry (paidRetry tool args payload) = .check registered { payload, requirements } := by
  have spelled : Spelled (paidRetry tool args payload).headers payload :=
    spelled_encode [] travels (headerText_encode _)
  exact gate_check_iff.mpr ⟨found, offered, spelled_iff.mp spelled⟩

/-- A call whose payment is accepted is answered by the handler of its tool. -/
theorem callTool_paid {request : CallRequest} (gated : gate registry request = .check registered req)
    (accepted : verifier.verify world req.payload req.requirements = (.ok (), after)) :
    (callTool registry verifier request world).1.reply = (handled registered.handler request.args after).1 ∧
      (callTool registry verifier request world).2 = (handled registered.handler request.args after).2 := by
  have found := (gate_check_iff.mp gated).1
  have named := McpToolRegistry.tool_of_get found
  simp only [callTool, gated, accepted, named, McpToolRegistry.invoke, found, handled]
  rcases registered.handler request.args after with ⟨error | value, later⟩ <;> exact ⟨rfl, rfl⟩

/-- The verifier of a router accepts what the facilitator accepts, by one `/verify`. -/
theorem facilitatorVerifier_accepts [Vesl] [ErrorText] [JsonSchema] [ReplayCache Cache] [CatalogStore Store]
    {state : AppState Chain} {site : Site Chain Cache Store World} {payload : PaymentPayload Value}
    (accepted : (verifyEnvelope state now site.1.cache
      (VerifyRequest.withoutNulls { payload, requirements })).1 = .ok ()) (lastUpdated : String) :
    (facilitatorVerifier state now lastUpdated).verify site payload requirements =
      (.ok (), (serve state site.1
        ⟨.verify, now, lastUpdated, VerifyRequest.withoutNulls { payload, requirements }⟩).2, site.2) := by
  have valid : readReply (toValue (verifyResponse (.ok ()))) = .ok () :=
    readReply_ok_iff.mpr (verifyResponse_valid.mpr rfl)
  simp only [facilitatorVerifier, serve, verifyHandler_eq, accepted, valid]

/-- A purchase goes through when the payment for the challenge is built, can be sent, and
is accepted: it is one `/verify`, and then the handler of the tool. -/
theorem purchase_succeeds [Vesl] [ErrorText] [JsonSchema] [ReplayCache Cache] [CatalogStore Store] [LawfulBase64]
    [PrintableBase64] {registry : McpToolRegistry (Site Chain Cache Store World)}
    {state : AppState Chain} {site : Site Chain Cache Store World} {fetch : Fetch} {payload : PaymentPayload Value}
    (found : registry.get tool = some registered) (offered : registry.accepts.head? = some requirements)
    (built : buildExactNockchainPayload requirements.withoutNulls fetch.signer
      (some [("bazaar", toValue registered.bazaar)]) fetch.now fetch.drawn = .ok payload)
    (travels : JsonText.parse (JsonText.print (toValue payload)) = some (toValue payload))
    (accepted : (verifyEnvelope state now site.1.cache
      (VerifyRequest.withoutNulls { payload, requirements })).1 = .ok ()) (lastUpdated : String) (args : Value) :
    let req := VerifyRequest.withoutNulls { payload, requirements }
    let sold := (serve state site.1 ⟨.verify, now, lastUpdated, req⟩).2
    purchase registry (facilitatorVerifier state now lastUpdated) fetch tool args site =
      (some { req, reply := (handled registered.handler args (sold, site.2)).1 },
        (handled registered.handler args (sold, site.2)).2) := by
  intro req sold
  obtain ⟨unpaid, challenge, read, first, extensions⟩ :=
    challenged found offered (facilitatorVerifier state now lastUpdated) args site
  have prepared : fetch.prepare (.paymentRequired challenge) = .ok req :=
    Fetch.prepare_ok_iff.mpr ⟨challenge, rfl, first, extensions ▸ built⟩
  have gated := gate_paidRetry found offered travels args
  obtain ⟨reply, after⟩ := callTool_paid gated (facilitatorVerifier_accepts accepted lastUpdated)
  have paid : req.payload = payload := rfl
  simp only [purchase, unpaid, read, Option.map_some, prepared, paid, reply, after]
  rfl

end Parties

/-! ### The row of a tool -/

/-- The row of a tool that was paid for with this option. -/
def toolRow (requirements : PaymentRequirements) (lastUpdated : String) (info : DiscoveryInfo) :
    DiscoveryResource where
  resource := requirements.resource
  kind := "mcp"
  x402Version := 2
  accepts := [requirements]
  lastUpdated
  metadata := some (toValue info)

/-- A tool stands in a catalog as the one row of its server, with what it says of itself. -/
def Shelved (history : List DiscoveryResource) (resource : String) (info : DiscoveryInfo) : Prop :=
  ∃ item, (Storage.catalog history).filter (fun item => item.key = (resource, "mcp")) = [item] ∧
    item.metadata = some (toValue info)

/-- A record of the tool puts it there, until one of another tool of its server. -/
theorem shelved_of_last {info : DiscoveryInfo} {row : DiscoveryResource} (named : row.key = (resource, "mcp"))
    (own : row.metadata = some (toValue info)) (earlier : List DiscoveryResource)
    (same : ∀ other ∈ later, other.key = (resource, "mcp") → other.metadata = some (toValue info)) :
    Shelved (earlier ++ row :: later) resource info := by
  obtain ⟨item, last, since⟩ := KeyedStore.latest_since DiscoveryResource.key earlier later row
  rw [named] at last
  refine ⟨item, KeyedStore.filter_rows last, ?_⟩
  obtain rfl | written := since
  · exact own
  · exact same item written (KeyedStore.key_of_latest last)

section Rows

variable {World : Type} [JsonSchema] [LawfulJsonSchema]

/-- The block of a tool validates exactly if its input schema is an object. -/
theorem registered_valid_iff (call : Registration World) :
    validateInfoAgainstSchema call.registered.bazaar = .ok () ↔ IsObject call.inputSchema := by
  rw [validateInfoAgainstSchema_infoSchema rfl understood_mcpSchema]
  refine (satisfies_mcpSchema_iff _).trans (and_iff_left ?_)
  intro value none
  cases none

variable [ErrorText] {call : Registration World} {req : VerifyRequest}

theorem readExtension_registered
    (echoed : req.payload.extensions = some [("bazaar", toValue call.registered.bazaar)]) :
    readExtension req = some (.ok ext) ↔ ext = call.registered.bazaar ∧ IsObject call.inputSchema := by
  have explicit : call.registered.bazaar.Explicit := by
    constructor
    · rintro input same
      obtain rfl := DiscoveryInput.mcp.inj same
      exact Option.some_ne_none _ ∘ Eq.symm
    · rintro output none
      cases none
  have decoded : fromValue (toValue call.registered.bazaar) = some call.registered.bazaar :=
    BazaarExtension.fromValue_toValue explicit
  rw [readExtension_ok_iff, ← registered_valid_iff]
  constructor
  · rintro ⟨members, block, extensions, found, read, valid⟩
    obtain rfl := Option.some.inj (echoed.symm.trans extensions)
    obtain rfl := Option.some.inj found
    obtain rfl := Option.some.inj (decoded.symm.trans read)
    exact ⟨rfl, valid⟩
  · rintro ⟨rfl, valid⟩
    exact ⟨_, _, echoed, rfl, decoded, valid⟩

/-- The row that a payment for the tool asks for, if it asks for one at all. -/
theorem rowOf_registered (echoed : req.payload.extensions = some [("bazaar", toValue call.registered.bazaar)])
    (lastUpdated : String) :
    (IsObject call.inputSchema → rowOf lastUpdated req = [catalogEntry req lastUpdated call.registered.bazaar]) ∧
      (¬ IsObject call.inputSchema → rowOf lastUpdated req = []) := by
  constructor
  · intro object
    rw [rowOf, (readExtension_registered echoed).mpr ⟨rfl, object⟩]
  · intro other
    refine List.eq_nil_iff_forall_not_mem.mpr fun row member => ?_
    obtain ⟨ext, read, _⟩ := Client.mem_rowOf.mp member
    exact other ((readExtension_registered echoed).mp read).2

end Rows

/-! ### A sale -/

section Sales

variable {Chain Cache Store World : Type} [Vesl] [LawfulVesl] [ErrorText] [JsonSchema] [LawfulJsonSchema]
  [JsonText] [Base64] [LawfulBase64] [PrintableBase64] [LawfulReplayCache Cache] [CatalogHistory Store]

omit [Vesl] [LawfulVesl] [ErrorText] [JsonSchema] [LawfulJsonSchema] [JsonText] [Base64] [LawfulBase64]
  [PrintableBase64] in
theorem minFee_withoutNulls (requirements : PaymentRequirements) :
    requirements.withoutNulls.extra.bind (·.get "minFee") = requirements.extra.bind (·.get "minFee") := by
  unfold PaymentRequirements.withoutNulls
  cases extra : requirements.extra with
  | none => rfl
  | some value => cases value <;> rfl

omit [Vesl] [LawfulVesl] [ErrorText] [JsonSchema] [LawfulJsonSchema] [JsonText] [Base64] [LawfulBase64]
  [PrintableBase64] in
/-- What a client reads in a challenge is worth the same to it. -/
theorem offers_withoutNulls {requirements : PaymentRequirements} (offers : Offers requirements) :
    Offers requirements.withoutNulls where
  scheme := offers.scheme
  network := offers.network
  native := offers.native
  recipient := offers.recipient
  amount := offers.amount
  fee text asked := offers.fee text (minFee_withoutNulls requirements ▸ asked)

omit [Vesl] [LawfulVesl] [ErrorText] [JsonSchema] [LawfulJsonSchema] [JsonText] [Base64] [LawfulBase64]
  [PrintableBase64] in
theorem authorization_withoutNulls (drawn : Draws) (requirements : PaymentRequirements) (payer : String)
    (now : UInt64) :
    drawn.authorization requirements.withoutNulls payer now = drawn.authorization requirements payer now := by
  have fee : Client.offeredFee requirements.withoutNulls = Client.offeredFee requirements := by
    rw [Client.offeredFee, minFee_withoutNulls, Client.offeredFee]
  rw [Draws.authorization, Client.authorizationFor, fee]
  rfl

variable {state : AppState Chain} {service : Service Chain Cache Store} {requirements : PaymentRequirements}
  {signer : NockchainSigner} {drawn : Draws} {tool : String}
  {calls : List (Registration (Site Chain Cache Store World))} {call : Registration (Site Chain Cache Store World)}

omit [LawfulVesl] [JsonSchema] [LawfulJsonSchema] [JsonText] [Base64] [LawfulBase64] [PrintableBase64] in
/-- A payment that was built shows the authorization that it was built of. -/
theorem shown_of_built {echoExtensions : Option (List (String × Value))} {payload : PaymentPayload Value}
    (schemes : state.schemeRegistry = .withDefaultHandlers)
    (built : buildExactNockchainPayload requirements (ofNockchain signer) echoExtensions now drawn = .ok payload)
    (shown : Shows state { payload, requirements } auth) :
    auth = drawn.authorization requirements signer.fromIdentifier now := by
  obtain ⟨signature, _, rfl⟩ := Client.buildExactNockchainPayload_ok_iff.mp built
  obtain ⟨handler, dispatched⟩ := shown
  obtain ⟨_, _, _, found, extracted⟩ := preDispatch_ok_iff.mp dispatched
  rw [schemes] at found
  rw [(shared_methods found).1, extractNockchainAuthorization_ok_iff] at extracted
  obtain ⟨nock, carried, rfl⟩ := extracted
  obtain rfl := Option.some.inj ((fromValue_toValue _).symm.trans carried)
  rfl

omit [JsonSchema] [LawfulJsonSchema] [JsonText] [Base64] [LawfulBase64] [PrintableBase64] in
/-- Every payment that is built for the native asset is accepted while its nonce is fresh. -/
theorem accepted_of_built {echoExtensions : Option (List (String × Value))} {payload : PaymentPayload Value}
    {cache : Cache} (schemes : state.schemeRegistry = .withDefaultHandlers) (offers : Offers requirements)
    (agree : ClocksAgree state.clockSkewTolerance now now')
    (fresh : ¬ Consumed state now' cache (drawn.authorization requirements signer.fromIdentifier now))
    (built : buildExactNockchainPayload requirements (ofNockchain signer) echoExtensions now drawn = .ok payload) :
    (verifyEnvelope state now' cache { payload, requirements }).1 = .ok () := by
  obtain ⟨signature, signed, rfl⟩ := Client.buildExactNockchainPayload_ok_iff.mp built
  have window := Client.window_of_clocksAgree agree drawn requirements signer.fromIdentifier
  exact (accepted_iff schemes).mpr ⟨Client.nockOf drawn requirements signer now signature, {
    version := rfl
    scheme := rfl
    network := rfl
    shipped := ⟨offers.scheme, offers.network⟩
    carried := fromValue_toValue _
    running := checkTimeWindow_ok_iff.mp window
    fresh := fresh
    admissible := offers.admissible signed }⟩

/-- A registered tool is sold and listed: to an honest client, in whatever state the facilitator
is, the call is paid for by one `/verify`, and answered by the handler of the tool. A `/settle`
of the payment within its window gets to the chain, whatever was served in between. And if
the input schema of the tool is an object, a listing has the tool as the one row of its
server, whatever is served afterwards, until another tool of the server is sold;
otherwise the sale writes no row. -/
theorem tool_sells [HttpText] (named : firstOf calls tool = some call) (offers : Offers requirements)
    (signs : SignsDigests signer) (schemes : state.schemeRegistry = .withDefaultHandlers)
    (agree : ClocksAgree state.clockSkewTolerance now now')
    (fresh : ¬ Consumed state now' service.cache (drawn.authorization requirements signer.fromIdentifier now))
    (travels : ∀ payload, buildExactNockchainPayload requirements.withoutNulls (ofNockchain signer)
      (some [("bazaar", toValue call.registered.bazaar)]) now drawn = .ok payload →
        JsonText.parse (JsonText.print (toValue payload)) = some (toValue payload))
    (resource : PaymentResource) (others : List PaymentRequirements) (args : Value) (world : World)
    (lastUpdated : String) :
    ∃ req,
      let registry := enroll.after (.new resource (requirements :: others)) calls
      let first : Arrival := ⟨.verify, now', lastUpdated, req⟩
      let sold := (serve state service first).2
      let info := call.registered.bazaar.info
      purchase registry (facilitatorVerifier state now' lastUpdated) ⟨ofNockchain signer, now, drawn⟩ tool args
          (service, world) =
        (some { req, reply := (handled call.handler args (sold, world)).1 },
          (handled call.handler args (sold, world)).2) ∧
      (serve state service first).1.verdict = some { valid := true } ∧
      (∀ between later lastUpdated', now' ≤ later →
        later.toNat ≤ (saturatingAdd now requirements.maxTimeoutSeconds).toNat +
          state.clockSkewTolerance.asSecs.toNat →
        let served := (serve state).after sold between
        (serve state served ⟨.settle, later, lastUpdated', req⟩).1.settlement =
          some (chainAnswer (state.chain.settle served.chain req)).1) ∧
      (IsObject call.inputSchema →
        entries state service [first] = [toolRow requirements.withoutNulls lastUpdated info]) ∧
      (¬ IsObject call.inputSchema → entries state service [first] = []) ∧
      ∀ history arrivals, CatalogHistory.Keeps service.catalog history → (∀ entry ∈ history, entry.Explicit) →
        CatalogHistory.GivesBack Store (toolRow requirements.withoutNulls lastUpdated info) →
        (∀ arrival ∈ arrivals, Listable Store arrival.lastUpdated arrival.req) →
        let history' := history ++ entries state service (first :: arrivals)
        (∀ params, Delivered (directory history' (rereadParams params)) →
          BazaarClient.listResources ⟨discoveryEndpoint ((serve state).after sold arrivals).catalog⟩ params =
            .ok (directory history' (rereadParams params))) ∧
        (IsObject call.inputSchema →
          (∀ row ∈ entries state sold arrivals, row.key = (requirements.resource, "mcp") →
            row.metadata = some (toValue info)) →
          Shelved history' requirements.resource info) := by
  have own := authorization_withoutNulls drawn requirements signer.fromIdentifier now
  have offers' := offers_withoutNulls offers
  obtain ⟨signature, signed⟩ := Client.signAuthorization_succeeds signs
    (offers'.signable signer drawn now) requirements.withoutNulls
  obtain ⟨payload, built⟩ : ∃ payload, buildExactNockchainPayload requirements.withoutNulls (ofNockchain signer)
      (some [("bazaar", toValue call.registered.bazaar)]) now drawn = .ok payload :=
    ⟨_, Client.buildExactNockchainPayload_ok_iff.mpr ⟨signature, signed, rfl⟩⟩
  have accepted := accepted_of_built schemes offers' agree (own.symm ▸ fresh) built
  refine ⟨VerifyRequest.withoutNulls { payload, requirements }, ?_⟩
  intro registry first sold info
  have found : registry.get tool = some call.registered := by
    rw [get_after_new, named, Option.map_some]
  have offered : registry.accepts.head? = some requirements := by
    rw [(offer_after _ calls).2]
    rfl
  have echoed : first.req.payload.extensions = some [("bazaar", toValue call.registered.bazaar)] := by
    obtain ⟨_, _, rfl⟩ := Client.buildExactNockchainPayload_ok_iff.mp built
    rfl
  have passes : (checkEnvelope state service.cache first).1 = .ok () := accepted
  have written (arrivals : List Arrival) : entries state service (first :: arrivals) =
      rowOf lastUpdated first.req ++ entries state sold arrivals := by
    rw [entries, Component.written, Client.entryOf, passes]
  obtain ⟨listed, unlisted⟩ := rowOf_registered echoed lastUpdated
  have row : catalogEntry first.req lastUpdated call.registered.bazaar =
      toolRow requirements.withoutNulls lastUpdated info := by
    obtain ⟨_, _, rfl⟩ := Client.buildExactNockchainPayload_ok_iff.mp built
    rfl
  rw [row] at listed
  refine ⟨purchase_succeeds found offered built (travels payload built) accepted lastUpdated args,
    ?_, ?_, ?_, ?_, ?_⟩
  · have verified : (verifyEnvelope state first.now service.cache first.req).1 = .ok () := accepted
    rw [serve_verdict rfl, verified]
    rfl
  · intro between later lastUpdated' order ends served
    have passed : (verifyEnvelopeForSettle state later served.cache first.req).1 = .ok () := by
      refine settles_later accepted order (fun auth shown => ?_) served.cache
      rw [shown_of_built schemes built shown]
      exact ends
    rw [serve_settlement rfl, settleBody_verified schemes passed]
  · intro object
    rw [written, listed object]
    rfl
  · intro other
    rw [written, unlisted other]
    rfl
  · intro history arrivals keeps explicit given listable history'
    have decoded : fromValue (toValue ({ payload, requirements } : VerifyRequest)) = some first.req :=
      VerifyRequest.fromValue_toValue_withoutNulls _
    have own : Listable Store lastUpdated first.req := by
      refine ⟨⟨_, decoded⟩, fun ext read => ?_⟩
      rw [((readExtension_registered echoed).mp read).1, row]
      exact given
    refine ⟨fun params delivered => ?_, fun object same => ?_⟩
    · have each : ∀ arrival ∈ first :: arrivals, Listable Store arrival.lastUpdated arrival.req :=
        List.forall_mem_cons.mpr ⟨own, listable⟩
      have listing := Client.lists_after keeps explicit each delivered
      exact listing
    · change Shelved (history ++ entries state service (first :: arrivals)) _ _
      rw [written, listed object]
      exact shelved_of_last rfl rfl history same

end Sales

/-! ### The demo, over the stub chain -/

/-- The payment option of `build_registry_with_overrides`. -/
def demoOption (resourceUrl payTo maxAmountRequired minFee : String) : PaymentRequirements where
  scheme := "exact"
  network := "nockchain:fakenet"
  maxAmountRequired
  resource := resourceUrl
  asset := "NOCK"
  payTo
  maxTimeoutSeconds := 60
  description := some "Demo MCP echo tool"
  mimeType := some "application/json"
  extra := some (.object [("minFee", .string minFee)])

/-- The tool that `build_registry_with_overrides` registers. -/
def demoTool {World : Type} : Registration World where
  tool := "echo"
  description := some "Echo the input back. Demo tool."
  inputSchema := .object [
    ("type", .string "object"),
    ("properties", .object [("msg", .object [
      ("type", .string "string"), ("description", .string "Text to echo back")])]),
    ("required", .array [.string "msg"])]
  transport := some .streamableHttp
  handler args world := (.ok args, world)

/-- Whoever is paid, and however much, the option can be met. -/
theorem demoOption_offers {payTo maxAmountRequired minFee : String} (resourceUrl : String) (payee : Spells payTo)
    (amount : Decimal.parseU64 maxAmountRequired = some value) (fee : Decimal.parseU64 minFee = some least) :
    Offers (demoOption resourceUrl payTo maxAmountRequired minFee) where
  scheme := .inl rfl
  network := by
    change startsWith "nockchain:fakenet" "nockchain:" = true
    decide
  native := rfl
  recipient := payee
  amount := ⟨value, amount⟩
  fee := by
    rintro text ⟨⟩
    exact ⟨least, fee⟩

namespace Transparent

open Crypto.Transparent Facilitator.Transparent Client.Transparent

attribute [local instance] transparent transparent_lawful plainErrors plainSchemas plainSchemas_lawful
  Wallet.spelledBase64 Wallet.spelledBase64_lawful plainHttp

theorem spelledBase64_printable : PrintableBase64 where
  printable := by
    intro bytes letter member
    have symbols : (Base58.alphabet.all fun letter => 32 < letter.toNat && letter.toNat < 127) = true := by decide
    change letter ∈ (Base58.encode bytes).toList at member
    rw [Base58.encode, String.toList_ofList] at member
    obtain ⟨value, digit, rfl⟩ := List.mem_map.mp member
    have below : value < Base58.alphabet.length := Base58.rebase_lt (by decide) value digit
    rw [Base58.symbol, List.getD_eq_getElem _ _ below]
    simpa using List.all_eq_true.mp symbols _ (List.getElem_mem below)

attribute [local instance] spelledBase64_printable

/-- The option of the demo's `build_registry`. -/
def echoOption : PaymentRequirements :=
  demoOption "https://example.test/mcp/call/echo" "3J98t1WpEZ73CNmQviecrnyiWrnqRhWNLy" "65536" "10"

theorem echoOption_offers : Offers echoOption :=
  demoOption_offers _ ⟨_, rfl, by decide⟩ rfl rfl

def echoBlock : BazaarExtension := (demoTool : Registration Unit).registered.bazaar

/-- The payment that the stand-in's payer builds for the challenge. -/
def echoPayment : PaymentPayload Value :=
  (buildExactNockchainPayload echoOption.withoutNulls (ofNockchain payer)
    (some [("bazaar", toValue echoBlock)]) 1000 draws).toOption.getD original.payload

/-- Compact text, read back for that payment. -/
@[reducible] def echoText : JsonText where
  print := compact
  parse text := [toValue echoPayment].find? fun value => compact value = text

attribute [local instance] echoText

theorem echoPayment_travels {payload : PaymentPayload Value}
    (built : buildExactNockchainPayload echoOption.withoutNulls (ofNockchain payer)
      (some [("bazaar", toValue echoBlock)]) 1000 draws = .ok payload) :
    JsonText.parse (JsonText.print (toValue payload)) = some (toValue payload) := by
  have same : echoPayment = payload :=
    congrArg (fun result => (Except.toOption result).getD original.payload) built
  simp [JsonText.parse, JsonText.print, same]

def hello : Value := .object [("msg", .string "hello nockchain")]

/-- The demo in `stub` mode: the tool is called, paid for, run, settled and shelved. -/
theorem tool_sells_demo : ∃ req sold,
    purchase (enroll.after (.new { url := echoOption.resource } [echoOption]) [demoTool])
        (facilitatorVerifier facilitator 1060 "now") ⟨ofNockchain payer, 1000, draws⟩ "echo" hello (opened, ()) =
      (some { req, reply := { status := 200, body := hello } }, sold, ()) ∧
    (serve facilitator sold ⟨.settle, 1090, "later", req⟩).1.settlement =
      some (chainAnswer (stubChainClient.settle () req)).1 ∧
    Shelved (entries facilitator opened [⟨.verify, 1060, "now", req⟩]) echoOption.resource echoBlock.info := by
  have named : firstOf [demoTool] "echo" =
      some (demoTool : Registration (Site Unit RecordLog Storage.InMemoryCatalogStore Unit)) := rfl
  have fresh : ¬ Consumed facilitator 1060 opened.cache (draws.authorization echoOption payer.fromIdentifier 1000) :=
    empty_fresh _ _ _
  have agree : ClocksAgree facilitator.clockSkewTolerance 1000 1060 := ⟨by decide, by decide⟩
  obtain ⟨req, bought, _, settles, _, _, lists⟩ := tool_sells named echoOption_offers payer_signs rfl agree fresh
    (fun _ => echoPayment_travels) { url := echoOption.resource } [] hello () "now"
  refine ⟨req, _, bought, settles [] 1090 "later" (by decide) (by decide), ?_⟩
  exact (lists [] [] rfl (List.forall_mem_nil _) trivial (List.forall_mem_nil _)).2 ⟨_, rfl⟩ (List.forall_mem_nil _)

end Transparent

end X402Nockchain.Mcp
