import X402Nockchain.Client.SecondChallenge

/-! `Signer` is a trait that anybody implements, as `StubSigner` does. What a signer has to
know for its client to get past `/verify`. -/

namespace X402Nockchain.Client

open Foundation Foundation.Serde X402Types Crypto Facilitator

def stubSigner : Signer where
  fromIdentifier := "stub-from"
  signAuthorization _ _ := .ok (.allZero "stub-pubkey")

/-- The client sends its payment to the resource server, or has sent it. -/
def ClientPhase.Paying : ClientPhase → Prop
  | retrying _ | finished _ (.ok _) => True
  | _ => False

/-- The authorization that a fetch pays with. -/
def Fetch.authorization (fetch : Fetch) (requirements : PaymentRequirements) : Authorization :=
  fetch.drawn.authorization requirements fetch.signer.fromIdentifier fetch.now

section Flows

variable {Chain Cache : Type} [Vesl] {parties : Parties Chain} {flow next final : Flow Chain Cache}

/-- The signature that the signer returned for the offer is one of the offer's authorization,
under a key that hashes to the identifier of the signer. -/
structure Keyed (parties : Parties Chain) (requirements : PaymentRequirements)
    (signature : SchnorrSignatureJson) : Prop where
  offered : parties.server.offer.withoutNulls.accepts.head? = some requirements
  signed : parties.fetch.signer.signAuthorization (parties.fetch.authorization requirements) requirements =
    .ok signature
  attested : ∃ pk chal sig digest,
    Attested { signature, authorization := parties.fetch.authorization requirements } pk chal sig digest

/-- No key hashes to the identifier of the stub. -/
theorem not_keyed_stubSigner (stub : parties.fetch.signer = stubSigner) :
    ¬ Keyed parties requirements signature := by
  rintro ⟨_, _, _, _, _, digest, attested⟩
  have hashed := attested.signed
  simp only [x402SignMessageDigest, Outcome.map_ok] at hashed
  obtain ⟨belts, message, _⟩ := hashed
  have named : (parties.fetch.authorization requirements).from = "stub-from" := by
    rw [Fetch.authorization, stub]
    rfl
  obtain ⟨value, spelled, _⟩ := (signable_iff.mp ⟨belts, message⟩).sender
  rw [named] at spelled
  cases spelled

section Steps

variable [ReplayCache Cache] [JsonText] [Base64]

/-- Only the client's own verdict makes it pay. -/
theorem paying_receive {message : Message} (received : parties.receive flow message = some next)
    (paying : next.client.Paying) :
    flow.client.Paying ∨ ∃ resp, message = .verdict .client resp ∧ resp.valid = true := by
  cases message with
  | get paymentHeader =>
    simp only [Parties.receive] at received
    split at received <;> obtain rfl := Option.some.inj received <;> exact .inl paying
  | response response =>
    simp only [Parties.receive] at received
    split at received
    · split at received <;> obtain rfl := Option.some.inj received <;> exact paying.elim
    · rename_i retrying
      rw [retrying]
      exact .inl trivial
    · cases received
  | verify asker req =>
    simp only [Parties.receive, Option.map_eq_some_iff] at received
    obtain ⟨facilitator, _, rfl⟩ := received
    exact .inl paying
  | verdict asker resp =>
    cases asker with
    | client =>
      simp only [Parties.receive] at received
      split at received
      · split at received
        · rename_i valid
          exact .inr ⟨resp, rfl, valid⟩
        · obtain rfl := Option.some.inj received
          exact paying.elim
      · cases received
    | resourceServer =>
      obtain rfl := Option.some.inj received
      exact .inl paying

theorem paying_flowStep (taken : parties.flowStep flow label = some next) (paying : next.client.Paying) :
    flow.client.Paying ∨ ∃ resp, .verdict .client resp ∈ flow.wire ∧ resp.valid = true := by
  cases label with
  | fetch =>
    simp only [Parties.flowStep] at taken
    split at taken
    · obtain rfl := Option.some.inj taken
      exact paying.elim
    · cases taken
  | deliver index =>
    obtain ⟨message, found, received⟩ := Option.bind_eq_some_iff.mp taken
    obtain paid | ⟨resp, rfl, valid⟩ := paying_receive received paying
    · exact .inl paid
    · exact .inr ⟨resp, List.mem_of_getElem? found, valid⟩
  | facilitator label =>
    obtain ⟨facilitator, _, rfl⟩ := Option.map_eq_some_iff.mp taken
    exact .inl paying
  | answer index =>
    simp only [Parties.flowStep, Option.bind_eq_bind, Option.bind_eq_some_iff] at taken
    obtain ⟨exchange, _, call, _, outcome, _, answered⟩ := taken
    split at answered
    · obtain rfl := Option.some.inj answered
      exact .inl paying
    · cases answered

end Steps

variable [ErrorText] [LawfulReplayCache Cache] [JsonText] [Base64]

omit [JsonText] [Base64] in
/-- The payment of an accepted call was verified. -/
theorem admissible_of_outcome {server : Server Chain Cache} {call : Call Chain}
    (schemes : state.schemeRegistry = .withDefaultHandlers) (valid : Valid state server)
    (member : call ∈ server.calls) (finished : call.outcome = some (.ok ())) :
    ∃ nock, fromValue call.request.payload.payload = some nock ∧ Admissible nock call.request.requirements := by
  have passed := valid.passed call member
  obtain ⟨request, phase⟩ := call
  cases passed with
  | arrived | screened | recorded | declined | replayed | refused => cases finished
  | accepted passed _ verified =>
    obtain ⟨_, _, _, registered, extracted⟩ := preDispatch_ok_iff.mp (screen_ok_iff.mp passed).1
    rw [schemes] at registered
    obtain ⟨nock, carried, _, admissible⟩ := admissible_of_verified registered extracted verified
    exact ⟨nock, carried, admissible⟩

/-- What the facilitator has accepted, the signer has signed. -/
theorem keyed_of_answered (schemes : parties.facilitator.schemeRegistry = .withDefaultHandlers)
    (tracked : Tracked parties flow) (answered : AnsweredOk flow .client) :
    ∃ requirements signature, Keyed parties requirements signature := by
  obtain ⟨exchange, member, _, _, call, found, finished⟩ := answered
  obtain ⟨call', found', asked⟩ := (tracked.exchanges exchange member).request
  obtain rfl := Option.some.inj (found.symm.trans found')
  have prepared := tracked.prepared call.request asked
  obtain ⟨envelope, challenged, offered, built⟩ := Fetch.prepare_ok_iff.mp prepared
  obtain rfl := Response.paymentRequired.inj challenged
  obtain ⟨signature, signed, payload⟩ := buildExactNockchainPayload_ok_iff.mp built
  obtain ⟨nock, carried, admissible⟩ :=
    admissible_of_outcome schemes tracked.valid (List.mem_of_getElem? found) finished
  rw [payload] at carried
  obtain rfl := Option.some.inj ((fromValue_toValue _).symm.trans carried)
  exact ⟨call.request.requirements, signature, offered, signed, admissible.attested⟩

/-- One step makes no payment of a client whose signer has not signed. -/
theorem keyed_flowStep (schemes : parties.facilitator.schemeRegistry = .withDefaultHandlers)
    (tracked : Tracked parties flow)
    (keyed : flow.client.Paying → ∃ requirements signature, Keyed parties requirements signature)
    (taken : parties.flowStep flow label = some next) (paying : next.client.Paying) :
    ∃ requirements signature, Keyed parties requirements signature := by
  obtain paid | ⟨resp, member, valid⟩ := paying_flowStep taken paying
  · exact keyed paid
  · exact keyed_of_answered schemes tracked (tracked.wire _ member valid)

theorem keyed_run [LawfulBase64] (readsBack : ReadsBack parties)
    (schemes : parties.facilitator.schemeRegistry = .withDefaultHandlers) (initial : flow.Initial)
    (reached : Machine.run parties.flowStep flow labels = some final) (paying : final.client.Paying) :
    ∃ requirements signature, Keyed parties requirements signature := by
  have idle : flow.client.Paying → ∃ requirements signature, Keyed parties requirements signature := by
    rw [initial.client]
    exact False.elim
  have both := Machine.invariant
    (fun _ (kept : Tracked parties _ ∧ _) taken =>
      ⟨tracked_flowStep readsBack kept.1 taken, keyed_flowStep schemes kept.1 kept.2 taken⟩)
    (Machine.within_of_labels (fun _ _ => trivial) _ : Machine.Within _ (fun _ _ => True) _ _)
    ⟨tracked_of_initial initial, idle⟩ reached
  exact both.2 paying

/-- Whoever implements the signer and in whatever order messages arrive, a client that pays
has a signature for the offer that is verified under a key of its own identifier, and this
signature is what it sends; so the stub never pays, and its fetch ends, if it does, in an
error. -/
theorem payment_needs_key [LawfulBase64] (readsBack : ReadsBack parties)
    (schemes : parties.facilitator.schemeRegistry = .withDefaultHandlers) (initial : flow.Initial)
    (reached : Machine.run parties.flowStep flow labels = some final) :
    (final.client.Paying → ∃ requirements signature, Keyed parties requirements signature) ∧
    (∀ header, .get (some header) ∈ final.wire → ∃ requirements signature,
      Keyed parties requirements signature ∧
      header = encodePaymentSignatureHeader (payloadFor requirements
        { signature, authorization := parties.fetch.authorization requirements }
        parties.server.offer.extensions)) ∧
    (parties.fetch.signer = stubSigner →
      (∀ header, .get (some header) ∉ final.wire) ∧
      ∀ req result, final.client = .finished req result → ∃ error, result = .error error) := by
  have tracked := tracked_run readsBack initial reached
  have pays := keyed_run readsBack schemes initial reached
  have sends : ∀ header, .get (some header) ∈ final.wire → ∃ requirements signature,
      Keyed parties requirements signature ∧
      header = encodePaymentSignatureHeader (payloadFor requirements
        { signature, authorization := parties.fetch.authorization requirements }
        parties.server.offer.extensions) := by
    intro header member
    obtain ⟨answered, req, asked, rfl⟩ := tracked.wire _ member
    obtain ⟨requirements, signature, keyed⟩ := keyed_of_answered schemes tracked answered
    obtain ⟨envelope, challenged, offered, built⟩ := Fetch.prepare_ok_iff.mp (tracked.prepared req asked)
    obtain rfl := Response.paymentRequired.inj challenged
    obtain ⟨signature', signed, payload⟩ := buildExactNockchainPayload_ok_iff.mp built
    -- the offer has one first option, and the signer one answer to it
    obtain rfl := Option.some.inj (keyed.offered.symm.trans offered)
    obtain rfl := Except.ok.inj (keyed.signed.symm.trans signed)
    exact ⟨_, signature, keyed, by rw [payload]; rfl⟩
  refine ⟨pays, sends, fun stub => ⟨fun header member => ?_, fun req result ended => ?_⟩⟩
  · obtain ⟨_, _, keyed, _⟩ := sends header member
    exact not_keyed_stubSigner stub keyed
  · cases result with
    | error error => exact ⟨error, rfl⟩
    | ok response =>
      obtain ⟨_, _, keyed⟩ := pays (by rw [ended]; trivial)
      exact absurd keyed (not_keyed_stubSigner stub)

end Flows

/-! ### A client with a key -/

namespace Transparent

open Crypto.Transparent Facilitator.Transparent

attribute [local instance] transparent transparent_lawful plainErrors Wallet.spelledBase64
  Wallet.spelledBase64_lawful text

theorem payment_needs_key_alone : ∃ labels final,
    Machine.run parties.flowStep beginning labels = some final ∧ final.client.Paying ∧
    ∃ signature, Keyed parties requirements signature := by
  obtain ⟨labels, final, reached, _, _, _, fetched⟩ :=
    undisturbed_flow purchase_readsBack beginning_initial purchase_prepared purchase_accepted
  have paying : final.client.Paying := by
    rw [fetched]
    trivial
  obtain ⟨_, signature, keyed⟩ :=
    (payment_needs_key purchase_readsBack rfl beginning_initial reached).1 paying
  obtain rfl : requirements = _ := Option.some.inj keyed.offered
  exact ⟨labels, final, reached, paying, signature, keyed⟩

end Transparent

end X402Nockchain.Client
