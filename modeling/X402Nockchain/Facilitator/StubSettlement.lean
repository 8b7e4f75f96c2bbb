import X402Nockchain.Facilitator.Endpoints
import X402Nockchain.Wallet.Nockchain

/-! `StubChainClient`, which derives the id of a settlement from the nonce in the raw JSON of
the payload, where the verifier has read it by the derived decoder. -/

namespace X402Nockchain.Facilitator

open Foundation Foundation.Serde X402Types Crypto
open Storage (CatalogStore InMemoryCatalogStore)

/-- The payload and its authorization are written as JSON objects. -/
def WrittenAsObjects (payload : Value) : Prop :=
  ∃ members auth, payload = .object members ∧ members.lookup "authorization" = some (.object auth)

/-- The nonce as the stub looks it up. -/
def rawNonce (payload : Value) : Option String :=
  ((payload.get "authorization").bind (·.get "nonce")).bind Value.asStr

theorem stubTxId_eq (req : SettleRequest) :
    stubTxId req = (rawNonce req.payload.payload).elim "stub-tx-unknown-nonce" ("stub-tx-" ++ ·) := by
  unfold stubTxId rawNonce
  cases ((req.payload.payload.get "authorization").bind (·.get "nonce")).bind Value.asStr <;> rfl

/-- An authorization that is written as an object names its nonce. -/
theorem nonce_of_decoded (carried : fromValue (.object members) = some (auth : Authorization)) :
    (members.lookup "nonce").bind Value.asStr = some auth.nonce := by
  change Struct.read (.map members) = some auth at carried
  simp only [Struct.read, Source.required, Source.field, Option.bind_eq_bind, Option.bind_eq_some_iff,
    Option.pure_def, Option.some.injEq] at carried
  obtain ⟨_, _, _, _, _, _, _, _, nonce, ⟨value, found, read⟩, _, _, _, _, _, _, _, _, rfl⟩ := carried
  rw [found]
  exact read

/-- The stub finds the nonce of the decoded payload, or none at all. -/
theorem rawNonce_of_decoded {nock : ExactNockchainPayload} (carried : fromValue payload = some nock) :
    (WrittenAsObjects payload → rawNonce payload = some nock.authorization.nonce) ∧
      (¬ WrittenAsObjects payload → rawNonce payload = none) := by
  cases payload with
  | object members =>
    have asked : rawNonce (.object members) =
        ((members.lookup "authorization").bind (·.get "nonce")).bind Value.asStr := rfl
    change Struct.read (.map members) = some nock at carried
    simp only [Struct.read, Source.required, Source.field, Option.bind_eq_bind, Option.bind_eq_some_iff,
      Option.pure_def, Option.some.injEq] at carried
    obtain ⟨_, _, auth, ⟨value, found, read⟩, _, _, rfl⟩ := carried
    rw [asked, found]
    cases value with
    | object inner =>
      exact ⟨fun _ => nonce_of_decoded read, fun other => absurd ⟨members, inner, rfl, found⟩ other⟩
    | null | bool flag | number digits | string text | array elements =>
      refine ⟨?_, fun _ => rfl⟩
      rintro ⟨_, _, same, named⟩
      obtain rfl := Value.object.inj same
      cases found.symm.trans named
  | null | bool value | number value | string value | array elements =>
    refine ⟨?_, fun _ => rfl⟩
    rintro ⟨_, _, same, _⟩
    cases same

/-- No nonce that was verified is the one that the stub makes up. -/
theorem nonce_of_admissible [Vesl] {nock : ExactNockchainPayload} (admissible : Admissible nock requirements) :
    nock.authorization.nonce ≠ "unknown-nonce" := by
  obtain ⟨_, _, _, digest, attested⟩ := admissible.attested
  have hashed := attested.signed
  simp only [x402SignMessageDigest, Outcome.map_ok] at hashed
  obtain ⟨belts, message, _⟩ := hashed
  obtain ⟨value, spelled, _⟩ := (signable_iff.mp ⟨belts, message⟩).nonce
  intro same
  rw [same] at spelled
  cases spelled

section Settlements

variable {Cache Store : Type} [Vesl] [ErrorText] [JsonSchema] [JsonText] [Base64] [ReplayCache Cache]
  [CatalogStore Store] {state : AppState Unit} {service other : Service Unit Cache Store}
  {arrival arrival' : Arrival}

/-- A broadcast under an id. -/
def broadcastAs (txId : String) : SettleResponse where
  success := true
  transaction := some { txId, status := "broadcast" }

/-- What the stub answers about a payment. -/
structure StubSettled (state : AppState Unit) (service : Service Unit Cache Store) (arrival : Arrival)
    (nock : ExactNockchainPayload) (txId : String) : Prop where
  carried : fromValue arrival.req.payload.payload = some nock
  answered : (serve state service arrival).1.settlement = some (broadcastAs txId)
  known : WrittenAsObjects arrival.req.payload.payload → txId = "stub-tx-" ++ nock.authorization.nonce
  unknown : ¬ WrittenAsObjects arrival.req.payload.payload → txId = "stub-tx-unknown-nonce"
  verified : nock.authorization.nonce ≠ "unknown-nonce"

theorem stub_settles (registry : state.schemeRegistry = .withDefaultHandlers) (stub : state.chain = stubChainClient)
    (settles : arrival.endpoint = .settle) (passes : Passes state service arrival) :
    ∃ nock, StubSettled state service arrival nock (stubTxId arrival.req) := by
  have passed : (verifyEnvelopeForSettle state arrival.now service.cache arrival.req).1 = .ok () := by
    simpa only [Passes, checkEnvelope, settles] using passes
  obtain ⟨nock, carried, admissible, _, _⟩ := verifyEnvelopeForSettle_ok registry passed
  obtain ⟨named, unnamed⟩ := rawNonce_of_decoded carried
  have looked := stubTxId_eq arrival.req
  refine ⟨nock, carried, ?_, fun objects => ?_, fun others => ?_, nonce_of_admissible admissible⟩
  · rw [serve_settlement settles, settleBody_verified registry passed, stub]
    rfl
  · rw [looked, named objects]
    rfl
  · rw [looked, unnamed others]
    rfl

/-- Two payments that the stub settles, in whatever states and at whatever times, are broadcast
under one id exactly if both are written as objects and carry one nonce, or neither is
written so: all that come as JSON arrays share the id of an unknown nonce. -/
theorem stub_ids (registry : state.schemeRegistry = .withDefaultHandlers) (stub : state.chain = stubChainClient)
    (settles : arrival.endpoint = .settle) (settles' : arrival'.endpoint = .settle)
    (passes : Passes state service arrival) (passes' : Passes state other arrival') :
    ∃ nock nock' txId txId', StubSettled state service arrival nock txId ∧
      StubSettled state other arrival' nock' txId' ∧
      (txId = txId' ↔
        (WrittenAsObjects arrival.req.payload.payload ↔ WrittenAsObjects arrival'.req.payload.payload) ∧
          (WrittenAsObjects arrival.req.payload.payload →
            nock.authorization.nonce = nock'.authorization.nonce)) := by
  obtain ⟨nock, settled⟩ := stub_settles registry stub settles passes
  obtain ⟨nock', settled'⟩ := stub_settles registry stub settles' passes'
  refine ⟨nock, nock', _, _, settled, settled', ?_⟩
  have same (nonce nonce' : String) : "stub-tx-" ++ nonce = "stub-tx-" ++ nonce' ↔ nonce = nonce' :=
    String.append_right_inj _
  have made : "stub-tx-unknown-nonce" = "stub-tx-" ++ "unknown-nonce" := by decide
  by_cases objects : WrittenAsObjects arrival.req.payload.payload <;>
    by_cases objects' : WrittenAsObjects arrival'.req.payload.payload
  · rw [settled.known objects, settled'.known objects', same]
    simp [objects, objects']
  · rw [settled.known objects, settled'.unknown objects', made, same]
    simp [objects, objects', settled.verified]
  · rw [settled.unknown objects, settled'.known objects', made, same]
    simp [objects, objects', settled'.verified.symm]
  · rw [settled.unknown objects, settled'.unknown objects']
    simp [objects, objects']

end Settlements

/-! ### One payment, as an object and as an array -/

namespace Transparent

open Crypto.Transparent Wallet

attribute [local instance] transparent transparent_lawful plainErrors plainSchemas plainText spelledBase64

/-- The payment of `original`, its fields written by position. -/
def byPosition : VerifyRequest where
  payload := { original.payload with
    payload := .array [toValue (payment authorization).signature, toValue authorization, .null] }
  requirements

theorem byPosition_carried : fromValue byPosition.payload.payload = some (payment authorization) := by
  change Struct.read (.seq [toValue (payment authorization).signature, toValue authorization, .null]) =
    some (payment authorization)
  simp only [Struct.read, Source.required, Source.defaulted, Source.field, List.getElem?_cons_zero,
    List.getElem?_cons_succ, Option.bind_some, fromValue_toValue]
  rfl

theorem byPosition_honest : Honest payer (payment authorization) byPosition :=
  { original_honest with carried := byPosition_carried }

theorem stub_ids_positional : ∃ nock nock' txId txId',
    StubSettled facilitator opened ⟨.settle, 1100, "", original⟩ nock txId ∧
    StubSettled facilitator opened ⟨.settle, 1101, "", byPosition⟩ nock' txId' ∧ txId ≠ txId' := by
  obtain ⟨nock, nock', txId, txId', settled, settled', one⟩ :=
    @stub_ids RecordLog InMemoryCatalogStore _ _ _ _ _ _ _ facilitator opened opened
      ⟨.settle, 1100, "", original⟩ ⟨.settle, 1101, "", byPosition⟩ rfl rfl rfl rfl
      (original_honest.settles rfl (original_window 1100 (by decide) (by decide)))
      (byPosition_honest.settles rfl (original_window 1101 (by decide) (by decide)))
  refine ⟨nock, nock', txId, txId', settled, settled', fun same => ?_⟩
  obtain ⟨members, auth, written, _⟩ := (one.mp same).1.mp ⟨_, _, rfl, rfl⟩
  cases written

end Transparent

end X402Nockchain.Facilitator
