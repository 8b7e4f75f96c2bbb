import X402Nockchain.Facilitator.Verify
import X402Nockchain.Wallet.Surrogate

/-! `/settle`: the envelope is verified once more, and the transaction that
travels beside it is submitted. -/

namespace X402Nockchain.Facilitator

open Foundation Foundation.Serde X402Types Crypto Wallet

variable {Chain Cache : Type}

/-! ### `GrpcChainClient` -/

/-- `nockchain_client_rs::ChainClient`, over the chain that it submits to. -/
structure NockChainClient [Nockchain] (Chain : Type) where
  submitAndWait : Chain → RawTx → (txId : String) → Except String Bool × Chain

/-- Read from the JSON payload, not from its decoded form. -/
def extractSignedRawTx [ErrorText] (req : SettleRequest) : Except ChainError SignedRawTx := do
  let rawField ← okOr (.txConstructionUnavailable
    ("PaymentPayload.payload.signedRawTx missing — clients must use the path-2B WalletBackend flow "
      ++ "(see docs/wallet-integration.md)")) (req.payload.payload.get "signedRawTx")
  okOr (.rejected
      s!"PaymentPayload.payload.signedRawTx is malformed: {ErrorText.decodeFailure rawField}")
    (fromValue rawField)

/-- What `settle` hands to the chain: the decoded transaction under its stated id. -/
def submission [ErrorText] [Nockchain] [Base64] (req : SettleRequest) :
    Except ChainError (RawTx × String) := do
  let signed ← extractSignedRawTx req
  let raw ← (rawTxFromSurrogate signed).mapError fun e =>
    .rejected s!"decode SignedRawTx surrogate: {e}"
  return (raw, signed.txId)

def grpcChainClient [ErrorText] [Nockchain] [Base64] (inner : NockChainClient Chain) :
    ChainClient Chain where
  settle chain req :=
    match submission req with
    | .error error => (.error error, chain)
    | .ok (raw, txId) =>
      match inner.submitAndWait chain raw txId with
      | (.error e, chain) => (.error (.transport s!"submit_and_wait: {e}"), chain)
      | (.ok accepted, chain) =>
        let status := if accepted then ChainStatus.accepted else .processing
        (.ok { txId, blockHeight := none, status }, chain)

/-! ### The handler -/

def chainErrorToFacilitator : ChainError → FacilitatorError
  | .transport message => { code := "chain_transport", message }
  | .rejected message => { code := "chain_rejected", message }
  | .txConstructionUnavailable message => { code := "chain_unimplemented", message }

def failure (error : FacilitatorError) : SettleResponse := { success := false, error := some error }

/-- The answer that an outcome of the chain client is turned into. -/
def chainAnswer : Except ChainError ChainSettle × Chain → SettleResponse × Chain
  | (.error error, chain) => (failure (chainErrorToFacilitator error), chain)
  | (.ok result, chain) => ({
      success := true
      transaction := some {
        txId := result.txId
        blockHeight := result.blockHeight
        status := result.status.asWireStr } }, chain)

/-- The body that `POST /settle` answers with, and the chain it leaves. -/
def settleBody [Vesl] [ReplayCache Cache] (state : AppState Chain) (now : UInt64) (cache : Cache)
    (chain : Chain) (req : SettleRequest) : SettleResponse × Chain :=
  match (verifyEnvelopeForSettle state now cache req).1 with
  | .error error => (failure error.toFacilitatorError, chain)
  | .ok () =>
    match state.schemeRegistry.handlerFor req.requirements.scheme req.requirements.network with
    | none =>
      (failure {
        code := "unknown_scheme"
        message := "scheme handler unavailable for settle" }, chain)
    | some handler => chainAnswer (handler.settle state.chain chain req)

/-- The answer to a submitted settlement. -/
def settled (txId : String) (accepted : Bool) : SettleResponse where
  success := true
  transaction := some {
    txId
    status := (if accepted then ChainStatus.accepted else .processing).asWireStr }

/-- How the outcome of a submission is answered. -/
def submittedAnswer (txId : String) : Except String Bool × Chain → SettleResponse × Chain
  | (.error e, chain) =>
    (failure (chainErrorToFacilitator (.transport s!"submit_and_wait: {e}")), chain)
  | (.ok accepted, chain) => (settled txId accepted, chain)

section Extraction

variable [ErrorText] {req : SettleRequest}

/-- An extracted transaction is the one of the decoded payload. -/
theorem extractSignedRawTx_ok (extracted : extractSignedRawTx req = .ok signed)
    (carried : fromValue req.payload.payload = some (nock : ExactNockchainPayload)) :
    nock.signedRawTx = some signed := by
  simp only [extractSignedRawTx, Outcome.bind_ok, Outcome.okOr_ok] at extracted
  obtain ⟨rawField, found, decoded⟩ := extracted
  cases payload : req.payload.payload with
  | object members =>
    rw [payload] at found carried
    change members.lookup "signedRawTx" = some rawField at found
    have present : rawField ≠ .null := by
      rintro rfl
      cases decoded
    have field : (fromValue rawField : Option (Option SignedRawTx)) = some (some signed) := by
      cases rawField <;> simp_all [fromValue]
    change Struct.read (.map members) = some nock at carried
    simp only [Struct.read, Source.defaulted, Source.field, found, field, Option.bind_eq_bind,
      Option.bind_eq_some_iff] at carried
    obtain ⟨_, _, _, _, _, same, built⟩ := carried
    obtain rfl := Option.some.inj same
    obtain rfl := Option.some.inj built
    rfl
  | _ => simp [payload, Value.get] at found

/-- The transaction of a serialized payload is found in its JSON. -/
theorem extractSignedRawTx_toValue {nock : ExactNockchainPayload}
    (payload : req.payload.payload = toValue nock) (carried : nock.signedRawTx = some signed) :
    extractSignedRawTx req = .ok signed := by
  have found : (toValue nock).get "signedRawTx" = some (toValue signed) := by
    change (present (Struct.fields nock)).lookup "signedRawTx" = _
    rw [lookup_present (by simp [Struct.fields])]
    simp [Struct.fields, List.lookup_cons, carried, skipNone]
  simp [extractSignedRawTx, payload, found]

theorem submission_ok_iff [Nockchain] [Base64] {raw : RawTx} : submission req = .ok (raw, txId) ↔
    ∃ signed, extractSignedRawTx req = .ok signed ∧ rawTxFromSurrogate signed = .ok raw ∧
      signed.txId = txId := by
  simp only [submission, Outcome.bind_ok, Outcome.mapError_ok, Outcome.pure_ok, Prod.mk.injEq]
  constructor
  · rintro ⟨signed, extracted, raw', decoded, rfl, same⟩
    exact ⟨signed, extracted, decoded, same⟩
  · rintro ⟨signed, extracted, decoded, same⟩
    exact ⟨signed, extracted, raw, decoded, rfl, same⟩

end Extraction

/-- A verified settlement carries a payload that the shipped handlers admit. -/
theorem verifyEnvelopeForSettle_ok [Vesl] [ErrorText] [ReplayCache Cache] {state : AppState Chain}
    {cache : Cache} {req : SettleRequest} (registry : state.schemeRegistry = .withDefaultHandlers)
    (passed : (verifyEnvelopeForSettle state now cache req).1 = .ok ()) :
    ∃ nock, fromValue req.payload.payload = some nock ∧ Admissible nock req.requirements ∧
      Shows state req nock.authorization ∧
      checkTimeWindow state now nock.authorization = .ok () := by
  rw [verifyEnvelopeForSettle_eq] at passed
  simp only [Outcome.bind_ok] at passed
  obtain ⟨⟨handler, auth⟩, screened, verified⟩ := passed
  obtain ⟨dispatched, window⟩ := screen_ok_iff.mp screened
  obtain ⟨_, _, _, found, extracted⟩ := preDispatch_ok_iff.mp dispatched
  rw [registry] at found
  obtain ⟨nock, carried, rfl, admissible⟩ := admissible_of_verified found extracted verified
  exact ⟨nock, carried, admissible, ⟨handler, dispatched⟩, window⟩

section Answers

variable [Vesl] [ErrorText] [Nockchain] [Base64] [ReplayCache Cache] {state : AppState Chain}
  {inner : NockChainClient Chain} {cache : Cache} {req : SettleRequest}

omit [Nockchain] [Base64] in
/-- A verified request goes to the chain client. -/
theorem settleBody_verified (registry : state.schemeRegistry = .withDefaultHandlers)
    (passed : (verifyEnvelopeForSettle state now cache req).1 = .ok ()) (chain : Chain) :
    settleBody state now cache chain req = chainAnswer (state.chain.settle chain req) := by
  obtain ⟨nock, _, _, ⟨handler, dispatched⟩, _⟩ := verifyEnvelopeForSettle_ok registry passed
  obtain ⟨_, _, _, found, _⟩ := preDispatch_ok_iff.mp dispatched
  rw [registry] at found
  obtain ⟨_, _, settles⟩ := shared_methods found
  simp only [settleBody, passed, registry, found, settles]

/-- A verified request whose transaction decodes is answered by the chain. -/
theorem settleBody_submitted {raw : RawTx} (registry : state.schemeRegistry = .withDefaultHandlers)
    (client : state.chain = grpcChainClient inner)
    (passed : (verifyEnvelopeForSettle state now cache req).1 = .ok ())
    (submitted : submission req = .ok (raw, txId)) (chain : Chain) :
    settleBody state now cache chain req = submittedAnswer txId (inner.submitAndWait chain raw txId) := by
  rw [settleBody_verified registry passed, client]
  simp only [grpcChainClient, submitted]
  match inner.submitAndWait chain raw txId with
  | (.error e, after) => rfl
  | (.ok accepted, after) => rfl

/-- A request that is not verified, or whose transaction does not decode, fails
and leaves the chain alone. -/
theorem settleBody_unsubmitted (registry : state.schemeRegistry = .withDefaultHandlers)
    (client : state.chain = grpcChainClient inner)
    (unsubmitted : (verifyEnvelopeForSettle state now cache req).1 = .ok () →
      ∃ error, submission req = .error error) (chain : Chain) :
    ∃ error, settleBody state now cache chain req = (failure error, chain) := by
  cases passed : (verifyEnvelopeForSettle state now cache req).1 with
  | error error =>
    refine ⟨error.toFacilitatorError, ?_⟩
    simp only [settleBody, passed]
  | ok done =>
    obtain ⟨error, failed⟩ := unsubmitted passed
    refine ⟨chainErrorToFacilitator error, ?_⟩
    rw [settleBody_verified registry passed, client]
    simp only [grpcChainClient, failed, chainAnswer]

/-- The two ways through the handler. -/
theorem settleBody_cases (now : UInt64) (cache : Cache) (chain : Chain) (req : SettleRequest)
    (registry : state.schemeRegistry = .withDefaultHandlers)
    (client : state.chain = grpcChainClient inner) :
    (∃ error, settleBody state now cache chain req = (failure error, chain)) ∨
    ((verifyEnvelopeForSettle state now cache req).1 = .ok () ∧ ∃ raw txId,
      submission req = .ok (raw, txId) ∧
      settleBody state now cache chain req =
        submittedAnswer txId (inner.submitAndWait chain raw txId)) := by
  by_cases unsubmitted : (verifyEnvelopeForSettle state now cache req).1 = .ok () →
      ∃ error, submission req = .error error
  · exact .inl (settleBody_unsubmitted registry client unsubmitted chain)
  · rw [Classical.not_imp] at unsubmitted
    obtain ⟨passed, submits⟩ := unsubmitted
    cases submitted : submission req with
    | error error => exact absurd ⟨error, submitted⟩ submits
    | ok found =>
      exact .inr ⟨passed, found.1, found.2, rfl,
        settleBody_submitted registry client passed submitted chain⟩

/-- A successful answer was given by the chain, for the request's own transaction. -/
theorem settleBody_success {chain : Chain} (registry : state.schemeRegistry = .withDefaultHandlers)
    (client : state.chain = grpcChainClient inner)
    (success : (settleBody state now cache chain req).1.success = true) :
    (verifyEnvelopeForSettle state now cache req).1 = .ok () ∧ ∃ raw txId accepted after,
      submission req = .ok (raw, txId) ∧ inner.submitAndWait chain raw txId = (.ok accepted, after) ∧
      settleBody state now cache chain req = (settled txId accepted, after) := by
  obtain ⟨error, answer⟩ | ⟨passed, raw, txId, submitted, answer⟩ :=
    settleBody_cases now cache chain req registry client
  · rw [answer] at success
    cases success
  · rcases outcome : inner.submitAndWait chain raw txId with ⟨e | accepted, after⟩
    · rw [answer, outcome] at success
      cases success
    · exact ⟨passed, raw, txId, accepted, after, submitted, outcome, by rw [answer, outcome]; rfl⟩

omit [Vesl] [ErrorText] [Nockchain] [Base64] [ReplayCache Cache] in
theorem submittedAnswer_chain (txId : String) (outcome : Except String Bool × Chain) :
    (submittedAnswer txId outcome).2 = outcome.2 := by
  obtain ⟨e | accepted, after⟩ := outcome <;> rfl

end Answers

/-! ### The stand-in's chain -/

namespace Transparent

attribute [local instance] transparentChain

/-- A chain of the transaction ids that it includes. It includes whatever is
submitted, each id once. -/
def ledger : NockChainClient (List String) where
  submitAndWait included _ txId :=
    (.ok true, if txId ∈ included then included else included ++ [txId])

end Transparent

end X402Nockchain.Facilitator
