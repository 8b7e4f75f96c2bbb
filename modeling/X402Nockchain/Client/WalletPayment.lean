import X402Nockchain.Client.ChangeLock
import X402Nockchain.Client.HonestPayment
import X402Nockchain.Facilitator.SettlementBinding
import X402Nockchain.Facilitator.VerifyThenSettle

/-! A payment of the reference wallet on its whole way: built by
`build_exact_nockchain_payload_with_wallet`, verified, and settled as the transaction
that the wallet assembled. -/

namespace X402Nockchain.Client

open Foundation Foundation.Serde X402Types Crypto Wallet Facilitator NockchainWalletClient
open Storage (CatalogStore)

/-- What the shipped handlers serve. -/
structure Served (requirements : PaymentRequirements) : Prop where
  scheme : requirements.scheme = "exact" ∨ requirements.scheme = "upto"
  network : startsWith requirements.network "nockchain:" = true
  native : requirements.asset = nockchainNativeAsset

section Payments

variable [Vesl] [Nockchain]

/-- The two signing libraries derive one public key from the secret key of a wallet. -/
def KeysAgree (wallet : NockchainWalletClient) : Prop :=
  ∀ key, wallet.cryptoSecretKey = .ok key → ∃ bytes,
    Vesl.toBytes (Vesl.publicKey key) = .ok bytes ∧ Base58.decode wallet.payerPubkeyB58 = .ok bytes

/-- The envelope signature of a wallet is one of the key that its PKH is made of. -/
theorem attested_of_signEnvelope [LawfulVesl] {wallet : NockchainWalletClient} {nock : ExactNockchainPayload}
    (agree : KeysAgree wallet) (own : nock.authorization.from = wallet.payerPkh)
    (signed : wallet.signEnvelope nock.authorization = .ok nock.signature) :
    ∃ pk chal sig digest, Attested nock pk chal sig digest := by
  simp only [signEnvelope, Outcome.bind_ok, Outcome.mapError_ok, Outcome.pure_ok] at signed
  obtain ⟨digest, hashed, key, rebuilt, ⟨chal, sig⟩, sealed, json, encoded, same⟩ := signed
  obtain ⟨bytes, serialized, decoded⟩ := agree key rebuilt
  obtain ⟨bytes', decoded', pkh⟩ := wallet.envelopeForm
  obtain rfl := Except.ok.inj (decoded.symm.trans decoded')
  refine ⟨Vesl.publicKey key, chal, sig, digest, ?_, ⟨bytes, serialized, ?_⟩, hashed,
    LawfulVesl.verify_sign sealed⟩
  · rw [← same, x402ToVesl_veslToX402, LawfulVesl.decode_encode encoded]
  · rw [own, payerPkh, pkh]

variable [SeedsEncode] [Base64]

/-- What the wallet builder built: the plan and the transaction of the wallet beside its
envelope signature. -/
structure BuiltPayment (wallet : NockchainWalletClient) (nock : ExactNockchainPayload) (plan : SpendPlan)
    (raw : RawTx) : Prop where
  planned : wallet.planSpend nock.authorization = .ok plan
  assembled : wallet.buildRawTx nock.authorization plan = .ok raw
  shipped : ∃ signed, nock.signedRawTx = some signed ∧ surrogateFromRawTx raw = .ok signed
  sealed : wallet.signEnvelope nock.authorization = .ok nock.signature

variable {wallet : NockchainWalletClient} {requirements : PaymentRequirements} {notes : List NoteRef}
  {echoExtensions : Option (List (String × Value))} {nonce : RandomBytes}

theorem builtPayment_of_built
    (built : buildExactNockchainPayloadWithWallet requirements wallet.backend notes echoExtensions now nonce =
      .ok payload) :
    ∃ nock plan raw, payload = payloadFor requirements nock echoExtensions ∧
      nock.authorization =
        authorizationFor requirements wallet.payerPkh (generateNonceBase58 nonce) notes now ∧
      BuiltPayment wallet nock plan raw := by
  obtain ⟨payment, authorized, rfl⟩ := buildExactNockchainPayloadWithWallet_ok_iff.mp built
  have answered : wallet.authorizeAndSign _ requirements = .ok payment := authorized
  obtain ⟨plan, raw, planned, assembled, encoded, sealed⟩ := authorizeAndSign_ok answered
  exact ⟨_, plan, raw, rfl, rfl, planned, assembled, ⟨payment.signedRawTx, rfl, encoded⟩, sealed⟩

/-- The wallet has parsed the amount, so it is within its own cap. -/
theorem BuiltPayment.admissible [LawfulVesl] {nock : ExactNockchainPayload}
    (built : BuiltPayment wallet nock plan raw) (agree : KeysAgree wallet)
    (asked : nock.authorization = authorizationFor requirements wallet.payerPkh text notes now)
    (native : requirements.asset = nockchainNativeAsset) : Admissible nock requirements where
  recipient := by rw [asked]; rfl
  attested := attested_of_signEnvelope agree (by rw [asked]; rfl) built.sealed
  capped := by
    obtain ⟨_, _, value, _⟩ := planSpend_ok_iff.mp built.planned
    obtain ⟨cap, capText⟩ := Decimal.parseU128_of_parseU64 value
    have same : nock.authorization.value = requirements.maxAmountRequired := by rw [asked]; rfl
    exact ⟨cap, cap, capText, same ▸ capText, Nat.le_refl cap⟩
  native := native

/-- The transaction in the payload is the one that the wallet assembled. -/
theorem BuiltPayment.submission [ErrorText] [LawfulNockchain] [LawfulBase64] {nock : ExactNockchainPayload}
    {req : SettleRequest} (built : BuiltPayment wallet nock plan raw)
    (carried : req.payload.payload = toValue nock) :
    Facilitator.submission req = .ok (raw, hashToBase58 raw.id) := by
  obtain ⟨signed, shipped, encoded⟩ := built.shipped
  obtain ⟨name, recipientLockRoot, change, witness, shape⟩ := buildRawTx_ok built.assembled
  refine submission_ok_iff.mpr ⟨signed, extractSignedRawTx_toValue carried shipped,
    rawTxFromSurrogate_surrogateFromRawTx shape.readable encoded, ?_⟩
  simp only [surrogateFromRawTx, Outcome.bind_ok, Outcome.pure_ok] at encoded
  obtain ⟨_, _, entries, _, rfl⟩ := encoded
  rfl

/-- The request of a client, as the facilitator reads it. -/
def asRead (payload : PaymentPayload Value) (requirements : PaymentRequirements) : VerifyRequest :=
  VerifyRequest.withoutNulls { payload, requirements }

omit [Nockchain] [SeedsEncode] [Base64] in
theorem asRead_screened [ErrorText] {Chain : Type} {state : AppState Chain} {nock : ExactNockchainPayload}
    (registry : state.schemeRegistry = .withDefaultHandlers) (served : Served requirements)
    (window : checkTimeWindow state now nock.authorization = .ok ()) :
    ∃ handler, screen state now (asRead (payloadFor requirements nock echoExtensions) requirements) =
        .ok (handler, nock.authorization) ∧ handler.verify = verifyNockchain := by
  obtain ⟨handler, found, extracts, verifies⟩ := @handlerFor_shipped _ _ _ _ Chain served.network served.scheme
  refine ⟨handler, screen_ok_iff.mpr ⟨preDispatch_ok_iff.mpr ⟨rfl, rfl, rfl, ?_, ?_⟩, window⟩, verifies⟩
  · rw [registry]
    exact found
  · rw [extracts]
    exact extractNockchainAuthorization_ok_iff.mpr ⟨nock, fromValue_toValue nock, rfl⟩

section Services

variable [ErrorText] [JsonSchema] [JsonText] {Chain Cache Store : Type} [LawfulReplayCache Cache]
  [CatalogStore Store] [LawfulVesl] [LawfulNockchain] [LawfulBase64]

/-- A payment that the reference wallet built passes `/verify`; and when its `/settle`
comes within the window, whatever was served in between, the transaction that the wallet
assembled for the payload is submitted, and the chain's outcome is the answer. -/
theorem wallet_payment_settles {state : AppState Chain} {inner : NockChainClient Chain}
    {service : Service Chain Cache Store}
    (registry : state.schemeRegistry = .withDefaultHandlers) (client : state.chain = grpcChainClient inner)
    (agree : KeysAgree wallet) (served : Served requirements)
    (built : buildExactNockchainPayloadWithWallet requirements wallet.backend notes echoExtensions now nonce =
      .ok payload)
    (clocks : ClocksAgree state.clockSkewTolerance now now')
    (fresh : ¬ Consumed state now' service.cache
      (authorizationFor requirements wallet.payerPkh (generateNonceBase58 nonce) notes now)) :
    ∃ nock plan raw, payload = payloadFor requirements nock echoExtensions ∧
      nock.authorization = authorizationFor requirements wallet.payerPkh (generateNonceBase58 nonce) notes now ∧
      BuiltPayment wallet nock plan raw ∧ Fulfils raw nock.authorization ∧
      ∀ lastUpdated between later lastUpdated', now' ≤ later →
        later.toNat ≤ (saturatingAdd now requirements.maxTimeoutSeconds).toNat +
          state.clockSkewTolerance.asSecs.toNat →
        let req := asRead payload requirements
        let first : Arrival := ⟨.verify, now', lastUpdated, req⟩
        let last : Arrival := ⟨.settle, later, lastUpdated', req⟩
        let served := (serve state).after service (first :: between)
        let outcome := submittedAnswer (hashToBase58 raw.id)
          (inner.submitAndWait served.chain raw (hashToBase58 raw.id))
        (serve state service first).1.verdict = some { valid := true } ∧
          (serve state served last).1.settlement = some outcome.1 ∧
          (serve state served last).2.chain = outcome.2 := by
  obtain ⟨nock, plan, raw, rfl, asked, payment⟩ := builtPayment_of_built built
  obtain ⟨name, recipientLockRoot, change, witness, shape⟩ := buildRawTx_ok payment.assembled
  refine ⟨nock, plan, raw, rfl, asked, payment, shape.fulfils payment.planned, ?_⟩
  intro lastUpdated between later lastUpdated' order ends req first last served' outcome
  have admissible := payment.admissible agree asked served.native
  have verified : verifyNockchain req.payload req.requirements = .ok () :=
    verifyNockchain_ok_iff.mpr ⟨nock, fromValue_toValue nock, admissible.recipient, admissible.attested,
      admissible.capped, admissible.native⟩
  have opened : checkTimeWindow state now' nock.authorization = .ok () := by
    rw [asked]
    exact window_of_clocksAgree clocks ⟨nonce, nonce, nonce⟩ requirements wallet.payerPkh
  have accepted : (verifyEnvelope state now' service.cache req).1 = .ok () := by
    obtain ⟨handler, screened, verifies⟩ := asRead_screened registry served opened
    exact verifyEnvelope_ok_iff.mpr ⟨handler, _, screened, asked ▸ fresh, verifies ▸ verified⟩
  have passed : (verifyEnvelopeForSettle state later served'.cache req).1 = .ok () := by
    obtain ⟨handler, screened, verifies⟩ :=
      asRead_screened registry served (checkTimeWindow_later opened order (asked ▸ ends))
    exact verifyEnvelopeForSettle_ok_iff.mpr ⟨handler, _, screened, verifies ▸ verified⟩
  have body : settleBody state later served'.cache served'.chain req = outcome :=
    settleBody_submitted registry client passed (payment.submission rfl) served'.chain
  refine ⟨?_, ?_, ?_⟩
  · rw [serve_verdict rfl, accepted]
    rfl
  · rw [serve_settlement rfl, body]
  · simp only [serve, last, settleHandler_eq, passed, body]

end Services

end Payments

/-! ### The note of nine, settled late in its window -/

namespace Transparent

open Crypto.Transparent Wallet.Transparent Facilitator.Transparent

attribute [local instance] transparent transparent_lawful plainErrors plainSchemas plainText transparentChain
  transparentChain_lawful spelledBase64 spelledBase64_lawful spelledSeeds

theorem wallet_keys_agree : KeysAgree wallet := by
  intro key rebuilt
  obtain rfl : (7 : Belt) = key := Except.ok.inj rebuilt
  exact ⟨pubkeyBytes 7, rfl, Base58.decode_encode _⟩

theorem requirements_served : Served requirements := ⟨.inl rfl, fakenet_nockchain, rfl⟩

/-- A facilitator over `ledger`, which has served nothing yet. -/
def unserved : Service (List String) RecordLog Storage.InMemoryCatalogStore where
  cache := {}
  chain := []
  catalog := .new

/-- Verified, and settled by the transaction that the wallet has put into the payload. -/
theorem wallet_payment_settles_nine : ∃ nock plan raw,
    paidWithNine = .ok (payloadFor requirements nock none) ∧
    BuiltPayment wallet nock plan raw ∧
    let req := asRead (payloadFor requirements nock none) requirements
    let first : Arrival := ⟨.verify, 1060, "", req⟩
    (Facilitator.serve chainFacilitator unserved first).1.verdict = some { valid := true } ∧
    (Facilitator.serve chainFacilitator ((Facilitator.serve chainFacilitator).after unserved [first])
      ⟨.settle, 1120, "", req⟩).1.settlement = some (settled (hashToBase58 raw.id) true) := by
  obtain ⟨payload, built⟩ := nine_built
  have clocks : ClocksAgree chainFacilitator.clockSkewTolerance 1000 1060 := ⟨by decide, by decide⟩
  have fresh : ¬ Consumed chainFacilitator 1060 unserved.cache
      (authorizationFor requirements wallet.payerPkh (generateNonceBase58 zeroes) [noteOfNine] 1000) :=
    @LawfulReplayCache.not_remembered_new RecordLog _ _ _ _
  obtain ⟨nock, plan, raw, rfl, _, payment, _, settles⟩ := wallet_payment_settles rfl chainFacilitator_chain
    wallet_keys_agree requirements_served built clocks fresh
  obtain ⟨verdict, settlement, _⟩ := settles "" [] 1120 "" (by decide) (by decide)
  exact ⟨nock, plan, raw, built, payment, verdict, settlement⟩

end Transparent

end X402Nockchain.Client
