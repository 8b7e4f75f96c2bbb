import X402Nockchain.Facilitator.Honest
import X402Nockchain.Facilitator.Settle
import X402Nockchain.Wallet.Fulfilment

/-! What ties a submitted transaction to the authorization beside it. -/

namespace X402Nockchain.Facilitator

open Foundation Foundation.Serde X402Types Crypto Wallet

variable {Chain Cache : Type}

/-- The transaction is the one that the payload carries, under its own id. -/
structure Relays [Nockchain] [Base64] (req : SettleRequest) (nock : ExactNockchainPayload) (raw : RawTx)
    (txId : String) : Prop where
  carried : fromValue req.payload.payload = some nock
  transaction : ∃ signed, nock.signedRawTx = some signed ∧ rawTxFromSurrogate signed = .ok raw ∧
    signed.txId = txId

/-- The envelope checks accept a payload with any transaction in the place of its own. -/
theorem Admissible.withTransaction [Vesl] {nock : ExactNockchainPayload}
    (admissible : Admissible nock requirements) (signedRawTx : Option SignedRawTx) :
    Admissible { nock with signedRawTx } requirements where
  recipient := admissible.recipient
  attested := by
    obtain ⟨pk, chal, sig, digest, attested⟩ := admissible.attested
    exact ⟨pk, chal, sig, digest, attested.decoded, attested.bound, attested.signed, attested.verified⟩
  capped := admissible.capped
  native := admissible.native

/-- The same request with another transaction beside the authorization. -/
def withTransaction (req : SettleRequest) (nock : ExactNockchainPayload)
    (signedRawTx : Option SignedRawTx) : SettleRequest :=
  { req with payload := { req.payload with payload := toValue { nock with signedRawTx } } }

section Binding

variable [Vesl] [ErrorText] [ReplayCache Cache] {state : AppState Chain} {now : UInt64} {cache : Cache}
  {req : SettleRequest}

/-- No check of the envelope looks at the transaction. -/
theorem verifyEnvelopeForSettle_withTransaction
    (registry : state.schemeRegistry = .withDefaultHandlers)
    (carried : fromValue req.payload.payload = some nock)
    (passed : (verifyEnvelopeForSettle state now cache req).1 = .ok ())
    (signedRawTx : Option SignedRawTx) :
    (verifyEnvelopeForSettle state now cache (withTransaction req nock signedRawTx)).1 = .ok () := by
  obtain ⟨nock', carried', admissible, ⟨handler, dispatched⟩, window⟩ :=
    verifyEnvelopeForSettle_ok registry passed
  obtain rfl := Option.some.inj (carried.symm.trans carried')
  obtain ⟨version, scheme, network, found, _⟩ := preDispatch_ok_iff.mp dispatched
  have reread : fromValue (withTransaction req nock signedRawTx).payload.payload =
      some { nock with signedRawTx } := fromValue_toValue _
  obtain ⟨extracts, verifies, _⟩ := shared_methods (registry ▸ found)
  have screened : screen state now (withTransaction req nock signedRawTx) =
      .ok (handler, nock.authorization) := by
    refine screen_ok_iff.mpr ⟨preDispatch_ok_iff.mpr ⟨version, scheme, network, found, ?_⟩, window⟩
    rw [extracts]
    exact extractNockchainAuthorization_ok_iff.mpr ⟨_, reread, rfl⟩
  rw [verifyEnvelopeForSettle_eq, screened]
  change handler.verify _ _ = _
  rw [verifies]
  exact verifyNockchain_ok_iff.mpr ⟨_, reread, admissible.withTransaction signedRawTx⟩

variable [Nockchain] [LawfulNockchain] [Base64] [LawfulBase64] {inner : NockChainClient Chain}

/-- `/settle` relays the transaction of the payload, and any other in its place
would pass the same checks. It is the authorized payment if the wallet made it
for this authorization. -/
theorem settlement_relays (now : UInt64) (cache : Cache) (req : SettleRequest)
    (registry : state.schemeRegistry = .withDefaultHandlers)
    (client : state.chain = grpcChainClient inner) :
    (∀ raw txId, (verifyEnvelopeForSettle state now cache req).1 = .ok () →
      submission req = .ok (raw, txId) → ∃ nock, Relays req nock raw txId ∧
        (∀ other, (verifyEnvelopeForSettle state now cache (withTransaction req nock other)).1 = .ok ()) ∧
        ∀ [SeedsEncode] (wallet : NockchainWalletClient) requirements payment,
          wallet.authorizeAndSign nock.authorization requirements = .ok payment →
          nock.signedRawTx = some payment.signedRawTx → Fulfils raw nock.authorization) ∧
    ∀ chain, (settleBody state now cache chain req).1.success = true →
      (verifyEnvelopeForSettle state now cache req).1 = .ok () ∧ ∃ raw txId accepted after,
        submission req = .ok (raw, txId) ∧ inner.submitAndWait chain raw txId = (.ok accepted, after) ∧
        settleBody state now cache chain req = (settled txId accepted, after) := by
  refine ⟨fun raw txId passed submitted => ?_, fun chain => settleBody_success registry client⟩
  obtain ⟨nock, carried, _⟩ := verifyEnvelopeForSettle_ok registry passed
  obtain ⟨signed, extracted, decoded, same⟩ := submission_ok_iff.mp submitted
  have own := extractSignedRawTx_ok extracted carried
  refine ⟨nock, ⟨carried, signed, own, decoded, same⟩,
    verifyEnvelopeForSettle_withTransaction registry carried passed, ?_⟩
  intro _ wallet requirements payment authorized shipped
  obtain ⟨raw', decoded', fulfils⟩ := NockchainWalletClient.authorizeAndSign_fulfils authorized
  obtain rfl := Option.some.inj (own.symm.trans shipped)
  obtain rfl := Except.ok.inj (decoded.symm.trans decoded')
  exact fulfils

end Binding

/-! ### A payment to somebody else -/

namespace Transparent

open Crypto.Transparent Wallet.Transparent NockchainWalletClient

attribute [local instance] transparent transparent_lawful plainErrors transparentChain
  transparentChain_lawful spelledBase64 spelledBase64_lawful spelledSeeds

/-- The default facilitator over `ledger`. -/
def chainFacilitator : AppState (List String) := .new (grpcChainClient ledger)

theorem chainFacilitator_chain : chainFacilitator.chain = grpcChainClient ledger := rfl

/-- What the wallet answers for `auth`. -/
def walletPayment (auth : Authorization) : AuthorizedPayment :=
  match wallet.authorizeAndSign auth requirements with
  | .ok payment => payment
  | .error _ => {
      envelopeSignature := (payment auth).signature
      signedRawTx := { version := "v1", txId := "1", spends := [] } }

/-- Five nicks of `spending`, sent to another key. -/
def diverted : Authorization := { spending with «to» := "3" }

/-- The wallet pays any recipient whose hash is spelled in base58. -/
theorem walletPayment_eq {auth : Authorization} (redirected : auth = { spending with «to» := text })
    (recipient : hashFromBase58 text = .ok pkh) (spelled : Spells text) :
    wallet.authorizeAndSign auth requirements = .ok (walletPayment auth) := by
  obtain ⟨payment, authorized⟩ : ∃ payment, wallet.authorizeAndSign auth requirements = .ok payment := by
    subst redirected
    have signable : Signable { spending with «to» := text } :=
      { spending_signable with recipient := spelled }
    have value : Decimal.parseU64 "5" = some 5 := by decide
    have fee : Decimal.parseU64 "1" = some 1 := by decide
    have change : hashFromBase58 "4" = .ok ([3] : List UInt8) := rfl
    exact authorizes_nine { spending with «to» := text } rfl rfl value fee (by decide) signable recipient
      change requirements
  unfold walletPayment
  rw [authorized]

/-- A request of `payer` for `spending` beside the wallet's payment for `auth`. -/
def carrying (auth : Authorization) : SettleRequest :=
  request (payment spending (some (walletPayment auth).signedRawTx))

theorem carrying_honest (auth : Authorization) :
    Honest payer (payment spending (some (walletPayment auth).signedRawTx)) (carrying auth) :=
  honest spending_signable rfl rfl rfl _

theorem carrying_verified (auth : Authorization) :
    (verifyEnvelopeForSettle chainFacilitator 1000 ({} : RecordLog) (carrying auth)).1 = .ok () :=
  (carrying_honest auth).settles rfl (in_window rfl rfl rfl 1000 (by decide) (by decide))

/-- The wallet's payment is submitted as it was built. -/
theorem carrying_submitted {auth : Authorization} {text : String} {pkh : Hash}
    (redirected : auth = { spending with «to» := text }) (recipient : hashFromBase58 text = .ok pkh)
    (spelled : Spells text) :
    ∃ plan raw name recipientLockRoot change witness, wallet.planSpend auth = .ok plan ∧
      Built auth plan raw name recipientLockRoot change witness ∧
      submission (carrying auth) = .ok (raw, (walletPayment auth).signedRawTx.txId) := by
  obtain ⟨plan, raw, planned, constructed, encoded, _⟩ :=
    authorizeAndSign_ok (walletPayment_eq redirected recipient spelled)
  obtain ⟨name, recipientLockRoot, change, witness, built⟩ := buildRawTx_ok constructed
  refine ⟨plan, raw, name, recipientLockRoot, change, witness, planned, built, ?_⟩
  exact submission_ok_iff.mpr ⟨_, extractSignedRawTx_toValue rfl rfl,
    rawTxFromSurrogate_surrogateFromRawTx built.readable encoded, rfl⟩

theorem spending_submitted : ∃ raw,
    submission (carrying spending) = .ok (raw, (walletPayment spending).signedRawTx.txId) := by
  have unchanged : spending = { spending with «to» := "2" } := rfl
  obtain ⟨_, raw, _, _, _, _, _, _, submitted⟩ :=
    carrying_submitted unchanged payee_hash spending_signable.recipient
  exact ⟨raw, submitted⟩

/-- The lock root of a base58 text, for the stand-in. -/
theorem locked {text : String} {pkh lockRoot : Hash} {bytes : List UInt8}
    (decoded : hashFromBase58 text = .ok pkh) (hashed : lockHash (simplePkh pkh) = .ok lockRoot)
    (spelled : readBase58 text = .ok bytes) : lockRoot = (0 :: bytes : List UInt8) := by
  obtain rfl : bytes = pkh := Except.ok.inj (spelled.symm.trans decoded)
  exact (Except.ok.inj hashed).symm

/-- The payment that the wallet made for this authorization. -/
theorem settlement_relays_own_payment : ∃ raw txId,
    submission (carrying spending) = .ok (raw, txId) ∧ Fulfils raw spending := by
  have unchanged : spending = { spending with «to» := "2" } := rfl
  obtain ⟨raw, submitted⟩ := spending_submitted
  obtain ⟨nock, relays, _, fulfilled⟩ :=
    (settlement_relays 1000 ({} : RecordLog) (carrying spending) rfl chainFacilitator_chain).1 raw _
      (carrying_verified spending) submitted
  have same : nock = payment spending (some (walletPayment spending).signedRawTx) :=
    Option.some.inj (relays.carried.symm.trans (fromValue_toValue _))
  subst same
  exact ⟨raw, _, submitted, fulfilled wallet requirements (walletPayment spending)
    (walletPayment_eq unchanged payee_hash spending_signable.recipient) rfl⟩

/-- Beside an authorization of five nicks to key `2`, a payment of them to key `3`
passes every check, is submitted, and is answered as accepted. -/
theorem settles_another_payment : ∃ raw txId,
    (verifyEnvelopeForSettle chainFacilitator 1000 ({} : RecordLog) (carrying diverted)).1 = .ok () ∧
    submission (carrying diverted) = .ok (raw, txId) ∧ ¬ Fulfils raw spending ∧
    settleBody chainFacilitator 1000 ({} : RecordLog) [] (carrying diverted) =
      (settled txId true, [txId]) := by
  obtain ⟨plan, raw, name, root, change, witness, planned, built, submitted⟩ :=
    carrying_submitted (rfl : diverted = _) (show hashFromBase58 "3" = .ok ([2] : List UInt8) from rfl)
      ⟨2, rfl, by decide⟩
  refine ⟨raw, _, carrying_verified diverted, submitted, ?_, ?_⟩
  · intro fulfils
    obtain ⟨pkh, lockRoot, value, recipient, hashed, text, covered⟩ := fulfils.paid
    obtain ⟨pkh', recipient', hashed'⟩ := built.recipient
    have owed : lockRoot = ([0, 1] : List UInt8) := locked recipient hashed rfl
    have paid : root = ([0, 2] : List UInt8) := locked recipient' hashed' rfl
    have kept : ∀ seed ∈ change, seed.lockRoot = ([0, 3] : List UInt8) := by
      obtain ⟨_, rfl⟩ | ⟨_, pkh, changeRoot, recipient, hashed, rfl⟩ := changeSeeds_ok built.left
      · simp
      · have spelled : changeRoot = ([0, 3] : List UInt8) := locked recipient hashed rfl
        simpa using spelled
    have nothing : raw.giftsTo lockRoot = 0 := by
      have elsewhere : (change.filter fun seed => seed.lockRoot = lockRoot) = [] := by
        apply List.filter_eq_nil_iff.mpr
        intro seed member
        rw [kept seed member, owed]
        decide
      have different : ([0, 2] : List UInt8) ≠ [0, 1] := by decide
      rw [built.giftsTo, elsewhere, paid, owed, if_neg different]
      rfl
    have five : Decimal.parseU64 "5" = some 5 := by decide
    obtain rfl := Option.some.inj (five.symm.trans text)
    rw [nothing] at covered
    exact absurd covered (by decide)
  · exact settleBody_submitted rfl chainFacilitator_chain (carrying_verified diverted) submitted []

end Transparent

end X402Nockchain.Facilitator
