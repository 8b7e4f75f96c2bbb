import X402Nockchain.Foundation.Text
import X402Nockchain.Crypto.Verifier
import X402Nockchain.Facilitator.Chain
import X402Nockchain.Facilitator.Error

/-! Per-`(scheme, network)` dispatch and the two handlers that ship. -/

namespace X402Nockchain.Facilitator

open Foundation Foundation.Serde X402Types Crypto

/-- `trait SchemeHandler`, over the chain state that `settle` acts on. -/
structure SchemeHandler (Chain : Type) where
  scheme : String
  networkPrefix : String
  extractAuthorization : PaymentPayload Value → Except VerifyError Authorization
  verify : PaymentPayload Value → PaymentRequirements → Except VerifyError Unit
  settle : ChainClient Chain → Chain → SettleRequest → Except ChainError ChainSettle × Chain

/-- Handlers in order of registration. -/
structure SchemeHandlerRegistry (Chain : Type) where
  handlers : List (SchemeHandler Chain) := []

namespace SchemeHandlerRegistry

variable {Chain : Type}

def new : SchemeHandlerRegistry Chain := {}

def register (registry : SchemeHandlerRegistry Chain) (handler : SchemeHandler Chain) :
    SchemeHandlerRegistry Chain := ⟨registry.handlers ++ [handler]⟩

/-- First match; exact on `scheme`, by prefix on `network`. -/
def handlerFor (registry : SchemeHandlerRegistry Chain) (scheme network : String) :
    Option (SchemeHandler Chain) :=
  registry.handlers.find? fun handler =>
    handler.scheme == scheme && startsWith network handler.networkPrefix

end SchemeHandlerRegistry

def nockchainNativeAsset : String := "NOCK"

/-- `authorization.value` may not exceed `requirements.max_amount_required`. -/
def checkMaxAmount (auth : Authorization) (req : PaymentRequirements) : Except VerifyError Unit := do
  let value ← okOr (spec "invalid_payload" s!"authorization.value `{auth.value}` is not a u128")
    (Decimal.parseU128 auth.value)
  let cap ← okOr
    (spec "invalid_payload" s!"requirements.max_amount_required `{req.maxAmountRequired}` is not a u128")
    (Decimal.parseU128 req.maxAmountRequired)
  ensure (¬ cap < value) (.overMaxAmount auth.value req.maxAmountRequired)

def checkAsset (req : PaymentRequirements) : Except VerifyError Unit :=
  ensure (req.asset = nockchainNativeAsset) (.assetMismatch nockchainNativeAsset req.asset)

section Handlers

variable [Vesl] [ErrorText]

/-- The payload decode that every handler method begins with. -/
def decodePayload (payload : PaymentPayload Value) : Except VerifyError ExactNockchainPayload :=
  okOr (spec "invalid_payload" s!"payload decode failed: {ErrorText.decodeFailure payload.payload}")
    (fromValue payload.payload)

def extractNockchainAuthorization (payload : PaymentPayload Value) :
    Except VerifyError Authorization := do
  let nock ← decodePayload payload
  return nock.authorization

/-- The body of `verify`, the same in both handlers. -/
def verifyNockchain (payload : PaymentPayload Value) (requirements : PaymentRequirements) :
    Except VerifyError Unit := do
  let nock ← decodePayload payload
  ensure (nock.authorization.to = requirements.payTo)
    (spec "invalid_recipient" "authorization.to does not match requirements.payTo")
  (verifyPayment payload requirements).mapError fun error => spec "invalid_signature" error.display
  checkMaxAmount nock.authorization requirements
  checkAsset requirements

def exactNockchainHandler {Chain : Type} : SchemeHandler Chain where
  scheme := "exact"
  networkPrefix := "nockchain:"
  extractAuthorization := extractNockchainAuthorization
  verify := verifyNockchain
  settle chain state request := chain.settle state request

def uptoNockchainHandler {Chain : Type} : SchemeHandler Chain where
  scheme := "upto"
  networkPrefix := "nockchain:"
  extractAuthorization := extractNockchainAuthorization
  verify := verifyNockchain
  settle chain state request := chain.settle state request

def SchemeHandlerRegistry.withDefaultHandlers {Chain : Type} : SchemeHandlerRegistry Chain :=
  (new.register exactNockchainHandler).register uptoNockchainHandler

/-- What a payment must satisfy to pass a handler. -/
structure Admissible (nock : ExactNockchainPayload) (requirements : PaymentRequirements) : Prop where
  recipient : nock.authorization.to = requirements.payTo
  attested : ∃ pk chal sig digest, Attested nock pk chal sig digest
  capped : ∃ value cap, Decimal.parseU128 nock.authorization.value = some value ∧
    Decimal.parseU128 requirements.maxAmountRequired = some cap ∧ value ≤ cap
  native : requirements.asset = nockchainNativeAsset

omit [Vesl] [ErrorText] in
theorem checkMaxAmount_ok_iff {auth : Authorization} {req : PaymentRequirements} {done : Unit} :
    checkMaxAmount auth req = .ok done ↔ ∃ value cap, Decimal.parseU128 auth.value = some value ∧
      Decimal.parseU128 req.maxAmountRequired = some cap ∧ value ≤ cap := by
  simp only [checkMaxAmount, Outcome.bind_ok, Outcome.okOr_ok, Outcome.ensure_ok, Nat.not_lt]
  constructor
  · rintro ⟨value, valueText, cap, capText, below⟩
    exact ⟨value, cap, valueText, capText, below⟩
  · rintro ⟨value, cap, valueText, capText, below⟩
    exact ⟨value, valueText, cap, capText, below⟩

omit [Vesl] in
theorem decodePayload_of_carried (carried : fromValue payload.payload = some nock) :
    decodePayload payload = .ok nock := by
  rw [decodePayload, carried, okOr]

omit [Vesl] in
theorem extractNockchainAuthorization_ok_iff : extractNockchainAuthorization payload = .ok auth ↔
    ∃ nock : ExactNockchainPayload, fromValue payload.payload = some nock ∧ nock.authorization = auth := by
  simp only [extractNockchainAuthorization, decodePayload, Outcome.bind_ok, Outcome.okOr_ok,
    Outcome.pure_ok]

/-- Exactly what `verify` of the Nockchain handlers accepts. -/
theorem verifyNockchain_ok_iff {done : Unit} : verifyNockchain payload requirements = .ok done ↔
    ∃ nock, fromValue payload.payload = some nock ∧ Admissible nock requirements := by
  simp only [verifyNockchain, decodePayload, checkAsset, Outcome.bind_ok, Outcome.okOr_ok,
    Outcome.ensure_ok, Outcome.mapError_ok, verifyPayment_ok_iff, checkMaxAmount_ok_iff]
  constructor
  · rintro ⟨nock, parsed, _, recipient, _, ⟨nock', pk, chal, sig, digest, parsed', attested⟩, _,
      capped, native⟩
    obtain rfl := Option.some.inj (parsed.symm.trans parsed')
    exact ⟨nock, parsed, recipient, ⟨pk, chal, sig, digest, attested⟩, capped, native⟩
  · rintro ⟨nock, parsed, recipient, ⟨pk, chal, sig, digest, attested⟩, capped, native⟩
    exact ⟨nock, parsed, (), recipient, (), ⟨nock, pk, chal, sig, digest, parsed, attested⟩, (),
      capped, native⟩

theorem handlerFor_withDefaultHandlers {Chain : Type} {handler : SchemeHandler Chain}
    (found : SchemeHandlerRegistry.withDefaultHandlers.handlerFor scheme network = some handler) :
    startsWith network "nockchain:" = true ∧
      ((scheme = "exact" ∧ handler = exactNockchainHandler) ∨
        (scheme = "upto" ∧ handler = uptoNockchainHandler)) := by
  have member := List.mem_of_find?_eq_some found
  have claims := List.find?_some found
  simp only [SchemeHandlerRegistry.withDefaultHandlers, SchemeHandlerRegistry.register,
    SchemeHandlerRegistry.new, List.nil_append, List.cons_append, List.mem_cons,
    List.not_mem_nil, or_false] at member
  simp only [Bool.and_eq_true, beq_iff_eq] at claims
  obtain ⟨named, network⟩ := claims
  rcases member with rfl | rfl
  · exact ⟨network, .inl ⟨named.symm, rfl⟩⟩
  · exact ⟨network, .inr ⟨named.symm, rfl⟩⟩

/-- Both shipped handlers read, verify and settle a payment alike. -/
theorem shared_methods {Chain : Type} {handler : SchemeHandler Chain}
    (found : SchemeHandlerRegistry.withDefaultHandlers.handlerFor scheme network = some handler) :
    handler.extractAuthorization = extractNockchainAuthorization ∧ handler.verify = verifyNockchain ∧
      ∀ client chain req, handler.settle client chain req = client.settle chain req := by
  obtain ⟨_, ⟨_, rfl⟩ | ⟨_, rfl⟩⟩ := handlerFor_withDefaultHandlers found
  · exact ⟨rfl, rfl, fun _ _ _ => rfl⟩
  · exact ⟨rfl, rfl, fun _ _ _ => rfl⟩

/-- What a shipped handler verified is admissible, with the authorization that it read. -/
theorem admissible_of_verified {Chain : Type} {handler : SchemeHandler Chain}
    (found : SchemeHandlerRegistry.withDefaultHandlers.handlerFor scheme network = some handler)
    (extracted : handler.extractAuthorization payload = .ok auth)
    (verified : handler.verify payload requirements = .ok done) :
    ∃ nock, fromValue payload.payload = some nock ∧ nock.authorization = auth ∧
      Admissible nock requirements := by
  obtain ⟨extracts, verifies, _⟩ := shared_methods found
  rw [extracts] at extracted
  rw [verifies] at verified
  obtain ⟨nock, carried, same⟩ := extractNockchainAuthorization_ok_iff.mp extracted
  obtain ⟨nock', carried', admissible⟩ := verifyNockchain_ok_iff.mp verified
  obtain rfl := Option.some.inj (carried.symm.trans carried')
  exact ⟨nock, carried, same, admissible⟩

theorem handlerFor_exact {Chain : Type} (network : startsWith name "nockchain:" = true) :
    (SchemeHandlerRegistry.withDefaultHandlers : SchemeHandlerRegistry Chain).handlerFor "exact" name =
      some exactNockchainHandler := by
  simp [SchemeHandlerRegistry.handlerFor, SchemeHandlerRegistry.withDefaultHandlers,
    SchemeHandlerRegistry.register, SchemeHandlerRegistry.new, exactNockchainHandler, network]

/-- Either scheme of a Nockchain network has a handler, with the shared methods. -/
theorem handlerFor_shipped {Chain : Type} (network : startsWith name "nockchain:" = true)
    (shipped : scheme = "exact" ∨ scheme = "upto") :
    ∃ handler, (SchemeHandlerRegistry.withDefaultHandlers : SchemeHandlerRegistry Chain).handlerFor
        scheme name = some handler ∧
      handler.extractAuthorization = extractNockchainAuthorization ∧ handler.verify = verifyNockchain := by
  rcases shipped with rfl | rfl
  · exact ⟨exactNockchainHandler, handlerFor_exact network, rfl, rfl⟩
  · refine ⟨uptoNockchainHandler, ?_, rfl, rfl⟩
    simp [SchemeHandlerRegistry.handlerFor, SchemeHandlerRegistry.withDefaultHandlers,
      SchemeHandlerRegistry.register, SchemeHandlerRegistry.new, exactNockchainHandler,
      uptoNockchainHandler, network]

end Handlers

end X402Nockchain.Facilitator
