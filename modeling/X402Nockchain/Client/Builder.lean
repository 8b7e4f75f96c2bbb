import X402Nockchain.Wallet.Client

/-! The payload builders of `x402-client`. The clock and the random bytes that
they read are their arguments. -/

namespace X402Nockchain.Client

open Foundation Foundation.Serde X402Types Crypto Wallet

/-- `trait Signer`. -/
structure Signer where
  fromIdentifier : String
  signAuthorization : Authorization → PaymentRequirements → Except String SchnorrSignatureJson

/-- `NockchainSigner` as a `Signer`. -/
def ofNockchain [Vesl] (signer : NockchainSigner) : Signer where
  fromIdentifier := signer.fromIdentifier
  signAuthorization := signer.signAuthorization

/-- Thirty-two bytes of `rand::thread_rng`. -/
abbrev RandomBytes := List.Vector UInt8 32

def generateNonceBase58 (buf : RandomBytes) : String := Base58.encode buf.toList

def randomPkhBase58 (buf : RandomBytes) : String := Base58.encode buf.toList

/-- `extra.minFee`, or nothing. -/
def offeredFee (requirements : PaymentRequirements) : String :=
  ((requirements.extra.bind (·.get "minFee")).bind Value.asStr).getD "0"

/-- The authorization of either builder. The payer is also where change goes. -/
def authorizationFor (requirements : PaymentRequirements) (payer nonce : String)
    (notes : List NoteRef) (now : UInt64) : Authorization where
  «from» := payer
  «to» := requirements.payTo
  value := requirements.maxAmountRequired
  fee := offeredFee requirements
  nonce
  validAfter := saturatingSub now 5
  validBefore := saturatingAdd now requirements.maxTimeoutSeconds
  notes
  changeAddress := payer

def payloadFor (requirements : PaymentRequirements) (exact : ExactNockchainPayload)
    (echoExtensions : Option (List (String × Value))) : PaymentPayload Value where
  x402Version := 2
  scheme := requirements.scheme
  network := requirements.network
  payload := toValue exact
  extensions := echoExtensions

/-- What `build_exact_nockchain_payload` draws: a nonce and the name of a note. -/
structure Draws where
  nonce : RandomBytes
  first : RandomBytes
  last : RandomBytes

def Draws.authorization (drawn : Draws) (requirements : PaymentRequirements) (payer : String)
    (now : UInt64) : Authorization :=
  let note : NoteRef := {
    name := { first := randomPkhBase58 drawn.first, last := randomPkhBase58 drawn.last }
    assets := requirements.maxAmountRequired
    lock := default }
  authorizationFor requirements payer (generateNonceBase58 drawn.nonce) [note] now

/-- The envelope alone, without a transaction. -/
def buildExactNockchainPayload (requirements : PaymentRequirements) (signer : Signer)
    (echoExtensions : Option (List (String × Value))) (now : UInt64) (drawn : Draws) :
    Except String (PaymentPayload Value) := do
  let authorization := drawn.authorization requirements signer.fromIdentifier now
  let signature ← signer.signAuthorization authorization requirements
  return payloadFor requirements { signature, authorization } echoExtensions

/-- How the wallet builder can end without a payload. -/
inductive BuildFailure where
  | error (message : String)
  | panic (message : String)
  deriving DecidableEq

def BuildFailure.ofWallet : WalletFailure → BuildFailure
  | .error e => .error s!"wallet authorize_and_sign failed: {e.display}"
  | .panic message => .panic message

/-- The envelope and the wallet's transaction. -/
def buildExactNockchainPayloadWithWallet (requirements : PaymentRequirements)
    (wallet : WalletBackend) (notes : List NoteRef)
    (echoExtensions : Option (List (String × Value))) (now : UInt64) (nonce : RandomBytes) :
    Except BuildFailure (PaymentPayload Value) := do
  let authorization :=
    authorizationFor requirements wallet.payerPkh (generateNonceBase58 nonce) notes now
  let signed ← (wallet.authorizeAndSign authorization requirements).mapError .ofWallet
  return payloadFor requirements {
    signature := signed.envelopeSignature
    authorization
    signedRawTx := some signed.signedRawTx } echoExtensions

/-! ### What the builders build -/

theorem buildExactNockchainPayload_ok_iff :
    buildExactNockchainPayload requirements signer echoExtensions now drawn = .ok payload ↔
    ∃ signature,
      signer.signAuthorization (drawn.authorization requirements signer.fromIdentifier now)
        requirements = .ok signature ∧
      payload = payloadFor requirements {
        signature
        authorization := drawn.authorization requirements signer.fromIdentifier now }
        echoExtensions := by
  simp only [buildExactNockchainPayload, Outcome.bind_ok, Outcome.pure_ok, @eq_comm _ payload]

theorem buildExactNockchainPayloadWithWallet_ok_iff :
    buildExactNockchainPayloadWithWallet requirements wallet notes echoExtensions now nonce =
      .ok payload ↔ ∃ signed,
      wallet.authorizeAndSign
        (authorizationFor requirements wallet.payerPkh (generateNonceBase58 nonce) notes now)
        requirements = .ok signed ∧
      payload = payloadFor requirements {
        signature := signed.envelopeSignature
        authorization :=
          authorizationFor requirements wallet.payerPkh (generateNonceBase58 nonce) notes now
        signedRawTx := some signed.signedRawTx } echoExtensions := by
  simp only [buildExactNockchainPayloadWithWallet, Outcome.bind_ok, Outcome.mapError_ok,
    Outcome.pure_ok, @eq_comm _ payload]

/-- Thirty-two bytes always fit five belts. -/
theorem spells_random (buf : RandomBytes) : Spells (Base58.encode buf.toList) := by
  refine ⟨Base58.fromBeBytes buf.toList, ?_, ?_⟩
  · rw [← Base58.decode_value, Base58.decode_encode]
    rfl
  · have fits := Base58.fromBeBytes_lt buf.toList
    rw [buf.toList_length] at fits
    exact Nat.lt_trans fits (by decide)

end X402Nockchain.Client
