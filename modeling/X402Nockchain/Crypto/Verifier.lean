import X402Nockchain.X402Types.Nockchain
import X402Nockchain.Crypto.Message

/-! The signer and the verifier of the Nockchain payload: `signer.rs`,
`verifier.rs` and `wire_compat.rs`. -/

namespace X402Nockchain.Crypto

open Foundation Foundation.Serde X402Types

def veslToX402 (signature : VeslSig) : SchnorrSignatureJson where
  pubkey := signature.pubkey
  schnorr := { chal := signature.schnorr.chal, sig := signature.schnorr.sig }

def x402ToVesl (signature : SchnorrSignatureJson) : VeslSig where
  pubkey := signature.pubkey
  schnorr := { chal := signature.schnorr.chal, sig := signature.schnorr.sig }

@[simp] theorem x402ToVesl_veslToX402 (signature : VeslSig) :
    x402ToVesl (veslToX402 signature) = signature := rfl

section Payments

variable [Vesl]

inductive VerifyError where
  | decode (source : String)
  | signatureDecode (source : String)
  | signatureInvalid (source : String)
  | signMessage (source : SignMessageError)
  | pubkeyBinding
  deriving DecidableEq

def VerifyError.display : VerifyError → String
  | .decode source => s!"payload JSON does not match ExactNockchainPayload: {source}"
  | .signatureDecode source => s!"signature decode: {source}"
  | .signatureInvalid source => s!"signature does not verify: {source}"
  | .signMessage source => s!"failed to compute sign_message digest: {source.display}"
  | .pubkeyBinding => "pubkey binding failed: Tip5(pubkey) != authorization.from"

/-- `NockchainVerifier::verify_payment`. -/
def verifyPayment [ErrorText] [Serialize P] (payload : PaymentPayload P)
    (_requirements : PaymentRequirements) : Except VerifyError Unit := do
  let json := toValue payload.payload
  let nock : ExactNockchainPayload ← okOr (.decode (ErrorText.decodeFailure json)) (fromValue json)
  let (pk, chal, sig) ←
    (Vesl.decodeSignature (x402ToVesl nock.signature)).mapError .signatureDecode
  let pkBytes ← (Vesl.toBytes pk).mapError fun source => .signatureDecode (Vesl.curve source)
  let expectedPkh := pkhFromPubkeyBytes pkBytes
  ensure (expectedPkh = nock.authorization.from) .pubkeyBinding
  let digest ← (x402SignMessageDigest nock.authorization).mapError .signMessage
  (Vesl.schnorrVerify pk digest chal sig).mapError .signatureInvalid

/-- What an accepted payload carries: a key that hashes to `authorization.from`
and a signature of this key over the digest. -/
structure Attested (nock : ExactNockchainPayload) (pk : Vesl.CheetahPoint)
    (chal sig : Vesl.Scalar) (digest : List.Vector Belt 5) : Prop where
  decoded : Vesl.decodeSignature (x402ToVesl nock.signature) = .ok (pk, chal, sig)
  bound : ∃ bytes, Vesl.toBytes pk = .ok bytes ∧ pkhFromPubkeyBytes bytes = nock.authorization.from
  signed : x402SignMessageDigest nock.authorization = .ok digest
  verified : Vesl.schnorrVerify pk digest chal sig = .ok ()

theorem verifyPayment_ok_iff [ErrorText] [Serialize P] {payload : PaymentPayload P}
    {requirements : PaymentRequirements} {done : Unit} :
    verifyPayment payload requirements = .ok done ↔
      ∃ nock pk chal sig digest, fromValue (toValue payload.payload) = some nock ∧
        Attested nock pk chal sig digest := by
  simp only [verifyPayment, Outcome.bind_ok, Outcome.okOr_ok, Outcome.mapError_ok, Outcome.ensure_ok]
  constructor
  · rintro ⟨nock, parsed, ⟨pk, chal, sig⟩, decoded, bytes, serialized, _, bound, digest, signed, verified⟩
    exact ⟨nock, pk, chal, sig, digest, parsed, decoded, ⟨bytes, serialized, bound⟩, signed, verified⟩
  · rintro ⟨nock, pk, chal, sig, digest, parsed, decoded, ⟨bytes, serialized, bound⟩, signed, verified⟩
    exact ⟨nock, parsed, ⟨pk, chal, sig⟩, decoded, bytes, serialized, (), bound, digest, signed, verified⟩

/-- The signer of a key. Only `new` builds one. -/
structure NockchainSigner where
  sk : Vesl.SchnorrPrivateKey
  pk : Vesl.CheetahPoint
  pkB58 : String
  pkhB58 : String
  ofKey : pk = Vesl.publicKey sk
  hashed : ∃ bytes, Vesl.toBytes pk = .ok bytes ∧ pkhB58 = pkhFromPubkeyBytes bytes

def NockchainSigner.new (sk : Vesl.SchnorrPrivateKey) : Except String NockchainSigner := do
  let pk := Vesl.publicKey sk
  let pkB58 ← (Vesl.intoBase58 pk).mapError fun source => s!"encode Cheetah pubkey: {source}"
  match serialized : Vesl.toBytes pk with
  | .error source => .error s!"serialize Cheetah pubkey: {source}"
  | .ok pkBytes =>
    return {
      sk, pk, pkB58
      pkhB58 := pkhFromPubkeyBytes pkBytes
      ofKey := rfl
      hashed := ⟨pkBytes, serialized, rfl⟩ }

def NockchainSigner.signAuthorization (signer : NockchainSigner) (auth : Authorization)
    (_requirements : PaymentRequirements) : Except String SchnorrSignatureJson := do
  let digest ← (x402SignMessageDigest auth).mapError fun source =>
    s!"compute sign_message digest: {source.display}"
  let (chal, sig) ← (Vesl.schnorrSign signer.sk digest).mapError fun source =>
    s!"schnorr sign: {source}"
  let veslSig ← (Vesl.encodeSignature signer.pk chal sig).mapError fun source =>
    s!"encode signature: {source}"
  return veslToX402 veslSig

def NockchainSigner.fromIdentifier (signer : NockchainSigner) : String := signer.pkhB58

theorem NockchainSigner.signAuthorization_ok {signer : NockchainSigner}
    (signed : signer.signAuthorization auth requirements = .ok signature) :
    ∃ digest chal sig veslSig, x402SignMessageDigest auth = .ok digest ∧
      Vesl.schnorrSign signer.sk digest = .ok (chal, sig) ∧
      Vesl.encodeSignature signer.pk chal sig = .ok veslSig ∧ signature = veslToX402 veslSig := by
  simp only [signAuthorization, Outcome.bind_ok, Outcome.mapError_ok, Outcome.pure_ok] at signed
  obtain ⟨digest, hashed, ⟨chal, sig⟩, sealed, veslSig, encoded, same⟩ := signed
  exact ⟨digest, chal, sig, veslSig, hashed, sealed, encoded, same.symm⟩

/-- A signature made for an authorization under the signer's own PKH is accepted. -/
theorem NockchainSigner.attested [LawfulVesl] {signer : NockchainSigner} {nock : ExactNockchainPayload}
    (own : nock.authorization.from = signer.fromIdentifier)
    (signed : signer.signAuthorization nock.authorization requirements = .ok nock.signature) :
    ∃ pk chal sig digest, Attested nock pk chal sig digest := by
  obtain ⟨digest, chal, sig, veslSig, hashed, sealed, encoded, same⟩ := signAuthorization_ok signed
  obtain ⟨bytes, serialized, pkh⟩ := signer.hashed
  refine ⟨signer.pk, chal, sig, digest, ?_, ⟨bytes, serialized, ?_⟩, hashed, ?_⟩
  · rw [same, x402ToVesl_veslToX402, LawfulVesl.decode_encode encoded]
  · rw [own, fromIdentifier, pkh]
  · rw [signer.ofKey]
    exact LawfulVesl.verify_sign sealed

theorem spells_pkh [LawfulVesl] (pubkeyBytes : List UInt8) :
    Spells (pkhFromPubkeyBytes pubkeyBytes) :=
  (spells_iff "from").mpr ⟨_, base58ToBelts_pkhBeltsToBase58 (LawfulVesl.hash_lt _) _⟩

theorem NockchainSigner.spells_fromIdentifier [LawfulVesl] (signer : NockchainSigner) :
    Spells signer.fromIdentifier := by
  obtain ⟨bytes, _, pkh⟩ := signer.hashed
  rw [fromIdentifier, pkh]
  exact spells_pkh bytes

end Payments

/-! ### The stand-in's signer -/

namespace Transparent

@[reducible] def plainErrors : ErrorText := ⟨fun _ => "invalid type"⟩

attribute [local instance] transparent transparent_lawful

def signer (key : Belt) : NockchainSigner where
  sk := key
  pk := key
  pkB58 := toString key.toNat
  pkhB58 := pkhFromPubkeyBytes ((limbs 256 8 key.toNat).map UInt8.ofNat)
  ofKey := rfl
  hashed := ⟨_, rfl, rfl⟩

def payer : NockchainSigner := signer 7

/-- A payment of five nicks by `payer`. -/
def authorization : Authorization where
  «from» := payer.fromIdentifier
  «to» := "2"
  value := "5"
  fee := "1"
  nonce := "3"
  validAfter := 1000
  validBefore := 1300
  notes := []
  changeAddress := "4"

theorem authorization_signable : Signable authorization where
  sender := payer.spells_fromIdentifier
  recipient := ⟨1, rfl, by decide⟩
  value := ⟨5, by decide⟩
  fee := ⟨1, by decide⟩
  nonce := ⟨2, rfl, by decide⟩
  notes := by simp [authorization]
  changeAddress := ⟨3, rfl, by decide⟩

theorem signs (key : Belt) (signable : Signable auth) (requirements : PaymentRequirements) :
    ∃ signature, (signer key).signAuthorization auth requirements = .ok signature := by
  obtain ⟨belts, message⟩ := signable_iff.mpr signable
  simp only [NockchainSigner.signAuthorization, x402SignMessageDigest, message, Except.map]
  exact ⟨_, rfl⟩

end Transparent

end X402Nockchain.Crypto
