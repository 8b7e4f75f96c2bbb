import X402Nockchain.Foundation.Decimal
import X402Nockchain.Foundation.Digits
import X402Nockchain.Foundation.Text
import Mathlib.Data.Vector.Basic

/-! What the program takes from `vesl-signing`: the Tip5 sponge, Schnorr over
Cheetah and the replay-key prefix. These are parameters of the model; errors are
kept as the text their `Display` renders. -/

namespace X402Nockchain.Crypto

open Foundation

/-- A base-field element as the source carries it: any `u64`. -/
abbrev Belt := UInt64

/-- The order of the base field, `2^64 - 2^32 + 1`. -/
def prime : Nat := 18446744069414584321

theorem prime_pos : 0 < prime := by decide

theorem prime_lt : prime < 2 ^ 64 := by decide

/-- The wire signature as `vesl-signing` owns it. -/
structure VeslPair where
  chal : List.Vector String 8
  sig : List.Vector String 8
  deriving DecidableEq

structure VeslSig where
  pubkey : String
  schnorr : VeslPair
  deriving DecidableEq

class Vesl where
  CheetahPoint : Type
  SchnorrPrivateKey : Type
  Scalar : Type
  hashVarlen : List Belt → List.Vector Belt 5
  /-- `SchnorrPrivateKey::new`. -/
  newKey : Nat → Except String SchnorrPrivateKey
  publicKey : SchnorrPrivateKey → CheetahPoint
  intoBase58 : CheetahPoint → Except String String
  toBytes : CheetahPoint → Except String (List UInt8)
  /-- The text of `SchnorrError::Curve` around a `CheetahError`. -/
  curve : String → String
  encodeSignature : CheetahPoint → Scalar → Scalar → Except String VeslSig
  decodeSignature : VeslSig → Except String (CheetahPoint × Scalar × Scalar)
  schnorrSign : SchnorrPrivateKey → List.Vector Belt 5 → Except String (Scalar × Scalar)
  schnorrVerify : CheetahPoint → List.Vector Belt 5 → Scalar → Scalar → Except String Unit
  /-- `replay_cache::prefixed`. -/
  prefixedReplayKey : String → List UInt8 → List UInt8

export Vesl (hashVarlen)

/-- `replay_cache::domains::AUTHORIZATION`. -/
def ReplayDomains.authorization : String := "x402-auth:"

/-- The documented behaviour of those functions. -/
class LawfulVesl [Vesl] : Prop where
  hash_lt : ∀ belts, ∀ belt ∈ (hashVarlen belts).toList, belt.toNat < prime
  decode_encode : ∀ {point chal sig json}, Vesl.encodeSignature point chal sig = .ok json →
    Vesl.decodeSignature json = .ok (point, chal, sig)
  verify_sign : ∀ {key digest chal sig}, Vesl.schnorrSign key digest = .ok (chal, sig) →
    Vesl.schnorrVerify (Vesl.publicKey key) digest chal sig = .ok ()
  prefixed_injective : ∀ domain, Function.Injective (Vesl.prefixedReplayKey domain)

/-! ### A transparent stand-in

An implementation that can be run, for inputs on which a concrete run is shown.
The sponge adds its belts up, and a signature spells its digest and its key. -/

namespace Transparent

def hash (belts : List Belt) : List.Vector Belt 5 :=
  ⟨[UInt64.ofNat ((belts.map UInt64.toNat).sum % prime), UInt64.ofNat (belts.length % prime),
    0, 0, 0], rfl⟩

def spell (digest : List.Vector Belt 5) : List.Vector String 8 :=
  (digest.map fun belt => toString belt.toNat) ++ List.Vector.replicate 3 "0"

def sealWith (key : Belt) : List.Vector String 8 := List.Vector.replicate 8 (toString key.toNat)

def decode (json : VeslSig) :
    Except String (Belt × List.Vector String 8 × List.Vector String 8) :=
  match Decimal.parseU64 json.pubkey with
  | none => .error "malformed public key"
  | some point => .ok (point, json.schnorr.chal, json.schnorr.sig)

def verify (point : Belt) (digest : List.Vector Belt 5) (chal sig : List.Vector String 8) :
    Except String Unit :=
  if chal = spell digest ∧ sig = sealWith point then .ok () else .error "equation does not hold"

theorem decode_encode (point : Belt) (chal sig : List.Vector String 8) :
    decode ⟨toString point.toNat, ⟨chal, sig⟩⟩ = .ok (point, chal, sig) := by
  simp only [decode, Decimal.parseU64_toString]

theorem verify_sign (key : Belt) (digest : List.Vector Belt 5) :
    verify key digest (spell digest) (sealWith key) = .ok () := if_pos ⟨rfl, rfl⟩

theorem hash_lt (member : belt ∈ (hash belts).toList) : belt.toNat < prime := by
  have reduced : ∀ value, (UInt64.ofNat (value % prime)).toNat < prime := by
    intro value
    have below := Nat.mod_lt value prime_pos
    rwa [UInt64.toNat_ofNat_of_lt' (Nat.lt_trans below prime_lt)]
  change belt ∈ [_, _, 0, 0, 0] at member
  simp only [List.mem_cons, List.not_mem_nil, or_false] at member
  rcases member with same | same | same | same | same <;> rw [same]
  · exact reduced _
  · exact reduced _
  all_goals decide

end Transparent

open Transparent in
@[reducible] def transparent : Vesl where
  CheetahPoint := Belt
  SchnorrPrivateKey := Belt
  Scalar := List.Vector String 8
  hashVarlen := hash
  newKey scalar := .ok (UInt64.ofNat scalar)
  publicKey := id
  intoBase58 point := .ok (toString point.toNat)
  toBytes point := .ok ((limbs 256 8 point.toNat).map UInt8.ofNat)
  curve := id
  encodeSignature point chal sig := .ok { pubkey := toString point.toNat, schnorr := { chal, sig } }
  decodeSignature := decode
  schnorrSign key digest := .ok (spell digest, sealWith key)
  schnorrVerify := verify
  prefixedReplayKey domain key := asBytes domain ++ key

theorem transparent_lawful : @LawfulVesl transparent :=
  letI := transparent
  { hash_lt := fun _ _ => Transparent.hash_lt
    decode_encode := fun encoded => by cases encoded; exact Transparent.decode_encode _ _ _
    verify_sign := fun signed => by cases signed; exact Transparent.verify_sign _ _
    prefixed_injective := fun _ _ _ => List.append_cancel_left }

end X402Nockchain.Crypto
