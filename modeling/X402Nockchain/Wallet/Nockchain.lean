import X402Nockchain.Foundation.Base58
import X402Nockchain.Foundation.Base64
import X402Nockchain.Crypto.Vesl

/-! What the program takes from `nockchain-types`, `nockvm` and
`vesl_core::signing`, as parameters, and the chain types it builds from it. -/

namespace X402Nockchain.Wallet

open Foundation Crypto

/-- `NounEncode` and `NounDecode` of one type. -/
structure NounCodec (Noun α : Type) where
  toNoun : α → Noun
  fromNoun : Noun → Except String α

structure MerkleProof (Hash : Type) where
  root : Hash
  path : List Hash

structure LockMerkleProofFull (Hash SpendCondition : Type) where
  version : Nat
  spendCondition : SpendCondition
  axis : UInt64
  proof : MerkleProof Hash

class Nockchain where
  Hash : Type
  hashDecidableEq : DecidableEq Hash
  SchnorrPubkey : Type
  SpendCondition : Type
  LockMerkleProof : Type
  Source : Type
  NoteDataEntry : Type
  /-- A spend of a v0 note. -/
  Spend0 : Type
  Noun : Type
  hashToBase58 : Hash → String
  hashFromBase58 : String → Except String Hash
  hashToArray : Hash → List.Vector Belt 5
  pubkeyToBase58 : SchnorrPubkey → Except String String
  pubkeyFromBase58 : String → Except String SchnorrPubkey
  derivePubkey : List.Vector Belt 8 → SchnorrPubkey
  pubkeyHash : SchnorrPubkey → Hash
  /-- `vesl_core::signing::sign`: the challenge and the response. -/
  sign : List.Vector Belt 8 → List.Vector Belt 5 →
    Except String (List.Vector Belt 8 × List.Vector Belt 8)
  simplePkh : Hash → SpendCondition
  coinbasePkh : Hash → UInt64 → SpendCondition
  /-- `Lock::SpendCondition(condition).hash()`. -/
  lockHash : SpendCondition → Except String Hash
  /-- `LockMerkleProof::Full`. -/
  fullProof : LockMerkleProofFull Hash SpendCondition → LockMerkleProof
  jam : Noun → List UInt8
  cue : List UInt8 → Except String Noun
  lockMerkleProofCodec : NounCodec Noun LockMerkleProof
  sourceCodec : NounCodec Noun Source
  noteDataCodec : NounCodec Noun (List NoteDataEntry)

instance [Nockchain] : DecidableEq Nockchain.Hash := Nockchain.hashDecidableEq

export Nockchain (Hash hashToBase58 hashFromBase58 lockHash simplePkh)

/-- The documented behaviour of those functions. -/
class LawfulNockchain [Nockchain] : Prop where
  hashFromBase58_toBase58 : ∀ hash, hashFromBase58 (hashToBase58 hash) = .ok hash
  pubkeyFromBase58_toBase58 : ∀ {pubkey text}, Nockchain.pubkeyToBase58 pubkey = .ok text →
    Nockchain.pubkeyFromBase58 text = .ok pubkey
  cue_jam : ∀ noun, Nockchain.cue (Nockchain.jam noun) = .ok noun
  lockMerkleProof_fromNoun : ∀ proof, Nockchain.lockMerkleProofCodec.fromNoun
    (Nockchain.lockMerkleProofCodec.toNoun proof) = .ok proof

attribute [simp] LawfulNockchain.hashFromBase58_toBase58 LawfulNockchain.cue_jam
  LawfulNockchain.lockMerkleProof_fromNoun

theorem hashToBase58_injective [Nockchain] [LawfulNockchain] :
    Function.Injective (hashToBase58 : Hash → String) := by
  intro left right same
  have read := LawfulNockchain.hashFromBase58_toBase58 left
  rw [same, LawfulNockchain.hashFromBase58_toBase58] at read
  exact (Except.ok.inj read).symm

/-- A `usize` of nicks on a 64-bit target. -/
abbrev Nicks := UInt64

inductive Version where
  | v1
  | other (code : Nat)
  deriving DecidableEq

section Transactions

variable [Nockchain]

structure Name where
  first : Hash
  last : Hash

structure Seed where
  outputSource : Option Nockchain.Source
  lockRoot : Hash
  noteData : List Nockchain.NoteDataEntry
  gift : Nicks
  parentHash : Hash

structure SchnorrSignature where
  chal : List.Vector Belt 8
  sig : List.Vector Belt 8

structure PkhSignatureEntry where
  hash : Hash
  pubkey : Nockchain.SchnorrPubkey
  signature : SchnorrSignature

structure HaxPreimage where
  hash : Hash
  value : List UInt8

structure Witness where
  lockMerkleProof : Nockchain.LockMerkleProof
  pkhSignature : List PkhSignatureEntry
  hax : List HaxPreimage
  tim : UInt64

structure Spend1 where
  witness : Witness
  seeds : List Seed
  fee : Nicks

inductive Spend where
  | legacy (spend : Nockchain.Spend0)
  | witness (spend : Spend1)

structure RawTx where
  version : Version
  id : Hash
  spends : List (Name × Spend)

end Transactions

/-! ### A transparent stand-in

A chain library that can be run, for inputs on which a concrete run is shown. A
hash, a lock and a noun are spelled by their bytes. -/

namespace Transparent

/-- A public key as its eight bytes. -/
def pubkeyBytes (key : Belt) : List UInt8 := (limbs 256 8 key.toNat).map UInt8.ofNat

def keyOfBytes (bytes : List UInt8) : Belt :=
  UInt64.ofNat (Nat.ofDigits 256 (bytes.map UInt8.toNat))

theorem keyOfBytes_pubkeyBytes (key : Belt) : keyOfBytes (pubkeyBytes key) = key := by
  have bounded : ∀ digit ∈ limbs 256 8 key.toNat, digit < 256 := fun _ => limbs_lt (by decide)
  have fits : key.toNat < 256 ^ 8 := key.toNat_lt
  rw [keyOfBytes, pubkeyBytes, Base58.map_toNat_ofNat bounded, ofDigits_limbs_of_lt fits,
    UInt64.ofNat_toNat]

def readBase58 (text : String) : Except String (List UInt8) :=
  (Base58.decode text).mapError Base58.DecodeError.display

@[simp] theorem readBase58_encode (bytes : List UInt8) :
    readBase58 (Base58.encode bytes) = .ok bytes := by
  rw [readBase58, Base58.decode_encode]
  rfl

def bytesCodec : NounCodec (List UInt8) (List UInt8) := ⟨id, .ok⟩

end Transparent

open Transparent

@[reducible] def spelledBase64 : Base64 where
  encode := Base58.encode
  decode := readBase58

theorem spelledBase64_lawful : @LawfulBase64 spelledBase64 :=
  letI := spelledBase64
  ⟨readBase58_encode⟩

@[reducible] def transparentChain : Nockchain where
  Hash := List UInt8
  hashDecidableEq := inferInstance
  SchnorrPubkey := Belt
  SpendCondition := List UInt8
  LockMerkleProof := List UInt8
  Source := Unit
  NoteDataEntry := Unit
  Spend0 := Unit
  Noun := List UInt8
  hashToBase58 := Base58.encode
  hashFromBase58 := readBase58
  hashToArray hash := ⟨(limbs (2 ^ 32) 5 (Base58.fromBeBytes hash)).map UInt64.ofNat, by simp⟩
  pubkeyToBase58 key := .ok (Base58.encode (pubkeyBytes key))
  pubkeyFromBase58 text := (readBase58 text).map keyOfBytes
  derivePubkey key := key.head
  pubkeyHash key := 7 :: pubkeyBytes key
  sign key message := .ok (message ++ List.Vector.replicate 3 (0 : Belt), key)
  simplePkh hash := 0 :: hash
  coinbasePkh hash timelockMin := 1 :: pubkeyBytes timelockMin ++ hash
  lockHash := .ok
  fullProof proof := proof.spendCondition
  jam := id
  cue := .ok
  lockMerkleProofCodec := bytesCodec
  sourceCodec := ⟨fun _ => [], fun _ => .ok ()⟩
  noteDataCodec := ⟨fun entries => List.replicate entries.length 0,
    fun noun => .ok (List.replicate noun.length ())⟩

theorem transparentChain_lawful : @LawfulNockchain transparentChain :=
  letI := transparentChain
  { hashFromBase58_toBase58 := readBase58_encode
    pubkeyFromBase58_toBase58 := by
      intro key text printed
      obtain rfl := Except.ok.inj printed
      change (readBase58 (Base58.encode (pubkeyBytes key))).map keyOfBytes = .ok key
      rw [readBase58_encode, Except.map, keyOfBytes_pubkeyBytes]
    cue_jam := fun _ => rfl
    lockMerkleProof_fromNoun := fun _ => rfl }

end X402Nockchain.Wallet
