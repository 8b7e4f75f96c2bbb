import X402Nockchain.Foundation.Base58
import X402Nockchain.Foundation.Outcome
import X402Nockchain.X402Types.Payment
import X402Nockchain.Crypto.Vesl
import Mathlib.Data.List.Sort

/-! The message of `sign_message.rs`: how an `Authorization` becomes the belt
sequence that the payer signs. -/

namespace X402Nockchain.Crypto

open Foundation X402Types

variable [Vesl]

def x402DomainSeparator : String := "x402-nockchain-v2"

inductive SignMessageError where
  | base58 (field : String) (source : Base58.DecodeError)
  | decimal (field value : String)
  | overflow (field : String)
  deriving DecidableEq

def SignMessageError.display : SignMessageError → String
  | .base58 field source => s!"base58 decode failed for field `{field}`: {source.display}"
  | .decimal field value => s!"decimal parse failed for field `{field}`: {value}"
  | .overflow field => s!"value for `{field}` is too large to fit 5 Belts"

/-- `slice::chunks`. -/
def chunks (size : Nat) (bytes : List UInt8) : List (List UInt8) :=
  (List.range ((bytes.length + (size - 1)) / size)).map fun index =>
    (bytes.drop (size * index)).take size

/-- `u64::from_le_bytes` of a chunk padded with zero bytes. -/
def beltOfChunk (chunk : List UInt8) : Belt :=
  UInt64.ofNat (Nat.ofDigits 256 (chunk.map UInt8.toNat))

/-- Seven bytes a belt, little-endian; a length divisible by seven gets one more
zero belt. -/
def bytesToBelts (bytes : List UInt8) : List Belt :=
  (chunks 7 bytes).map beltOfChunk ++
    if bytes = [] ∨ bytes.length % 7 = 0 then [0] else []

/-- The rounds of `base58_to_belts`: a belt from the remainder, then on with the
quotient. Each remainder goes through its decimal text. -/
def takeBelts (field : String) : (count : Nat) → Nat →
    Except SignMessageError (List.Vector Belt count × Nat)
  | 0, value => .ok (.nil, value)
  | count + 1, value => do
    let rem ← okOr (.overflow field) (Decimal.parseU64 (toString (value % prime)))
    let (belts, value) ← takeBelts field count (value / prime)
    return (rem ::ᵥ belts, value)

def base58ToBelts (b58 field : String) : Except SignMessageError (List.Vector Belt 5) := do
  let bytes ← (Base58.decode b58).mapError (.base58 field)
  let (belts, value) ← takeBelts field 5 (Base58.fromBeBytes bytes)
  ensure (¬ 0 < value) (.overflow field)
  return belts

def pkhBeltsToBase58 (belts : List.Vector Belt 5) : String :=
  let (value, _) := belts.toList.foldl
    (fun (value, power) belt => (value + belt.toNat * power, power * prime)) (0, 1)
  Base58.encode (Base58.toBeBytes value)

def pkhFromPubkeyBytes (pubkeyBytes : List UInt8) : String :=
  pkhBeltsToBase58 (hashVarlen (bytesToBelts pubkeyBytes))

def u64ToBelt (value : UInt64) : Belt := UInt64.ofNat (value.toNat % prime)

def decimalToBelt (text field : String) : Except SignMessageError Belt := do
  let value ← okOr (.decimal field text) (Decimal.parseU64 text)
  return u64ToBelt value

/-- Lexicographic comparison of `(name.first, name.last)`. -/
def noteNameLe (a b : NoteRef) : Prop :=
  a.name.first < b.name.first ∨ (a.name.first = b.name.first ∧ a.name.last ≤ b.name.last)

instance (a b : NoteRef) : Decidable (noteNameLe a b) := inferInstanceAs (Decidable (_ ∨ _))

def sortedNotes (notes : List NoteRef) : List NoteRef := notes.insertionSort noteNameLe

def noteBelts (note : NoteRef) : Except SignMessageError (List Belt) := do
  let first ← base58ToBelts note.name.first "notes[i].name.first"
  let last ← base58ToBelts note.name.last "notes[i].name.last"
  return first.toList ++ last.toList

/-- The belts that the inner hash absorbs. An empty list still absorbs one zero belt. -/
def notesBelts (notes : List NoteRef) : Except SignMessageError (List Belt) := do
  let parts ← (sortedNotes notes).mapM noteBelts
  let belts := parts.flatten
  return if belts.isEmpty then [0] else belts

def computeNotesHash (notes : List NoteRef) : Except SignMessageError (List.Vector Belt 5) :=
  (notesBelts notes).map hashVarlen

/-- The belt sequence that gets hashed. -/
def x402SignMessageBelts (auth : Authorization) : Except SignMessageError (List Belt) := do
  let out := bytesToBelts (asBytes x402DomainSeparator)
  let out := out ++ (← base58ToBelts auth.from "from").toList
  let out := out ++ (← base58ToBelts auth.to "to").toList
  let out := out ++ [← decimalToBelt auth.value "value"]
  let out := out ++ [← decimalToBelt auth.fee "fee"]
  let out := out ++ (← base58ToBelts auth.nonce "nonce").toList
  let out := out ++ [u64ToBelt auth.validAfter]
  let out := out ++ [u64ToBelt auth.validBefore]
  let out := out ++ (← computeNotesHash auth.notes).toList
  let out := out ++ (← base58ToBelts auth.changeAddress "changeAddress").toList
  return out

/-- The digest that gets signed. -/
def x402SignMessageDigest (auth : Authorization) :
    Except SignMessageError (List.Vector Belt 5) :=
  (x402SignMessageBelts auth).map hashVarlen

end X402Nockchain.Crypto
