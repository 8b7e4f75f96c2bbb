import X402Nockchain.Foundation.Text

/-! Standard base64, which belongs to the `base64` crate. -/

namespace X402Nockchain.Foundation

class Base64 where
  encode : List UInt8 → String
  /-- `decode` of a text, with the error as its `Display` renders it. -/
  decode : String → Except String (List UInt8)

class LawfulBase64 [Base64] : Prop where
  decode_encode : ∀ bytes, Base64.decode (Base64.encode bytes) = .ok bytes

attribute [simp] LawfulBase64.decode_encode

/-- The alphabet of the text is printable ASCII. -/
class PrintableBase64 [Base64] : Prop where
  printable : ∀ bytes, ∀ letter ∈ (Base64.encode bytes).toList, 32 < letter.toNat ∧ letter.toNat < 127

end X402Nockchain.Foundation
