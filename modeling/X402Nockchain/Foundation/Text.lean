import Mathlib.Data.List.Infix

/-! Rust `str` operations that look at the encoded text. -/

namespace X402Nockchain.Foundation

/-- `str::as_bytes`. -/
def asBytes (text : String) : List UInt8 := text.toByteArray.data.toList

theorem asBytes_injective : Function.Injective asBytes := by
  intro a b same
  apply String.toByteArray_inj.mp
  exact ByteArray.ext (Array.toList_inj.mp same)

/-- `str::from_utf8`. -/
def ofBytes (bytes : List UInt8) : Option String := String.fromUTF8? ⟨bytes.toArray⟩

@[simp] theorem ofBytes_asBytes (text : String) : ofBytes (asBytes text) = some text := by
  have valid : text.toByteArray.IsValidUTF8 := text.isValidUTF8
  have same : (⟨(asBytes text).toArray⟩ : ByteArray) = text.toByteArray := by
    simp [asBytes]
  rw [ofBytes, same, String.fromUTF8?, dif_pos valid]
  rfl

/-- `str::starts_with`. -/
def startsWith (text start : String) : Bool := start.toList.isPrefixOf text.toList

end X402Nockchain.Foundation
