import X402Nockchain.Foundation.Digits
import Mathlib.Data.List.GetD
import Mathlib.Data.List.TakeWhile
import Mathlib.Tactic.Common

/-! The standard Bitcoin-alphabet base58 codec on byte strings. A text is a
big-endian base-58 number whose leading `1`s stand for leading zero bytes. -/

namespace X402Nockchain.Foundation.Base58

def alphabet : List Char :=
  "123456789ABCDEFGHJKLMNPQRSTUVWXYZabcdefghijkmnopqrstuvwxyz".toList

/-- The two ways `bs58` rejects a text, at the byte index of the offending character. -/
inductive DecodeError where
  | nonAsciiCharacter (index : Nat)
  | invalidCharacter (character : Char) (index : Nat)
  deriving DecidableEq

/-- `{:?}` of an ASCII character. -/
def debugChar (character : Char) : String :=
  let escaped := match character.toNat with
    | 0 => "\\0"
    | 9 => "\\t"
    | 10 => "\\n"
    | 13 => "\\r"
    | 39 => "\\'"
    | 92 => "\\\\"
    | code =>
      if code < 32 ∨ code = 127 then "\\u\x7b" ++ String.ofList (Nat.toDigits 16 code) ++ "\x7d"
      else character.toString
  "'" ++ escaped ++ "'"

example : ['I', '"', '\x1b', '\x7f'].map debugChar =
    ["'I'", "'\"'", "'\\u\x7b1b\x7d'", "'\\u\x7b7f\x7d'"] := by decide

def DecodeError.display : DecodeError → String
  | .nonAsciiCharacter index =>
    s!"provided string contained non-ascii character starting at byte {index}"
  | .invalidCharacter character index =>
    s!"provided string contained invalid character {debugChar character} at byte {index}"

/-- Symbol values in text order. Everything before `index` was ASCII, so byte
and character positions agree. -/
def symbolValues (index : Nat) : List Char → Except DecodeError (List Nat)
  | [] => .ok []
  | character :: rest =>
    if 127 < character.toNat then .error (.nonAsciiCharacter index)
    else match alphabet.idxOf? character with
      | none => .error (.invalidCharacter character index)
      | some value => (symbolValues (index + 1) rest).map (value :: ·)

/-- Big-endian base-`base` value of a digit string. -/
def fromBe (base : Nat) (digits : List Nat) : Nat := Nat.ofDigits base digits.reverse

/-- Change of base that keeps the number of leading zeros, as base58 does in
both directions. -/
def rebase (source target : Nat) (digits : List Nat) : List Nat :=
  List.replicate (digits.takeWhile (· == 0)).length 0 ++
    (Nat.digits target (fromBe source digits)).reverse

/-- `bs58::decode(text).into_vec()`. -/
def decode (text : String) : Except DecodeError (List UInt8) :=
  (symbolValues 0 text.toList).map fun values => (rebase 58 256 values).map UInt8.ofNat

/-- `UBig::from_be_bytes`. -/
def fromBeBytes (bytes : List UInt8) : Nat := fromBe 256 (bytes.map UInt8.toNat)

/-- `UBig::to_be_bytes`: no leading zero byte, and no byte at all for zero. -/
def toBeBytes (value : Nat) : List UInt8 := (Nat.digits 256 value).reverse.map UInt8.ofNat

def symbol (value : Nat) : Char := alphabet.getD value '1'

/-- `bs58::encode(bytes).into_string()`. -/
def encode (bytes : List UInt8) : String :=
  String.ofList ((rebase 256 58 (bytes.map UInt8.toNat)).map symbol)

/-- The number a text spells, leading `1`s ignored. -/
def textValue (text : String) : Except DecodeError Nat :=
  (symbolValues 0 text.toList).map (fromBe 58)

/-- A text without its leading `1`s. -/
def stripped (text : String) : List Char := text.toList.dropWhile (· == '1')

theorem length_alphabet : alphabet.length = 58 := by decide

theorem symbolValues_lt (decoded : symbolValues index text = .ok values) :
    ∀ value ∈ values, value < 58 := by
  induction text generalizing index values with
  | nil => cases decoded; simp
  | cons character rest ih =>
    unfold symbolValues at decoded
    split at decoded
    · cases decoded
    · split at decoded
      · cases decoded
      · rename_i value found
        cases tail : symbolValues (index + 1) rest with
        | error reason => simp [tail, Except.map] at decoded
        | ok later =>
          rw [tail] at decoded
          cases decoded
          intro candidate member
          rcases List.mem_cons.mp member with same | member
          · rw [same, ← length_alphabet]
            exact (List.idxOf?_eq_some_iff.mp found).1
          · exact ih tail candidate member

theorem fromBe_replicate_append (base count : Nat) (digits : List Nat) :
    fromBe base (List.replicate count 0 ++ digits) = fromBe base digits := by
  simp [fromBe, Nat.ofDigits_append, Nat.ofDigits_replicate_zero]

theorem fromBe_rebase (source target : Nat) (digits : List Nat) :
    fromBe target (rebase source target digits) = fromBe source digits := by
  rw [rebase, fromBe_replicate_append]
  simp [fromBe, Nat.ofDigits_digits]

theorem fromBe_dropWhile (base : Nat) (digits : List Nat) :
    fromBe base (digits.dropWhile (· == 0)) = fromBe base digits := by
  induction digits with
  | nil => rfl
  | cons head rest ih =>
    by_cases zero : head = 0
    · subst head
      simpa [List.dropWhile_cons, fromBe, Nat.ofDigits_append] using ih
    · simp [zero]

theorem head_dropWhile_zero (digits : List Nat) :
    (digits.dropWhile (· == 0)).head? ≠ some 0 := by
  intro zero
  have kept := List.head?_dropWhile_not (· == 0) digits
  simp [zero] at kept

theorem dropWhile_zero_lt {digits : List Nat} (bounded : ∀ digit ∈ digits, digit < base) :
    ∀ digit ∈ digits.dropWhile (· == 0), digit < base :=
  fun digit member => bounded digit ((List.dropWhile_sublist _).subset member)

/-- Canonical big-endian digits are recovered from their value. -/
theorem digits_fromBe (wide : 1 < base) (bounded : ∀ digit ∈ digits, digit < base) :
    (Nat.digits base (fromBe base digits)).reverse = digits.dropWhile (· == 0) := by
  rw [← fromBe_dropWhile]
  have bound := dropWhile_zero_lt bounded
  have head := head_dropWhile_zero digits
  generalize digits.dropWhile (· == 0) = canonical at bound head
  have recovered : Nat.digits base (fromBe base canonical) = canonical.reverse := by
    apply Nat.digits_ofDigits base wide
    · exact fun digit member => bound digit (List.mem_reverse.mp member)
    · intro nonempty zero
      apply head
      rw [List.getLast_reverse] at zero
      rw [List.head?_eq_some_head (by simpa using nonempty), zero]
  rw [recovered, List.reverse_reverse]

theorem leading_zeros (digits : List Nat) :
    List.replicate (digits.takeWhile (· == 0)).length 0 = digits.takeWhile (· == 0) := by
  symm
  apply List.eq_replicate_iff.mpr
  refine ⟨rfl, fun digit member => ?_⟩
  simpa using List.mem_takeWhile_imp member

/-- The digits of a number have no leading zero. -/
theorem head_digits_ne_zero (base value : Nat) : (Nat.digits base value).reverse.head? ≠ some 0 := by
  intro zero
  have nonempty : Nat.digits base value ≠ [] := by
    intro empty
    simp [empty] at zero
  have last := Nat.getLast_digit_ne_zero base (Nat.digits_ne_nil_iff_ne_zero.mp nonempty)
  rw [List.head?_reverse, List.getLast?_eq_some_getLast nonempty] at zero
  exact last (Option.some.inj zero)

theorem takeWhile_zero_digits (base value : Nat) : (Nat.digits base value).reverse.takeWhile (· == 0) = [] := by
  have first := head_digits_ne_zero base value
  cases shape : (Nat.digits base value).reverse with
  | nil => rfl
  | cons head rest =>
    rw [shape] at first
    simp [show head ≠ 0 by simpa using first]

theorem takeWhile_rebase (source target : Nat) (digits : List Nat) :
    (rebase source target digits).takeWhile (· == 0) = digits.takeWhile (· == 0) := by
  rw [rebase, leading_zeros, List.takeWhile_append_of_pos (fun _ => List.mem_takeWhile_imp),
    takeWhile_zero_digits, List.append_nil]

/-- Changing base and back is the identity on digits in range. -/
theorem rebase_rebase (wide : 1 < source)
    (bounded : ∀ digit ∈ digits, digit < source) :
    rebase target source (rebase source target digits) = digits := by
  rw [rebase, takeWhile_rebase, fromBe_rebase, leading_zeros,
    digits_fromBe wide bounded, List.takeWhile_append_dropWhile]

theorem rebase_lt (wide : 1 < target) : ∀ digit ∈ rebase source target digits, digit < target := by
  intro digit member
  rcases List.mem_append.mp member with zero | later
  · rw [List.eq_of_mem_replicate zero]
    omega
  · exact Nat.digits_lt_base wide (List.mem_reverse.mp later)

theorem map_toNat_ofNat {digits : List Nat} (bounded : ∀ digit ∈ digits, digit < 256) :
    (digits.map UInt8.ofNat).map UInt8.toNat = digits := by
  rw [List.map_map]
  calc
    digits.map (UInt8.toNat ∘ UInt8.ofNat) = digits.map id :=
      List.map_congr_left fun digit member => UInt8.toNat_ofNat_of_lt' (bounded digit member)
    _ = digits := List.map_id digits

theorem map_ofNat_toNat (bytes : List UInt8) : (bytes.map UInt8.toNat).map UInt8.ofNat = bytes := by
  rw [List.map_map]
  calc
    bytes.map (UInt8.ofNat ∘ UInt8.toNat) = bytes.map id :=
      List.map_congr_left fun _ _ => UInt8.ofNat_toNat
    _ = bytes := List.map_id bytes

theorem map_toNat_inj {xs ys : List UInt8} : xs.map UInt8.toNat = ys.map UInt8.toNat ↔ xs = ys :=
  (List.map_injective_iff.mpr fun _ _ => UInt8.toNat_inj.mp).eq_iff

theorem bytes_lt (bytes : List UInt8) : ∀ digit ∈ bytes.map UInt8.toNat, digit < 256 := by
  intro digit member
  obtain ⟨byte, _, same⟩ := List.mem_map.mp member
  rw [← same]
  exact byte.toNat_lt

theorem fromBeBytes_lt (bytes : List UInt8) : fromBeBytes bytes < 256 ^ bytes.length := by
  have fits := Nat.ofDigits_lt_base_pow_length (by decide) fun digit member =>
    bytes_lt bytes digit (List.mem_reverse.mp member)
  simpa [fromBeBytes, fromBe] using fits

/-- Decoding to bytes and reading them big-endian is reading the text in base 58. -/
theorem decode_value (text : String) : (decode text).map fromBeBytes = textValue text := by
  unfold decode textValue
  cases symbolValues 0 text.toList with
  | error reason => rfl
  | ok values =>
    simp only [Except.map, fromBeBytes]
    rw [map_toNat_ofNat (rebase_lt (by decide)), fromBe_rebase]

theorem map_toNat_toBeBytes (value : Nat) :
    (toBeBytes value).map UInt8.toNat = (Nat.digits 256 value).reverse :=
  map_toNat_ofNat fun _ member => Nat.digits_lt_base (by decide) (List.mem_reverse.mp member)

@[simp] theorem fromBeBytes_toBeBytes (value : Nat) : fromBeBytes (toBeBytes value) = value := by
  rw [fromBeBytes, map_toNat_toBeBytes, fromBe, List.reverse_reverse, Nat.ofDigits_digits]

/-- The alphabet is in the order of the code points. -/
theorem alphabet_ascending : (alphabet.map Char.toNat).Pairwise (· < ·) := by
  have ascending : (alphabet.map Char.toNat).IsChain (· < ·) := by decide
  exact ascending.pairwise

theorem alphabet_nodup : alphabet.Nodup := .of_map _ (alphabet_ascending.imp Nat.ne_of_lt)

theorem idxOf_symbol (below : value < 58) : alphabet.idxOf? (symbol value) = some value := by
  have bound : value < alphabet.length := by rwa [length_alphabet]
  rw [symbol, List.getD_eq_getElem alphabet '1' bound, List.idxOf?_eq_some_iff]
  refine ⟨bound, rfl, ?_⟩
  intro other earlier same
  exact Nat.ne_of_lt earlier (alphabet_nodup.getElem_inj_iff.mp same)

theorem symbol_ascii (below : value < 58) : ¬ 127 < (symbol value).toNat := by
  have all : (alphabet.all fun character => character.toNat ≤ 127) = true := by decide
  have bound : value < alphabet.length := by rwa [length_alphabet]
  rw [symbol, List.getD_eq_getElem alphabet '1' bound, Nat.not_lt]
  exact of_decide_eq_true (List.all_eq_true.mp all _ (List.getElem_mem bound))

theorem symbol_of_idxOf (found : alphabet.idxOf? character = some value) :
    symbol value = character := by
  obtain ⟨bound, same, _⟩ := List.idxOf?_eq_some_iff.mp found
  rw [symbol, List.getD_eq_getElem alphabet '1' bound, same]

theorem symbol_lt_iff (left : a < 58) (right : b < 58) : symbol a < symbol b ↔ a < b := by
  have ascends : ∀ {a b}, a < b → b < 58 → symbol a < symbol b := by
    intro a b before bound
    have last : b < alphabet.length := by rwa [length_alphabet]
    have first : a < alphabet.length := Nat.lt_trans before last
    rw [symbol, symbol, List.getD_eq_getElem alphabet '1' first, List.getD_eq_getElem alphabet '1' last]
    exact List.pairwise_iff_getElem.mp (List.pairwise_map.mp alphabet_ascending) a b first last before
  refine ⟨fun before => ?_, fun before => ascends before right⟩
  rcases Nat.lt_trichotomy a b with below | same | above
  · exact below
  · subst same
    exact absurd before (Nat.lt_irrefl _)
  · exact absurd (ascends above left) (Nat.lt_asymm before)

theorem symbol_eq_one_iff (below : value < 58) : symbol value = '1' ↔ value = 0 := by
  have one : symbol 0 = '1' := by decide
  constructor
  · intro same
    have first := idxOf_symbol (show 0 < 58 by decide)
    rw [one, ← same, idxOf_symbol below] at first
    exact Option.some.inj first
  · rintro rfl
    exact one

theorem symbolValues_symbols {values : List Nat} (bounded : ∀ value ∈ values, value < 58)
    (index : Nat) : symbolValues index (values.map symbol) = .ok values := by
  induction values generalizing index with
  | nil => rfl
  | cons value rest ih =>
    have below : value < 58 := bounded value (by simp)
    have later : ∀ value ∈ rest, value < 58 := fun value member => bounded value (by simp [member])
    simp [symbolValues, symbol_ascii below, idxOf_symbol below, ih later, Except.map]

theorem symbols_of_symbolValues (decoded : symbolValues index text = .ok values) :
    values.map symbol = text := by
  induction text generalizing index values with
  | nil => cases decoded; rfl
  | cons character rest ih =>
    unfold symbolValues at decoded
    split at decoded
    · cases decoded
    · split at decoded
      · cases decoded
      · rename_i value found
        cases tail : symbolValues (index + 1) rest with
        | error reason => simp [tail, Except.map] at decoded
        | ok later =>
          rw [tail] at decoded
          cases decoded
          rw [List.map_cons, ih tail, symbol_of_idxOf found]

/-- `bs58` gives back every byte string it encoded. -/
@[simp] theorem decode_encode (bytes : List UInt8) : decode (encode bytes) = .ok bytes := by
  unfold decode encode
  rw [String.toList_ofList, symbolValues_symbols (rebase_lt (by decide)), Except.map,
    rebase_rebase (by decide) (bytes_lt bytes), map_ofNat_toNat]

theorem dropWhile_symbols {values : List Nat} (bounded : ∀ value ∈ values, value < 58) :
    (values.map symbol).dropWhile (· == '1') = (values.dropWhile (· == 0)).map symbol := by
  induction values with
  | nil => rfl
  | cons value rest ih =>
    have one := symbol_eq_one_iff (bounded value (by simp))
    have later := ih fun value member => bounded value (by simp [member])
    by_cases zero : value = 0
    · subst value
      simpa [List.dropWhile_cons, one.mpr rfl] using later
    · have other : symbol value ≠ '1' := fun same => zero (one.mp same)
      simp [zero, other]

/-- Two texts of one value differ at most in their leading `1`s. -/
theorem stripped_eq_of_value (left : textValue a = .ok value) (right : textValue b = .ok value) :
    stripped a = stripped b := by
  have spell : ∀ {text : String}, textValue text = .ok value →
      ∃ values, (∀ symbol ∈ values, symbol < 58) ∧ fromBe 58 values = value ∧
        stripped text = (values.dropWhile (· == 0)).map symbol := by
    intro text decoded
    unfold textValue at decoded
    cases parsed : symbolValues 0 text.toList with
    | error reason => simp [parsed, Except.map] at decoded
    | ok values =>
      rw [parsed] at decoded
      have bounded := symbolValues_lt parsed
      refine ⟨values, bounded, Except.ok.inj decoded, ?_⟩
      rw [stripped, ← symbols_of_symbolValues parsed, dropWhile_symbols bounded]
  obtain ⟨leftValues, leftBound, leftSum, leftText⟩ := spell left
  obtain ⟨rightValues, rightBound, rightSum, rightText⟩ := spell right
  have same : leftValues.dropWhile (· == 0) = rightValues.dropWhile (· == 0) := by
    rw [← digits_fromBe (by decide) leftBound, ← digits_fromBe (by decide) rightBound,
      leftSum, rightSum]
  rw [leftText, rightText, same]

/-- Digits without a leading zero go over to such digits. -/
theorem rebase_digits (source target value : Nat) :
    rebase source target (Nat.digits source value).reverse = (Nat.digits target value).reverse := by
  rw [rebase, takeWhile_zero_digits, fromBe, List.reverse_reverse, Nat.ofDigits_digits]
  rfl

theorem toList_encode_toBeBytes (value : Nat) :
    (encode (toBeBytes value)).toList = (Nat.digits 58 value).reverse.map symbol := by
  rw [encode, String.toList_ofList, map_toNat_toBeBytes, rebase_digits]

/-- A number's own bytes are spelled without a leading `1`. -/
theorem stripped_encode_toBeBytes (value : Nat) :
    stripped (encode (toBeBytes value)) = (encode (toBeBytes value)).toList := by
  have bounded : ∀ digit ∈ (Nat.digits 58 value).reverse, digit < 58 :=
    fun digit member => Nat.digits_lt_base (by decide) (List.mem_reverse.mp member)
  have whole := List.takeWhile_append_dropWhile (p := (· == 0)) (l := (Nat.digits 58 value).reverse)
  rw [takeWhile_zero_digits, List.nil_append] at whole
  rw [stripped, toList_encode_toBeBytes, dropWhile_symbols bounded, whole]

theorem stripped_eq_self_iff {text : String} :
    stripped text = text.toList ↔ text.toList.head? ≠ some '1' := by
  unfold stripped
  cases text.toList with
  | nil => simp
  | cons head rest =>
    by_cases one : head = '1'
    · subst head
      have shorter := (List.dropWhile_sublist (l := rest) (· == '1')).length_le
      have differ : rest.dropWhile (· == '1') ≠ '1' :: rest := by
        intro same
        rw [same] at shorter
        simp at shorter
      simpa [List.dropWhile_cons] using differ
    · simp [one]

end X402Nockchain.Foundation.Base58
