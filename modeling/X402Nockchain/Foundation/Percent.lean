import Mathlib.Data.List.Basic
import X402Nockchain.Foundation.Text

/-! Reading a query string: percent-decoding, and UTF-8 in which every malformed
sequence is read as U+FFFD. -/

namespace X402Nockchain.Foundation

/-! ### `String::from_utf8_lossy` -/

namespace Utf8

def replacement : Char := Char.ofNat 0xFFFD

/-- A character of which the first bytes are read: the bounds of the next byte, how
many come after it, and the bits read so far. -/
structure Begun where
  low : UInt8
  high : UInt8
  more : Nat
  bits : Nat
  continues : 0x80 ≤ low

/-- What a first byte announces. -/
def announced (byte : UInt8) : Option Begun :=
  if 0xC2 ≤ byte ∧ byte ≤ 0xDF then some ⟨0x80, 0xBF, 0, byte.toNat - 0xC0, by decide⟩
  else if byte = 0xE0 then some ⟨0xA0, 0xBF, 1, 0, by decide⟩
  else if byte = 0xED then some ⟨0x80, 0x9F, 1, 0xD, by decide⟩
  else if 0xE1 ≤ byte ∧ byte ≤ 0xEF then some ⟨0x80, 0xBF, 1, byte.toNat - 0xE0, by decide⟩
  else if byte = 0xF0 then some ⟨0x90, 0xBF, 2, 0, by decide⟩
  else if 0xF1 ≤ byte ∧ byte ≤ 0xF3 then some ⟨0x80, 0xBF, 2, byte.toNat - 0xF0, by decide⟩
  else if byte = 0xF4 then some ⟨0x80, 0x8F, 2, 4, by decide⟩
  else none

/-- The characters that a byte ends, and the one that it begins. -/
def start (byte : UInt8) : List Char × Option Begun :=
  if byte < 0x80 then ([Char.ofNat byte.toNat], none)
  else match announced byte with
    | none => ([replacement], none)
    | some begun => ([], some begun)

/-- A byte that does not continue what was begun starts anew. -/
def step : Option Begun → UInt8 → List Char × Option Begun
  | none, byte => start byte
  | some begun, byte =>
    if begun.low ≤ byte ∧ byte ≤ begun.high then
      let bits := begun.bits * 64 + (byte.toNat - 0x80)
      match begun.more with
      | 0 => ([Char.ofNat bits], none)
      | more + 1 => ([], some ⟨0x80, 0xBF, more, bits, by decide⟩)
    else (replacement :: (start byte).1, (start byte).2)

def decodeFrom : Option Begun → List UInt8 → List Char
  | none, [] => []
  | some _, [] => [replacement]
  | state, byte :: rest => (step state byte).1 ++ decodeFrom (step state byte).2 rest

def fromUtf8Lossy (bytes : List UInt8) : String := String.ofList (decodeFrom none bytes)

example : fromUtf8Lossy [0x41, 0xC3, 0xA9, 0xE2, 0x82, 0xAC, 0xE2, 0x82, 0x41] = "Aé€\uFFFDA" := by decide

/-- A character of seven bits. -/
def Ascii (c : Char) : Prop := c.toNat < 0x80

instance : DecidablePred Ascii := fun c => inferInstanceAs (Decidable (c.toNat < 0x80))

/-- A character that takes more than one byte to be read. -/
def Wide (c : Char) : Prop := ¬ Ascii c ∧ c ≠ replacement

instance : DecidablePred Wide := fun c => inferInstanceAs (Decidable (¬ Ascii c ∧ c ≠ replacement))

/-- The bytes that were read of a character that is begun: one at least. -/
def owed : Option Begun → Nat
  | none => 0
  | some _ => 1

theorem start_ascii {byte : UInt8} (ascii : byte < 0x80) : start byte = ([Char.ofNat byte.toNat], none) :=
  if_pos ascii

theorem ascii_ofNat {byte : UInt8} (ascii : byte < 0x80) : Ascii (Char.ofNat byte.toNat) := by
  have small : byte.toNat < 0x80 := UInt8.lt_iff_toNat_lt.mp ascii
  have valid : byte.toNat.isValidChar := .inl (by omega)
  rw [Ascii, Char.ofNat, dif_pos valid]
  exact small

theorem not_wide_replacement : ¬ Wide replacement := fun wide => wide.2 rfl

/-- A byte of seven bits is never part of a longer sequence. -/
theorem step_ascii (state : Option Begun) {byte : UInt8} (ascii : byte < 0x80) :
    ∃ before, (step state byte).1 = before ++ [Char.ofNat byte.toNat] ∧ (∀ c ∈ before, ¬ Wide c) ∧
      (step state byte).2 = none := by
  cases state with
  | none => exact ⟨[], by rw [step, start_ascii ascii]; rfl, nofun, by rw [step, start_ascii ascii]⟩
  | some begun =>
    have refused : ¬ (begun.low ≤ byte ∧ byte ≤ begun.high) := fun within =>
      absurd ascii (UInt8.not_lt.mpr (UInt8.le_trans begun.continues within.1))
    refine ⟨[replacement], ?_, ?_, ?_⟩
    · rw [step, if_neg refused, start_ascii ascii]
      rfl
    · intro c member
      rw [List.mem_singleton.mp member]
      exact not_wide_replacement
    · rw [step, if_neg refused, start_ascii ascii]

/-- A byte that starts anew ends no wide character. -/
theorem start_high (byte : UInt8) (high : ¬ byte < 0x80) : (start byte).1.countP (Wide ·) = 0 := by
  rw [start, if_neg high]
  cases announced byte <;> rfl

theorem owed_le (state : Option Begun) : owed state ≤ 1 := by
  cases state with
  | none => exact Nat.zero_le 1
  | some begun => exact Nat.le_refl 1

/-- Two bytes of eight bits at least are spent on a wide character. -/
theorem step_high (state : Option Begun) {byte : UInt8} (high : ¬ byte < 0x80) :
    2 * (step state byte).1.countP (Wide ·) + owed (step state byte).2 ≤ owed state + 1 := by
  cases state with
  | none =>
    have next := owed_le (start byte).2
    rw [step, start_high byte high]
    omega
  | some begun =>
    rw [step]
    split
    · split
      · rename_i last
        have one := List.countP_le_length (p := (Wide ·))
          (l := [Char.ofNat (begun.bits * 64 + (byte.toNat - 0x80))])
        change 2 * List.countP (Wide ·) [_] + 0 ≤ 1 + 1
        rw [List.length_singleton] at one
        omega
      · exact Nat.le_succ 1
    · have next := owed_le (start byte).2
      have none' : (replacement :: (start byte).1).countP (Wide ·) = 0 := by
        rw [List.countP_cons_of_neg (by simpa using not_wide_replacement), start_high byte high]
      change 2 * (replacement :: (start byte).1).countP (Wide ·) + owed (start byte).2 ≤ 1 + 1
      omega

/-- Every byte of seven bits is read as itself. -/
theorem ascii_kept (state : Option Begun) (bytes : List UInt8) :
    bytes.countP (· < 0x80) ≤ (decodeFrom state bytes).countP (Ascii ·) := by
  induction bytes generalizing state with
  | nil => exact Nat.zero_le _
  | cons byte rest ih =>
    have later := ih (step state byte).2
    rw [decodeFrom, List.countP_append]
    by_cases ascii : byte < 0x80
    · obtain ⟨before, read, _, _⟩ := step_ascii state ascii
      have counted : (byte :: rest).countP (· < 0x80) = rest.countP (· < 0x80) + 1 :=
        List.countP_cons_of_pos (decide_eq_true ascii)
      have itself : 0 < (step state byte).1.countP (Ascii ·) := by
        rw [read, List.countP_pos_iff]
        exact ⟨_, List.mem_concat_self, decide_eq_true (ascii_ofNat ascii)⟩
      omega
    · have counted : (byte :: rest).countP (· < 0x80) = rest.countP (· < 0x80) :=
        List.countP_cons_of_neg (by simpa using ascii)
      omega

/-- A wide character is read from two bytes of eight bits at least. -/
theorem wide_spent (state : Option Begun) (bytes : List UInt8) :
    2 * (decodeFrom state bytes).countP (Wide ·) ≤ bytes.countP (fun byte => ¬ byte < 0x80) + owed state := by
  induction bytes generalizing state with
  | nil => cases state <;> exact Nat.zero_le _
  | cons byte rest ih =>
    have later := ih (step state byte).2
    rw [decodeFrom, List.countP_append]
    by_cases ascii : byte < 0x80
    · obtain ⟨before, read, plain, next⟩ := step_ascii state ascii
      have counted : (byte :: rest).countP (fun byte => ¬ byte < 0x80) = rest.countP (fun byte => ¬ byte < 0x80) :=
        List.countP_cons_of_neg (by simpa using ascii)
      have none' : (step state byte).1.countP (Wide ·) = 0 := by
        rw [read, List.countP_eq_zero]
        intro c member
        obtain earlier | last := List.mem_append.mp member
        · simpa using plain c earlier
        · rw [List.mem_singleton.mp last, decide_eq_true_iff]
          exact fun wide => wide.1 (ascii_ofNat ascii)
      rw [next, owed] at later
      rw [next, none']
      omega
    · have counted : (byte :: rest).countP (fun byte => ¬ byte < 0x80) =
          rest.countP (fun byte => ¬ byte < 0x80) + 1 := List.countP_cons_of_pos (by simpa using ascii)
      have spent := step_high state ascii
      omega

/-- Where no more entries are counted for a weaker reason, none holds for that alone. -/
theorem of_countP_le {stronger weaker : α → Bool}
    (implies : ∀ value, stronger value = true → weaker value = true)
    {values : List α} (most : values.countP weaker ≤ values.countP stronger) :
    ∀ value ∈ values, weaker value = true → stronger value = true := by
  have same : values.filter stronger = values.filter weaker := by
    apply (List.monotone_filter_right values implies).eq_of_length_le
    rw [← List.countP_eq_length_filter, ← List.countP_eq_length_filter]
    exact most
  intro value member holds
  have kept : value ∈ values.filter stronger := same ▸ List.mem_filter.mpr ⟨member, holds⟩
  exact (List.mem_filter.mp kept).2

/-- The byte of a character of seven bits. -/
def byteOf (c : Char) : UInt8 := UInt8.ofNat c.toNat

theorem toNat_byteOf {c : Char} (small : c.toNat < 256) : (byteOf c).toNat = c.toNat := by
  rw [byteOf, UInt8.toNat_ofNat', Nat.mod_eq_of_lt small]

theorem byteOf_injective {c other : Char} (ascii : Ascii c) (ascii' : Ascii other)
    (same : byteOf c = byteOf other) : c = other := by
  have values := congrArg UInt8.toNat same
  rw [toNat_byteOf (Nat.lt_trans ascii (by decide)), toNat_byteOf (Nat.lt_trans ascii' (by decide))] at values
  exact Char.toNat_inj.mp values

theorem byteOf_lt {c : Char} (ascii : Ascii c) : byteOf c < 0x80 := by
  rw [UInt8.lt_iff_toNat_lt, toNat_byteOf (Nat.lt_trans ascii (by decide))]
  exact ascii

/-- Bytes of seven bits are read one by one. -/
theorem decodeFrom_ascii {text : List Char} (ascii : ∀ c ∈ text, Ascii c) :
    decodeFrom none (text.map byteOf) = text := by
  induction text with
  | nil => rfl
  | cons c rest ih =>
    rw [List.forall_mem_cons] at ascii
    have value : (byteOf c).toNat = c.toNat := toNat_byteOf (Nat.lt_trans ascii.1 (by decide))
    rw [List.map_cons, decodeFrom, step, start_ascii (byteOf_lt ascii.1), value, Char.ofNat_toNat, ih ascii.2]
    rfl

end Utf8

open Utf8

/-! ### `form_urlencoded` -/

/-- The value of a hexadecimal digit of either case. -/
def hexValue (byte : UInt8) : Option Nat :=
  if 0x30 ≤ byte ∧ byte ≤ 0x39 then some (byte.toNat - 0x30)
  else if 0x41 ≤ byte ∧ byte ≤ 0x46 then some (byte.toNat - 0x37)
  else if 0x61 ≤ byte ∧ byte ≤ 0x66 then some (byte.toNat - 0x57)
  else none

/-- A `%` before two hexadecimal digits is the byte they spell. -/
def percentDecode : List UInt8 → List UInt8
  | byte :: high :: low :: rest =>
    if byte = 0x25 then
      match hexValue high, hexValue low with
      | some upper, some lower => UInt8.ofNat (16 * upper + lower) :: percentDecode rest
      | _, _ => byte :: percentDecode (high :: low :: rest)
    else byte :: percentDecode (high :: low :: rest)
  | short => short

/-- A name or a value of a query. -/
def decodePart (bytes : List UInt8) : String :=
  fromUtf8Lossy (percentDecode (bytes.map fun byte => if byte = 0x2B then 0x20 else byte))

/-- The pairs of a query string. -/
def parseQuery (query : String) : List (String × String) :=
  (((asBytes query).splitOn 0x26).filter (· ≠ [])).map fun part =>
    (decodePart (part.takeWhile (· ≠ 0x3D)), decodePart ((part.dropWhile (· ≠ 0x3D)).drop 1))

example : parseQuery "type=a%20b+c&x&limit=%C3%A9%4" = [("type", "a b c"), ("x", ""), ("limit", "é%4")] := by
  decide

theorem percentDecode_cons {byte : UInt8} (plain : byte ≠ 0x25) (rest : List UInt8) :
    percentDecode (byte :: rest) = byte :: percentDecode rest := by
  match rest with
  | [] => rfl
  | [_] => rfl
  | _ :: _ :: _ => rw [percentDecode, if_neg plain]

theorem percentDecode_escape {high low : UInt8} (upper : hexValue high = some a) (lower : hexValue low = some b)
    (rest : List UInt8) :
    percentDecode (0x25 :: high :: low :: rest) = UInt8.ofNat (16 * a + b) :: percentDecode rest := by
  rw [percentDecode, if_pos rfl, upper, lower]

/-- Bytes that are not escaped are passed over. -/
theorem percentDecode_plain {front : List UInt8} (plain : ∀ byte ∈ front, byte ≠ 0x25) (rest : List UInt8) :
    percentDecode (front ++ rest) = front ++ percentDecode rest := by
  induction front with
  | nil => rfl
  | cons byte more ih =>
    rw [List.forall_mem_cons] at plain
    rw [List.cons_append, percentDecode_cons plain.1, ih plain.2]
    rfl

/-- The bytes of a text of ASCII characters. -/
theorem asBytes_ofList {text : List Char} (ascii : ∀ c ∈ text, Ascii c) :
    asBytes (String.ofList text) = text.map byteOf := by
  have encoded : asBytes (String.ofList text) = text.flatMap String.utf8EncodeChar := by
    simp [asBytes, List.utf8Encode]
  rw [encoded]
  clear encoded
  induction text with
  | nil => rfl
  | cons c rest ih =>
    rw [List.forall_mem_cons] at ascii
    have single : c.utf8Size = 1 := by
      have small : c.val ≤ 127 := UInt32.le_iff_toNat_le.mpr (Nat.le_of_lt_succ ascii.1)
      exact if_pos small
    have bytes : String.utf8EncodeChar c = [byteOf c] := by
      rw [String.utf8EncodeChar_eq_singleton single]
      rfl
    rw [List.flatMap_cons, bytes, ih ascii.2]
    rfl

theorem map_intercalate (f : α → β) (separator : List α) (parts : List (List α)) :
    (separator.intercalate parts).map f = (separator.map f).intercalate (parts.map (List.map f)) := by
  induction parts with
  | nil => rfl
  | cons first rest ih => cases rest <;> simp_all

theorem forall_mem_intercalate {holds : α → Prop} {separator : List α} {parts : List (List α)}
    (between : ∀ value ∈ separator, holds value) (inside : ∀ part ∈ parts, ∀ value ∈ part, holds value) :
    ∀ value ∈ separator.intercalate parts, holds value := by
  induction parts with
  | nil => nofun
  | cons first rest ih =>
    rw [List.forall_mem_cons] at inside
    have later := ih inside.2
    cases rest with
    | nil =>
      rw [List.intercalate_singleton]
      exact inside.1
    | cons second rest =>
      rw [List.intercalate_cons_cons, List.forall_mem_append, List.forall_mem_append]
      exact ⟨⟨inside.1, between⟩, later⟩

/-- A name and a value whose characters separate nothing. -/
structure Separable (part : List Char × List Char) : Prop where
  name : ∀ c ∈ part.1, Ascii c ∧ c ≠ '&' ∧ c ≠ '='
  value : ∀ c ∈ part.2, Ascii c ∧ c ≠ '&'

/-- `name=value`. -/
def partText (part : List Char × List Char) : List Char := part.1 ++ '=' :: part.2

theorem Separable.ascii (separable : Separable part) : ∀ c ∈ partText part, Ascii c := by
  rw [partText, List.forall_mem_append, List.forall_mem_cons]
  exact ⟨fun c member => (separable.name c member).1, by decide, fun c member => (separable.value c member).1⟩

theorem not_mem_map_byteOf (other : Char) (ascii' : Ascii other) {text : List Char} (ascii : ∀ c ∈ text, Ascii c)
    (absent : other ∉ text) : byteOf other ∉ text.map byteOf := by
  intro member
  obtain ⟨c, inside, same⟩ := List.mem_map.mp member
  exact absent (byteOf_injective (ascii c inside) ascii' same ▸ inside)

theorem Separable.unsplit (separable : Separable part) : 0x26 ∉ (partText part).map byteOf := by
  refine not_mem_map_byteOf '&' (by decide) separable.ascii fun member => ?_
  rw [partText, List.mem_append, List.mem_cons] at member
  obtain inside | same | inside := member
  · exact (separable.name '&' inside).2.1 rfl
  · exact absurd same (by decide)
  · exact (separable.value '&' inside).2 rfl

/-- The name ends at the first `=`. -/
theorem Separable.splits (separable : Separable part) :
    ((partText part).map byteOf).takeWhile (· ≠ 0x3D) = part.1.map byteOf ∧
      (((partText part).map byteOf).dropWhile (· ≠ 0x3D)).drop 1 = part.2.map byteOf := by
  have absent : 0x3D ∉ part.1.map byteOf := not_mem_map_byteOf '=' (by decide)
    (fun c member => (separable.name c member).1) fun member => (separable.name '=' member).2.2 rfl
  have before : ∀ byte ∈ part.1.map byteOf, decide (byte ≠ 0x3D) = true := fun byte member =>
    decide_eq_true fun same => absent (same ▸ member)
  rw [partText, List.map_append, List.takeWhile_append_of_pos before, List.dropWhile_append_of_pos before]
  exact ⟨List.append_nil _, rfl⟩

/-- The bytes of a query that was joined from parts. -/
theorem asBytes_join {parts : List (List Char × List Char)} (separable : ∀ part ∈ parts, Separable part) :
    asBytes ("&".intercalate (parts.map fun part => String.ofList (partText part))) =
      [0x26].intercalate (parts.map fun part => (partText part).map byteOf) := by
  have ascii : ∀ c ∈ ['&'].intercalate (parts.map partText), Ascii c := by
    have ampersand : Ascii '&' := by decide
    refine forall_mem_intercalate (List.forall_mem_singleton.mpr ampersand) fun text member => ?_
    obtain ⟨part, inside, rfl⟩ := List.mem_map.mp member
    exact (separable part inside).ascii
  have query : "&".intercalate (parts.map fun part => String.ofList (partText part)) =
      String.ofList (['&'].intercalate (parts.map partText)) := by
    have texts : (parts.map fun part => String.ofList (partText part)).map String.toList = parts.map partText := by
      rw [List.map_map]
      exact List.map_congr_left fun part _ => String.toList_ofList
    rw [← String.toList_inj, String.toList_intercalate, texts, String.toList_ofList, String.toList_ofList]
  rw [query, asBytes_ofList ascii, map_intercalate, List.map_map]
  rfl

/-- The pairs that were joined are the pairs that are read. -/
theorem parseQuery_join {parts : List (List Char × List Char)} (separable : ∀ part ∈ parts, Separable part) :
    parseQuery ("&".intercalate (parts.map fun part => String.ofList (partText part))) =
      parts.map fun part => (decodePart (part.1.map byteOf), decodePart (part.2.map byteOf)) := by
  have split : (([0x26].intercalate (parts.map fun part => (partText part).map byteOf)).splitOn 0x26).filter (· ≠ []) =
      parts.map fun part => (partText part).map byteOf := by
    cases parts with
    | nil => rfl
    | cons first rest =>
      rw [List.splitOn_intercalate, List.filter_eq_self]
      · intro bytes member
        obtain ⟨part, _, rfl⟩ := List.mem_map.mp member
        exact decide_eq_true (by simp [partText])
      · intro bytes member
        obtain ⟨part, inside, rfl⟩ := List.mem_map.mp member
        exact (separable part inside).unsplit
      · exact List.cons_ne_nil _ _
  rw [parseQuery, asBytes_join separable, split, List.map_map]
  apply List.map_congr_left
  intro part member
  obtain ⟨name, value⟩ := (separable part member).splits
  rw [Function.comp_apply, name, value]

end X402Nockchain.Foundation
