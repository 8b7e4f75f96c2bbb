import Mathlib.Data.Nat.Digits.Defs
import X402Nockchain.Facilitator.Discovery
import X402Nockchain.Foundation.Decimal
import X402Nockchain.Foundation.Percent

/-! The query string that `BazaarClient::list_resources` builds, and what the
facilitator's `Query<ListParams>` makes of it. -/

namespace X402Nockchain.Client

open Foundation Foundation.Utf8 X402Types Facilitator

/-! ### The client -/

/-- The characters that `percent_encode` leaves as they are. -/
def unreserved (c : Char) : Bool :=
  c.isUpper || c.isLower || c.isDigit || c == '-' || c == '_' || c == '.' || c == '~'

def hexDigit (digit : Nat) : Char := Char.ofNat (if digit < 10 then 0x30 + digit else 0x37 + digit)

/-- `format!("{:02X}", value)`. -/
def upperHex (value : Nat) : List Char :=
  let digits := (Nat.digits 16 value).reverse.map hexDigit
  List.replicate (2 - digits.length) '0' ++ digits

/-- What `percent_encode` writes of a character: its code point is escaped, not the
bytes of its encoding. -/
def percentEncodeChar (c : Char) : List Char := if unreserved c then [c] else '%' :: upperHex c.toNat

def percentEncode (text : String) : String := String.ofList (text.toList.flatMap percentEncodeChar)

/-- `qs` of `BazaarClient::list_resources`. -/
def queryParts (params : ListDiscoveryResourcesParams) : List String := [
  params.kind.map fun k => s!"type={percentEncode k}",
  params.limit.map fun l => s!"limit={l.toNat}",
  params.offset.map fun o => s!"offset={o.toNat}",
  params.network.map fun n => s!"network={percentEncode n}",
  params.scheme.map fun s => s!"scheme={percentEncode s}"].reduceOption

/-- The query of the URL, if it has one. -/
def listQuery (params : ListDiscoveryResourcesParams) : Option String :=
  if queryParts params = [] then none else some ("&".intercalate (queryParts params))

/-! ### The facilitator -/

def parseU32 (text : String) : Option UInt32 := (Decimal.parseUnsigned (2 ^ 32) text).map UInt32.ofNat

def listFields : List String := ["type", "limit", "offset", "network", "scheme"]

/-- `Query<ListParams>`. A field that occurs twice or a limit that is not a `u32` is refused. -/
def readListParams (query : Option String) : Option ListParams := do
  let pairs := parseQuery (query.getD "")
  guard ((pairs.map Prod.fst).filter (· ∈ listFields)).Nodup
  let limit ← (pairs.lookup "limit").mapM parseU32
  let offset ← (pairs.lookup "offset").mapM parseU32
  return {
    kind := pairs.lookup "type"
    limit
    offset
    network := pairs.lookup "network"
    scheme := pairs.lookup "scheme" }

example : listQuery { kind := some "mcp é", limit := some 5 } = some "type=mcp%20%E9&limit=5" := by decide

/-! ### What is decoded of one character -/

/-- A byte that separates nothing in a query, and is read as itself. -/
structure Plain (c : Char) : Prop where
  ascii : Ascii c
  percent : c ≠ '%'
  others : c ≠ '&' ∧ c ≠ '+' ∧ c ≠ '='

theorem ascii_of_le {c last : Char} (below : c.val ≤ last.val) (ascii : Ascii last) : Ascii c :=
  Nat.lt_of_le_of_lt (UInt32.le_iff_toNat_le.mp below) ascii

theorem plain_of_unreserved (kept : unreserved c = true) : Plain c := by
  simp only [unreserved, Bool.or_eq_true, beq_iff_eq] at kept
  refine ⟨?_, ?_, ?_, ?_, ?_⟩
  · rcases kept with (((((upper | lower) | digit) | rfl) | rfl) | rfl) | rfl
    · have bounds : 'A'.val ≤ c.val ∧ c.val ≤ 'Z'.val := of_decide_eq_true upper
      exact ascii_of_le bounds.2 (by decide)
    · obtain ⟨_, below⟩ := Bool.and_eq_true_iff.mp lower
      exact ascii_of_le (of_decide_eq_true below) (by decide)
    · obtain ⟨_, below⟩ := Bool.and_eq_true_iff.mp digit
      exact ascii_of_le (of_decide_eq_true below) (by decide)
    all_goals decide
  all_goals
    rintro rfl
    revert kept
    decide

theorem hexDigit_reads : ∀ digit < 16,
    hexValue (byteOf (hexDigit digit)) = some digit ∧ unreserved (hexDigit digit) = true := by
  decide

/-- At least two digits are written, and two are enough for a byte. -/
theorem upperHex_eq (value : Nat) : ∃ upper lower more,
    upperHex value = (upper :: lower :: more).map hexDigit ∧
    (∀ digit ∈ upper :: lower :: more, digit < 16) ∧
    (value < 256 → more = [] ∧ 16 * upper + lower = value) ∧
    (256 ≤ value → more ≠ []) := by
  by_cases small : value < 256
  · refine ⟨value / 16, value % 16, [], ?_, ?_, fun _ => ⟨rfl, Nat.div_add_mod _ _⟩, fun large => by omega⟩
    · obtain rfl | positive := Nat.eq_zero_or_pos value
      · decide
      · rw [upperHex, Nat.digits_def' (by decide) positive]
        by_cases tiny : value / 16 = 0
        · simp [tiny, hexDigit]
        · rw [Nat.digits_of_lt 16 _ tiny (by omega)]
          rfl
    · simp only [List.mem_cons, List.not_mem_nil, or_false, forall_eq_or_imp, forall_eq]
      omega
  · have long : 2 < (Nat.digits 16 value).reverse.length := by
      rw [List.length_reverse]
      by_contra short
      have bound := Nat.lt_base_pow_length_digits (b := 16) (m := value) (by decide)
      have : 16 ^ (Nat.digits 16 value).length ≤ 16 ^ 2 := Nat.pow_le_pow_right (by decide) (by omega)
      omega
    have bounded : ∀ digit ∈ (Nat.digits 16 value).reverse, digit < 16 := fun digit member =>
      Nat.digits_lt_base (by decide) (List.mem_reverse.mp member)
    rw [upperHex]
    generalize (Nat.digits 16 value).reverse = digits at long bounded ⊢
    match digits, long with
    | upper :: lower :: third :: more, _ =>
      refine ⟨upper, lower, third :: more, ?_, bounded, fun below => absurd below small, fun _ => nofun⟩
      simp

/-- What is decoded of an encoded character: itself if it is ASCII, and else at most
one byte of eight bits. What a code point does not fit into that byte is ASCII. -/
structure Sent (c : Char) (bytes : List UInt8) : Prop where
  decoded : ∀ rest, percentDecode ((percentEncodeChar c).map byteOf ++ rest) = bytes ++ percentDecode rest
  itself : Ascii c → bytes = [byteOf c]
  high : bytes.countP (fun byte => ¬ byte < 0x80) ≤ if Ascii c then 0 else 1
  low : (if Ascii c ∨ 256 ≤ c.toNat then 1 else 0) ≤ bytes.countP (· < 0x80)

theorem sent_ascii (ascii : Ascii c)
    (decoded : ∀ rest, percentDecode ((percentEncodeChar c).map byteOf ++ rest) = byteOf c :: percentDecode rest) :
    Sent c [byteOf c] where
  decoded := decoded
  itself _ := rfl
  high := by simp [byteOf_lt ascii]
  low := by simp [byteOf_lt ascii, ascii]

theorem sent_plain (kept : unreserved c = true) : Sent c [byteOf c] := by
  obtain ⟨ascii, percent, _⟩ := plain_of_unreserved kept
  have plain : byteOf c ≠ 0x25 := fun same => percent (byteOf_injective ascii (by decide) same)
  apply sent_ascii ascii
  intro rest
  rw [percentEncodeChar, if_pos kept]
  exact percentDecode_cons plain rest

/-- The digits beyond the first two are passed over. -/
theorem sent_escaped (escapes : unreserved c = false) : ∃ bytes, Sent c bytes := by
  obtain ⟨upper, lower, more, written, bounded, small, large⟩ := upperHex_eq c.toNat
  rw [List.forall_mem_cons, List.forall_mem_cons] at bounded
  obtain ⟨first, second, others⟩ := bounded
  have encoded : (percentEncodeChar c).map byteOf =
      0x25 :: byteOf (hexDigit upper) :: byteOf (hexDigit lower) :: more.map (byteOf ∘ hexDigit) := by
    rw [percentEncodeChar, if_neg (by simp [escapes]), written, List.map_cons, List.map_map]
    rfl
  have digits : ∀ byte ∈ more.map (byteOf ∘ hexDigit), byte ≠ 0x25 ∧ byte < 0x80 := by
    intro byte member
    obtain ⟨digit, inside, rfl⟩ := List.mem_map.mp member
    obtain ⟨ascii, percent, _⟩ := plain_of_unreserved (hexDigit_reads digit (others digit inside)).2
    exact ⟨fun same => percent (byteOf_injective ascii (by decide) same), byteOf_lt ascii⟩
  have decoded (rest : List UInt8) : percentDecode ((percentEncodeChar c).map byteOf ++ rest) =
      UInt8.ofNat (16 * upper + lower) :: (more.map (byteOf ∘ hexDigit) ++ percentDecode rest) := by
    rw [encoded, List.cons_append, List.cons_append, List.cons_append,
      percentDecode_escape (hexDigit_reads upper first).1 (hexDigit_reads lower second).1,
      percentDecode_plain fun byte member => (digits byte member).1]
  by_cases ascii : Ascii c
  · obtain ⟨rfl, value⟩ := small (Nat.lt_trans ascii (by decide))
    rw [value] at decoded
    exact ⟨[byteOf c], sent_ascii ascii decoded⟩
  · refine ⟨UInt8.ofNat (16 * upper + lower) :: more.map (byteOf ∘ hexDigit), decoded,
      fun itself => absurd itself ascii, ?_, ?_⟩
    · have passed : (more.map (byteOf ∘ hexDigit)).countP (fun byte => ¬ byte < 0x80) = 0 :=
        List.countP_eq_zero.mpr fun byte member => by simpa using (digits byte member).2
      rw [List.countP_cons, passed, if_neg ascii]
      split <;> simp
    · by_cases wide : 256 ≤ c.toNat
      · rw [if_pos (.inr wide), Nat.one_le_iff_ne_zero, ← Nat.pos_iff_ne_zero, List.countP_pos_iff]
        obtain ⟨digit, inside⟩ := List.exists_mem_of_ne_nil more (large wide)
        have member := List.mem_map_of_mem (f := byteOf ∘ hexDigit) inside
        exact ⟨_, List.mem_cons_of_mem _ member, decide_eq_true (digits _ member).2⟩
      · simp [ascii, wide]

theorem sent (c : Char) : ∃ bytes, Sent c bytes := by
  cases kept : unreserved c with
  | true => exact ⟨_, sent_plain kept⟩
  | false => exact sent_escaped kept

/-! ### What is decoded of a text -/

/-- The bytes that are decoded of an encoded text, counted. -/
structure SentText (text : List Char) (bytes : List UInt8) : Prop where
  decoded : percentDecode ((text.flatMap percentEncodeChar).map byteOf) = bytes
  itself : (∀ c ∈ text, Ascii c) → bytes = text.map byteOf
  high : bytes.countP (fun byte => ¬ byte < 0x80) ≤ text.countP (fun c => ¬ Ascii c)
  low : text.countP (fun c => Ascii c ∨ 256 ≤ c.toNat) ≤ bytes.countP (· < 0x80)

theorem sentText (text : List Char) : ∃ bytes, SentText text bytes := by
  induction text with
  | nil => exact ⟨[], rfl, fun _ => rfl, Nat.le_refl _, Nat.le_refl _⟩
  | cons c rest ih =>
    obtain ⟨bytes, later⟩ := ih
    obtain ⟨first, sent⟩ := sent c
    refine ⟨first ++ bytes, ?_, ?_, ?_, ?_⟩
    · rw [List.flatMap_cons, List.map_append, sent.decoded, later.decoded]
    · intro ascii
      rw [List.forall_mem_cons] at ascii
      rw [sent.itself ascii.1, later.itself ascii.2]
      rfl
    · have high := sent.high
      have highs := later.high
      rw [List.countP_append]
      by_cases ascii : Ascii c
      · have counted : (c :: rest).countP (fun c => ¬ Ascii c) = rest.countP fun c => ¬ Ascii c :=
          List.countP_cons_of_neg (by simpa using ascii)
        rw [if_pos ascii] at high
        omega
      · have counted : (c :: rest).countP (fun c => ¬ Ascii c) = (rest.countP fun c => ¬ Ascii c) + 1 :=
          List.countP_cons_of_pos (by simpa using ascii)
        rw [if_neg ascii] at high
        omega
    · have low := sent.low
      have lows := later.low
      rw [List.countP_append]
      by_cases kept : Ascii c ∨ 256 ≤ c.toNat
      · have counted : (c :: rest).countP (fun c => Ascii c ∨ 256 ≤ c.toNat) =
            (rest.countP fun c => Ascii c ∨ 256 ≤ c.toNat) + 1 := List.countP_cons_of_pos (decide_eq_true kept)
        rw [if_pos kept] at low
        omega
      · have counted : (c :: rest).countP (fun c => Ascii c ∨ 256 ≤ c.toNat) =
            rest.countP fun c => Ascii c ∨ 256 ≤ c.toNat := List.countP_cons_of_neg (by simpa using kept)
        omega

/-- A text decodes to itself exactly if it is ASCII. -/
theorem decodeFrom_sent_iff {text : List Char} (sent : SentText text bytes) :
    decodeFrom none bytes = text ↔ ∀ c ∈ text, Ascii c := by
  constructor
  · intro same
    -- every ASCII byte is read as an ASCII character, so none comes from a larger code point
    have kept := Nat.le_trans sent.low (ascii_kept none bytes)
    -- and a wide character takes two of the bytes of which each sends one
    have spent := Nat.le_trans (wide_spent none bytes) (Nat.add_le_add_right sent.high _)
    rw [same] at kept spent
    have small : ∀ c ∈ text, Ascii c ∨ 256 ≤ c.toNat → Ascii c := fun c member large =>
      of_decide_eq_true (of_countP_le (fun c ascii => decide_eq_true (.inl (of_decide_eq_true ascii))) kept c member
        (decide_eq_true large))
    have wide : text.countP (Wide ·) = text.countP fun c => ¬ Ascii c := by
      apply List.countP_congr
      intro c member
      rw [decide_eq_true_iff, decide_eq_true_iff, Wide, and_iff_left_iff_imp]
      rintro high rfl
      exact high (small _ member (.inr (by decide)))
    have none' : (text.countP fun c => ¬ Ascii c) = 0 := by
      rw [wide, owed] at spent
      omega
    intro c member
    by_contra high
    exact List.countP_eq_zero.mp none' c member (decide_eq_true high)
  · intro ascii
    rw [sent.itself ascii, decodeFrom_ascii ascii]

/-! ### What is read of a query -/

/-- An encoded text, letter by letter. -/
def encoded (text : String) : List Char := text.toList.flatMap percentEncodeChar

/-- What the facilitator makes of an encoded text. -/
def reread (text : String) : String := decodePart ((encoded text).map byteOf)

theorem mem_percentEncodeChar (member : letter ∈ percentEncodeChar c) :
    letter = '%' ∨ unreserved letter = true := by
  unfold percentEncodeChar at member
  split at member
  · rename_i kept
    exact .inr (List.mem_singleton.mp member ▸ kept)
  · obtain same | digit := List.mem_cons.mp member
    · exact .inl same
    · obtain ⟨upper, lower, more, written, bounded, _⟩ := upperHex_eq c.toNat
      rw [written] at digit
      obtain ⟨value, inside, rfl⟩ := List.mem_map.mp digit
      exact .inr (hexDigit_reads value (bounded value inside)).2

theorem mem_encoded (member : letter ∈ encoded text) :
    Ascii letter ∧ letter ≠ '&' ∧ letter ≠ '+' ∧ letter ≠ '=' := by
  obtain ⟨c, _, inside⟩ := List.mem_flatMap.mp member
  obtain rfl | kept := mem_percentEncodeChar inside
  · decide
  · exact ⟨(plain_of_unreserved kept).ascii, (plain_of_unreserved kept).others⟩

theorem encoded_unreserved {text : String} (kept : ∀ c ∈ text.toList, unreserved c = true) :
    encoded text = text.toList := by
  rw [encoded]
  generalize text.toList = letters at kept
  induction letters with
  | nil => rfl
  | cons c rest ih =>
    rw [List.forall_mem_cons] at kept
    rw [List.flatMap_cons, ih kept.2, percentEncodeChar, if_pos kept.1]
    rfl

/-- A text survives the trip exactly if it is ASCII. -/
theorem reread_iff (text : String) : reread text = text ↔ ∀ c ∈ text.toList, Ascii c := by
  obtain ⟨bytes, sent⟩ := sentText text.toList
  have spaceless : (encoded text).map byteOf =
      ((encoded text).map byteOf).map fun byte => if byte = 0x2B then 0x20 else byte := by
    rw [List.map_map]
    apply List.map_congr_left
    intro letter member
    obtain ⟨ascii, _, plus, _⟩ := mem_encoded member
    have other : byteOf letter ≠ 0x2B := fun same => plus (byteOf_injective ascii (by decide) same)
    rw [Function.comp_apply, if_neg other]
  rw [← decodeFrom_sent_iff sent, reread, decodePart, ← spaceless, encoded, sent.decoded, fromUtf8Lossy,
    ← String.toList_inj, String.toList_ofList]

theorem reread_unreserved {text : String} (kept : ∀ c ∈ text.toList, unreserved c = true) :
    decodePart (text.toList.map byteOf) = text := by
  rw [← encoded_unreserved kept]
  exact (reread_iff text).mpr fun c member => (plain_of_unreserved (kept c member)).ascii

theorem unreserved_toString (value : Nat) : ∀ c ∈ (toString value).toList, unreserved c = true := by
  rw [Nat.toString_eq_ofList_toDigits, String.toList_ofList]
  intro c member
  have digit := Nat.isDigit_of_mem_toDigits (by decide) (by decide) member
  simp [unreserved, digit]

/-! ### The trip of the parameters -/

/-- The parameters of a query, under their names. -/
def queryFields (params : ListDiscoveryResourcesParams) : List (String × Option String) := [
  ("type", params.kind),
  ("limit", params.limit.map fun l => toString l.toNat),
  ("offset", params.offset.map fun o => toString o.toNat),
  ("network", params.network),
  ("scheme", params.scheme)]

def queryPairs (params : ListDiscoveryResourcesParams) : List (String × String) :=
  (queryFields params).filterMap fun field => field.2.map (field.1, ·)

theorem text_part (label name : String) (labelled : label.toList = name.toList ++ ['=']) (value : String) :
    label ++ percentEncode value = String.ofList (partText (name.toList, encoded value)) := by
  rw [← String.toList_inj, String.toList_append, labelled, percentEncode, String.toList_ofList,
    String.toList_ofList, List.append_assoc]
  rfl

theorem number_part (label name : String) (labelled : label.toList = name.toList ++ ['=']) (value : Nat) :
    label ++ toString value = String.ofList (partText (name.toList, encoded (toString value))) := by
  rw [encoded_unreserved (unreserved_toString value), ← String.toList_inj, String.toList_append, labelled,
    String.toList_ofList, List.append_assoc]
  rfl

theorem queryParts_eq (params : ListDiscoveryResourcesParams) : queryParts params =
    (queryPairs params).map fun pair => String.ofList (partText (pair.1.toList, encoded pair.2)) := by
  have lifted (part : String × Option String → Option String) (fields : List (String × Option String)) :
      fields.filterMap part = (fields.map part).reduceOption := by
    change _ = (fields.map part).filterMap id
    rw [List.filterMap_map]
    rfl
  have texts (label name : String) (labelled : label.toList = name.toList ++ ['=']) (value : Option String) :
      value.map (fun text => label ++ percentEncode text) =
        value.map fun text => String.ofList (partText (name.toList, encoded text)) :=
    congrArg (value.map ·) (funext (text_part label name labelled))
  have numbers (label name : String) (labelled : label.toList = name.toList ++ ['=']) (value : Option UInt32) :
      value.map (fun number => label ++ toString number.toNat) =
        value.map fun number => String.ofList (partText (name.toList, encoded (toString number.toNat))) :=
    congrArg (value.map ·) (funext fun number => number_part label name labelled number.toNat)
  rw [queryPairs, List.map_filterMap, lifted, queryParts, queryFields]
  simp only [List.map_cons, List.map_nil, Option.map_map]
  refine congrArg List.reduceOption (List.cons_eq_cons.mpr ⟨?_, List.cons_eq_cons.mpr ⟨?_,
    List.cons_eq_cons.mpr ⟨?_, List.cons_eq_cons.mpr ⟨?_, List.cons_eq_cons.mpr ⟨?_, rfl⟩⟩⟩⟩⟩)
  · exact texts "type=" "type" (by decide) params.kind
  · exact numbers "limit=" "limit" (by decide) params.limit
  · exact numbers "offset=" "offset" (by decide) params.offset
  · exact texts "network=" "network" (by decide) params.network
  · exact texts "scheme=" "scheme" (by decide) params.scheme

theorem separable_pair {pair : String × String} (named : ∀ c ∈ pair.1.toList, unreserved c = true) :
    Separable (pair.1.toList, encoded pair.2) where
  name := by
    intro c member
    obtain ⟨ascii, _, ampersand, _, equals⟩ := plain_of_unreserved (named c member)
    exact ⟨ascii, ampersand, equals⟩
  value := by
    intro c member
    obtain ⟨ascii, ampersand, _⟩ := mem_encoded member
    exact ⟨ascii, ampersand⟩

theorem queryPairs_named (params : ListDiscoveryResourcesParams) :
    ∀ pair ∈ queryPairs params, ∀ c ∈ pair.1.toList, unreserved c = true := by
  have names : (listFields.all fun name => name.toList.all unreserved) = true := by decide
  simp only [List.all_eq_true] at names
  intro pair member
  obtain ⟨field, inside, found⟩ := List.mem_filterMap.mp member
  obtain ⟨value, _, rfl⟩ := Option.map_eq_some_iff.mp found
  exact names field.1 (List.mem_map_of_mem inside)

/-- The facilitator finds the pairs of the query, their values read again. -/
theorem parseQuery_listQuery (params : ListDiscoveryResourcesParams) :
    parseQuery ((listQuery params).getD "") = (queryPairs params).map fun pair => (pair.1, reread pair.2) := by
  have joined : (listQuery params).getD "" = "&".intercalate (queryParts params) := by
    unfold listQuery
    split
    · rename_i none'
      rw [none']
      rfl
    · rfl
  have named := queryPairs_named params
  have parts : queryParts params = ((queryPairs params).map fun pair => (pair.1.toList, encoded pair.2)).map
      fun part => String.ofList (partText part) := by
    rw [queryParts_eq, List.map_map]
    rfl
  rw [joined, parts, parseQuery_join, List.map_map]
  · apply List.map_congr_left
    intro pair member
    rw [Function.comp_apply, reread_unreserved (named pair member)]
    rfl
  · intro part member
    obtain ⟨pair, inside, rfl⟩ := List.mem_map.mp member
    exact separable_pair (named pair inside)

theorem numbers_reread (numbers : Option UInt32) :
    ((numbers.map fun value => toString value.toNat).map reread).mapM parseU32 = some numbers := by
  cases numbers with
  | none => rfl
  | some value =>
    have same : reread (toString value.toNat) = toString value.toNat := (reread_iff _).mpr fun c member =>
      (plain_of_unreserved (unreserved_toString _ c member)).ascii
    have parsed : parseU32 (toString value.toNat) = some value := by
      rw [parseU32, Decimal.parseUnsigned_toString value.toNat_lt, Option.map_some, UInt32.ofNat_toNat]
    rw [Option.map_some, Option.map_some, same, Option.mapM_some, parsed]
    rfl

/-- What the facilitator reads of the query: the numbers as they were, and every text read again. -/
theorem readListParams_listQuery (params : ListDiscoveryResourcesParams) :
    readListParams (listQuery params) = some {
      kind := params.kind.map reread
      limit := params.limit
      offset := params.offset
      network := params.network.map reread
      scheme := params.scheme.map reread } := by
  let fields := (queryFields params).map fun field => (field.1, field.2.map reread)
  have pairs : parseQuery ((listQuery params).getD "") = fields.filterMap fun field => field.2.map (field.1, ·) := by
    rw [parseQuery_listQuery, queryPairs, List.map_filterMap, List.filterMap_map]
    apply List.filterMap_congr
    intro field _
    simp only [Function.comp_apply, Option.map_map]
    rfl
  have distinct : (fields.map Prod.fst).Nodup := by
    change listFields.Nodup
    decide
  have once := (distinct.sublist (Serde.names_filterMap fields)).filter (· ∈ listFields)
  have limit : ((fields.lookup "limit").join).mapM parseU32 = some params.limit := numbers_reread params.limit
  have offset : ((fields.lookup "offset").join).mapM parseU32 = some params.offset := numbers_reread params.offset
  simp only [readListParams, pairs, guard, if_pos once, Serde.lookup_filterMap distinct, limit, offset]
  rfl

/-- The parameters, under the facilitator's type. -/
def asListParams (params : ListDiscoveryResourcesParams) : ListParams where
  kind := params.kind
  limit := params.limit
  offset := params.offset
  network := params.network
  scheme := params.scheme

/-- Every text of the parameters is ASCII. -/
structure AsciiTexts (params : ListDiscoveryResourcesParams) : Prop where
  kind : ∀ text ∈ params.kind, ∀ c ∈ text.toList, Ascii c
  network : ∀ text ∈ params.network, ∀ c ∈ text.toList, Ascii c
  scheme : ∀ text ∈ params.scheme, ∀ c ∈ text.toList, Ascii c

theorem map_reread_iff (text : Option String) :
    text.map reread = text ↔ ∀ text' ∈ text, ∀ c ∈ text'.toList, Ascii c := by
  cases text with
  | none => simp
  | some text => simp [reread_iff]

theorem reread_eq (text : String) : reread text = decodePart (asBytes (percentEncode text)) := by
  have bytes : asBytes (percentEncode text) = (encoded text).map byteOf :=
    asBytes_ofList fun letter member => (mem_encoded member).1
  rw [bytes, reread]

/-- Parameters survive the trip exactly if their texts are ASCII, and so does a text
that is percent-encoded. -/
theorem query_survives_iff (params : ListDiscoveryResourcesParams) (text : String) :
    (readListParams (listQuery params) = some (asListParams params) ↔ AsciiTexts params) ∧
    (decodePart (asBytes (percentEncode text)) = text ↔ ∀ c ∈ text.toList, Ascii c) := by
  constructor
  · rw [readListParams_listQuery, Option.some.injEq, asListParams, ListParams.mk.injEq, map_reread_iff,
      map_reread_iff, map_reread_iff]
    constructor
    · rintro ⟨kind, _, _, network, scheme⟩
      exact ⟨kind, network, scheme⟩
    · rintro ⟨kind, network, scheme⟩
      exact ⟨kind, rfl, rfl, network, scheme⟩
  · rw [← reread_eq]
    exact reread_iff text

/-- A code point below 256 is sent as one byte, which is no UTF-8. -/
theorem query_accent_lost : listQuery { kind := some "é" } = some "type=%E9" ∧
    readListParams (listQuery { kind := some "é" }) = some { kind := some "\uFFFD" } ∧
    readListParams (listQuery { kind := some "é" }) ≠ some (asListParams { kind := some "é" }) := by
  decide

/-- Of a larger one, two digits are taken for a byte. -/
example : readListParams (listQuery { network := some "€" }) = some { network := some " AC" } := by decide

end X402Nockchain.Client
