import X402Nockchain.Foundation.Serde

/-! The payment-protocol types of `x402-types::payment`. -/

namespace X402Nockchain.X402Types

open Foundation.Serde

/-- One payment option offered by a resource server. -/
structure PaymentRequirements where
  scheme : String
  network : String
  maxAmountRequired : String
  resource : String
  asset : String
  payTo : String
  maxTimeoutSeconds : UInt64
  description : Option String := none
  mimeType : Option String := none
  outputSchema : Option Value := none
  extra : Option Value := none
  extensions : Option (List (String × Value)) := none

structure PaymentResource where
  url : String
  description : Option String := none
  mimeType : Option String := none

/-- The body of a 402 response. -/
structure PaymentRequired where
  x402Version : UInt32
  error : String
  resource : PaymentResource
  accepts : List PaymentRequirements
  extensions : Option (List (String × Value)) := none

/-- The envelope a client ships after signing, generic in its `payload`. -/
structure PaymentPayload (P : Type u) where
  x402Version : UInt32
  scheme : String
  network : String
  payload : P
  extensions : Option (List (String × Value)) := none

structure NoteName where
  first : String
  last : String
  deriving DecidableEq, Inhabited

/-- The lock a note is held under at sign time. -/
inductive NoteLock where
  | simplePkh
  | coinbasePkh (timelockMin : UInt64)
  deriving DecidableEq

instance : Inhabited NoteLock := ⟨.simplePkh⟩

def NoteLock.isSimplePkh (lock : NoteLock) : Bool := lock matches .simplePkh

structure NoteRef where
  name : NoteName
  assets : String
  lock : NoteLock
  deriving DecidableEq

/-- The object the payer signs. -/
structure Authorization where
  «from» : String
  «to» : String
  value : String
  fee : String
  nonce : String
  validAfter : UInt64
  validBefore : UInt64
  notes : List NoteRef
  changeAddress : String
  deriving DecidableEq

structure SchnorrPair where
  chal : List.Vector String 8
  sig : List.Vector String 8
  deriving DecidableEq

structure SchnorrSignatureJson where
  pubkey : String
  schnorr : SchnorrPair
  deriving DecidableEq

def SchnorrSignatureJson.allZero (pubkey : String) : SchnorrSignatureJson where
  pubkey
  schnorr := { chal := .replicate 8 "0", sig := .replicate 8 "0" }

/-- Three-state outcome of cataloging a resource. -/
inductive BazaarExtensionStatus where
  | success
  | processing
  | rejected
  deriving DecidableEq

/-- The `bazaar` key of the `EXTENSION-RESPONSES` header. -/
structure BazaarExtensionResponse where
  status : BazaarExtensionStatus
  rejectedReason : Option String := none
  deriving DecidableEq

/-- What the `EXTENSION-RESPONSES` header spells. `other` is flattened. -/
structure ExtensionResponsesHeader where
  bazaar : Option BazaarExtensionResponse
  other : StringMap Value

/-! ### JSON forms -/

instance : Struct PaymentRequirements where
  width := 12
  fields requirements := [("scheme", some (toValue requirements.scheme)),
    ("network", some (toValue requirements.network)),
    ("maxAmountRequired", some (toValue requirements.maxAmountRequired)),
    ("resource", some (toValue requirements.resource)),
    ("asset", some (toValue requirements.asset)), ("payTo", some (toValue requirements.payTo)),
    ("maxTimeoutSeconds", some (toValue requirements.maxTimeoutSeconds)),
    ("description", skipNone requirements.description),
    ("mimeType", skipNone requirements.mimeType),
    ("outputSchema", skipNone requirements.outputSchema), ("extra", skipNone requirements.extra),
    ("extensions", skipNone requirements.extensions)]
  read source := do
    return {
      scheme := ← source.required 0 "scheme"
      network := ← source.required 1 "network"
      maxAmountRequired := ← source.required 2 "maxAmountRequired"
      resource := ← source.required 3 "resource"
      asset := ← source.required 4 "asset"
      payTo := ← source.required 5 "payTo"
      maxTimeoutSeconds := ← source.required 6 "maxTimeoutSeconds"
      description := ← source.defaulted 7 "description" none
      mimeType := ← source.defaulted 8 "mimeType" none
      outputSchema := ← source.defaulted 9 "outputSchema" none
      extra := ← source.defaulted 10 "extra" none
      extensions := ← source.defaulted 11 "extensions" none }

/-- No optional document of a payment option is an explicit `null`, which would
be read back as an absent one. -/
def PaymentRequirements.Explicit (requirements : PaymentRequirements) : Prop :=
  requirements.outputSchema ≠ some .null ∧ requirements.extra ≠ some .null

/-- The payment option as a reader of its JSON has it. -/
def PaymentRequirements.withoutNulls (requirements : PaymentRequirements) : PaymentRequirements :=
  { requirements with
    outputSchema := dropNull requirements.outputSchema
    extra := dropNull requirements.extra }

theorem PaymentRequirements.withoutNulls_of_explicit {requirements : PaymentRequirements}
    (explicit : requirements.Explicit) : requirements.withoutNulls = requirements := by
  rw [withoutNulls, dropNull_of_explicit explicit.1, dropNull_of_explicit explicit.2]

@[simp] theorem PaymentRequirements.fromValue_toValue_withoutNulls (requirements : PaymentRequirements) :
    fromValue (toValue requirements) = some requirements.withoutNulls := by
  change Struct.read (.map (present (Struct.fields requirements))) = some requirements.withoutNulls
  simp (disch := simp) [Struct.read, Struct.fields, List.lookup_cons, elim_skipNone, withoutNulls]

theorem PaymentRequirements.fromValue_toValue {requirements : PaymentRequirements}
    (explicit : requirements.Explicit) : fromValue (toValue requirements) = some requirements := by
  rw [fromValue_toValue_withoutNulls, withoutNulls_of_explicit explicit]

/-- A payment option that was read from JSON is explicit. -/
theorem PaymentRequirements.explicit_of_fromValue {requirements : PaymentRequirements}
    (read : fromValue value = some requirements) : requirements.Explicit := by
  obtain ⟨source, _, read⟩ := Option.bind_eq_some_iff.mp read
  iterate 9 obtain ⟨_, _, read⟩ := Option.bind_eq_some_iff.mp read
  obtain ⟨outputSchema, schema, read⟩ := Option.bind_eq_some_iff.mp read
  obtain ⟨extra, extras, read⟩ := Option.bind_eq_some_iff.mp read
  obtain ⟨extensions, _, read⟩ := Option.bind_eq_some_iff.mp read
  obtain rfl := Option.some.inj read
  exact ⟨Source.defaulted_explicit schema, Source.defaulted_explicit extras⟩

/-- Reading a payment option once more changes nothing. -/
theorem PaymentRequirements.withoutNulls_withoutNulls (requirements : PaymentRequirements) :
    requirements.withoutNulls.withoutNulls = requirements.withoutNulls :=
  withoutNulls_of_explicit (explicit_of_fromValue (fromValue_toValue_withoutNulls requirements))

instance : Struct PaymentResource where
  width := 3
  fields resource := [("url", some (toValue resource.url)),
    ("description", skipNone resource.description), ("mimeType", skipNone resource.mimeType)]
  read source := do
    return {
      url := ← source.required 0 "url"
      description := ← source.defaulted 1 "description" none
      mimeType := ← source.defaulted 2 "mimeType" none }

instance : RoundTrips PaymentResource := Struct.roundTrips fun resource => by
  simp (disch := simp) [Struct.read, Struct.fields, List.lookup_cons, elim_skipNone]

instance : Struct PaymentRequired where
  width := 5
  fields required := [("x402Version", some (toValue required.x402Version)),
    ("error", some (toValue required.error)), ("resource", some (toValue required.resource)),
    ("accepts", some (toValue required.accepts)), ("extensions", skipNone required.extensions)]
  read source := do
    return {
      x402Version := ← source.required 0 "x402Version"
      error := ← source.required 1 "error"
      resource := ← source.required 2 "resource"
      accepts := ← source.required 3 "accepts"
      extensions := ← source.defaulted 4 "extensions" none }

/-- No payment option of the body has an explicit `null`. -/
def PaymentRequired.Explicit (required : PaymentRequired) : Prop :=
  ∀ option ∈ required.accepts, option.Explicit

theorem PaymentRequired.fromValue_toValue {required : PaymentRequired}
    (explicit : required.Explicit) : fromValue (toValue required) = some required := by
  have accepts : fromValue (toValue required.accepts) = some required.accepts :=
    fromValue_toValue_of_each fun option member =>
      PaymentRequirements.fromValue_toValue (explicit option member)
  change Struct.read (.map (present (Struct.fields required))) = some required
  simp (disch := simp) [Struct.read, Struct.fields, List.lookup_cons, elim_skipNone, accepts]

/-- The body as a reader of its JSON has it. -/
def PaymentRequired.withoutNulls (required : PaymentRequired) : PaymentRequired :=
  { required with accepts := required.accepts.map PaymentRequirements.withoutNulls }

theorem PaymentRequired.fromValue_toValue_withoutNulls (required : PaymentRequired) :
    fromValue (toValue required) = some required.withoutNulls := by
  have accepts : fromValue (toValue required.accepts) =
      some (required.accepts.map PaymentRequirements.withoutNulls) :=
    fromValue_toValue_map PaymentRequirements.fromValue_toValue_withoutNulls _
  change Struct.read (.map (present (Struct.fields required))) = some required.withoutNulls
  simp (disch := simp) [Struct.read, Struct.fields, List.lookup_cons, elim_skipNone, accepts, withoutNulls]

instance [Serialize P] [Deserialize P] : Struct (PaymentPayload P) where
  width := 5
  fields payload := [("x402Version", some (toValue payload.x402Version)),
    ("scheme", some (toValue payload.scheme)), ("network", some (toValue payload.network)),
    ("payload", some (toValue payload.payload)), ("extensions", skipNone payload.extensions)]
  read source := do
    return {
      x402Version := ← source.required 0 "x402Version"
      scheme := ← source.required 1 "scheme"
      network := ← source.required 2 "network"
      payload := ← source.required 3 "payload"
      extensions := ← source.defaulted 4 "extensions" none }

instance [Serialize P] [Deserialize P] [RoundTrips P] : RoundTrips (PaymentPayload P) :=
  Struct.roundTrips fun payload => by
    simp (disch := simp) [Struct.read, Struct.fields, List.lookup_cons, elim_skipNone]

instance : Struct NoteName where
  width := 2
  fields name := [("first", some (toValue name.first)), ("last", some (toValue name.last))]
  read source := do
    return { first := ← source.required 0 "first", last := ← source.required 1 "last" }

instance : RoundTrips NoteName := Struct.roundTrips fun name => by
  simp (disch := simp) [Struct.read, Struct.fields, List.lookup_cons]

/-- Internally tagged on `kind`. -/
instance : Serialize NoteLock where
  toValue
    | .simplePkh => record [("kind", some (.string "simple-pkh"))]
    | .coinbasePkh timelockMin =>
      record [("kind", some (.string "coinbase-pkh")), ("timelock_min", some (toValue timelockMin))]

/-- The tag is a member of a map or the first element of a sequence. A unit
variant ignores further map members and refuses further elements. -/
instance : Deserialize NoteLock where
  fromValue
    | .object members => do
      match ← members.lookup "kind" with
      | .string "simple-pkh" => return .simplePkh
      | .string "coinbase-pkh" =>
        return .coinbasePkh (← (Source.map members).required 0 "timelock_min")
      | _ => none
    | .array [.string "simple-pkh"] => some .simplePkh
    | .array [.string "coinbase-pkh", timelockMin] => (fromValue timelockMin).map .coinbasePkh
    | _ => none

instance : RoundTrips NoteLock where
  fromValue_toValue lock := by
    cases lock with
    | simplePkh => rfl
    | coinbasePkh timelockMin => rfl

instance : Struct NoteRef where
  width := 3
  fields note := [("name", some (toValue note.name)), ("assets", some (toValue note.assets)),
    ("lock", if note.lock.isSimplePkh then none else some (toValue note.lock))]
  read source := do
    return {
      name := ← source.required 0 "name"
      assets := ← source.required 1 "assets"
      lock := ← source.defaulted 2 "lock" default }

instance : RoundTrips NoteRef := Struct.roundTrips fun note => by
  obtain ⟨name, assets, lock⟩ := note
  cases lock <;> simp (disch := simp) [Struct.read, Struct.fields, List.lookup_cons, NoteLock.isSimplePkh]
  rfl

instance : Struct Authorization where
  width := 9
  fields auth := [("from", some (toValue auth.from)), ("to", some (toValue auth.to)),
    ("value", some (toValue auth.value)), ("fee", some (toValue auth.fee)),
    ("nonce", some (toValue auth.nonce)), ("validAfter", some (toValue auth.validAfter)),
    ("validBefore", some (toValue auth.validBefore)), ("notes", some (toValue auth.notes)),
    ("changeAddress", some (toValue auth.changeAddress))]
  read source := do
    return {
      «from» := ← source.required 0 "from"
      «to» := ← source.required 1 "to"
      value := ← source.required 2 "value"
      fee := ← source.required 3 "fee"
      nonce := ← source.required 4 "nonce"
      validAfter := ← source.required 5 "validAfter"
      validBefore := ← source.required 6 "validBefore"
      notes := ← source.required 7 "notes"
      changeAddress := ← source.required 8 "changeAddress" }

instance : RoundTrips Authorization := Struct.roundTrips fun auth => by
  simp (disch := simp) [Struct.read, Struct.fields, List.lookup_cons]

instance : Struct SchnorrPair where
  width := 2
  fields pair := [("chal", some (toValue pair.chal)), ("sig", some (toValue pair.sig))]
  read source := do
    return { chal := ← source.required 0 "chal", sig := ← source.required 1 "sig" }

instance : RoundTrips SchnorrPair := Struct.roundTrips fun pair => by
  simp (disch := simp) [Struct.read, Struct.fields, List.lookup_cons]

instance : Struct SchnorrSignatureJson where
  width := 2
  fields signature := [("pubkey", some (toValue signature.pubkey)),
    ("schnorr", some (toValue signature.schnorr))]
  read source := do
    return { pubkey := ← source.required 0 "pubkey", schnorr := ← source.required 1 "schnorr" }

instance : RoundTrips SchnorrSignatureJson := Struct.roundTrips fun signature => by
  simp (disch := simp) [Struct.read, Struct.fields, List.lookup_cons]

instance : UnitEnum BazaarExtensionStatus where
  name
    | .success => "success"
    | .processing => "processing"
    | .rejected => "rejected"
  ofName
    | "success" => some .success
    | "processing" => some .processing
    | "rejected" => some .rejected
    | _ => none

instance : RoundTrips BazaarExtensionStatus :=
  UnitEnum.roundTrips fun status => by cases status <;> rfl

instance : Struct BazaarExtensionResponse where
  width := 2
  fields response := [("status", some (toValue response.status)),
    ("rejectedReason", skipNone response.rejectedReason)]
  read source := do
    return {
      status := ← source.required 0 "status"
      rejectedReason := ← source.defaulted 1 "rejectedReason" none }

instance : RoundTrips BazaarExtensionResponse := Struct.roundTrips fun response => by
  simp (disch := simp) [Struct.read, Struct.fields, List.lookup_cons, elim_skipNone]

namespace ExtensionResponsesHeader

/-- The flattened members follow the named one. -/
instance : Serialize ExtensionResponsesHeader where
  toValue header :=
    .object (present [("bazaar", skipNone header.bazaar)] ++ header.other.members)

/-- A struct with a flattened map is read from maps only, which takes the members
that no field claims. -/
instance : Deserialize ExtensionResponsesHeader where
  fromValue
    | .object members => do
      return {
        bazaar := ← (Source.map members).defaulted 0 "bazaar" none
        other := ← StringMap.ofMembers (members.filter fun member => member.1 != "bazaar") }
    | _ => none

/-- No flattened member is taken for the named one. -/
def Apart (header : ExtensionResponsesHeader) : Prop := "bazaar" ∉ header.other.entries.map Prod.fst

theorem fromValue_toValue {header : ExtensionResponsesHeader} (apart : header.Apart) :
    fromValue (toValue header) = some header := by
  obtain ⟨bazaar, other⟩ := header
  have keys : other.members.map Prod.fst = other.entries.map Prod.fst := by
    simp [StringMap.members]
  have others : ∀ member ∈ other.members, member.1 ≠ "bazaar" := fun member found same =>
    apart (keys ▸ same ▸ List.mem_map_of_mem found)
  have absent : other.members.lookup "bazaar" = none :=
    List.lookup_eq_none_iff.mpr fun member found => by simpa using Ne.symm (others member found)
  have kept : other.members.filter (fun member => member.1 != "bazaar") = other.members :=
    List.filter_eq_self.mpr fun member found => by simpa using others member found
  have written : (Source.map (present [("bazaar", skipNone bazaar)] ++ other.members)).defaulted 0
      "bazaar" none = some bazaar := by
    cases bazaar with
    | none => simp [Source.defaulted, Source.field, present, skipNone, absent]
    | some response => exact elim_skipNone Struct.toValue_ne_null (some response)
  have unclaimed : (present [("bazaar", skipNone bazaar)] ++ other.members).filter
      (fun member => member.1 != "bazaar") = other.members := by
    cases bazaar <;> simp [present, skipNone, kept]
  change (Source.defaulted _ 0 "bazaar" none).bind _ = _
  rw [written, Option.bind_some, unclaimed, StringMap.ofMembers_members]
  rfl

end ExtensionResponsesHeader

end X402Nockchain.X402Types
