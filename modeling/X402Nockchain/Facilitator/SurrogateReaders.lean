import X402Nockchain.Facilitator.SettlementBinding

/-! The two readers of `signedRawTx`: the derived decoder, which `/verify` and
`/settle` begin with, and `extract_signed_raw_tx`, which looks the raw JSON up by
name before the submission. -/

namespace X402Nockchain.Facilitator

open Foundation Foundation.Serde X402Types Crypto Wallet

section Readers

variable [ErrorText] {req : SettleRequest} {nock : ExactNockchainPayload}

/-- `extract_signed_raw_tx` classifies a request as the decoded payload does. -/
structure ReadersAgree (req : SettleRequest) (nock : ExactNockchainPayload) : Prop where
  present : ∀ signed, extractSignedRawTx req = .ok signed ↔ nock.signedRawTx = some signed
  absent : (∃ message, extractSignedRawTx req = .error (.txConstructionUnavailable message)) ↔
    nock.signedRawTx = none
  never : ∀ message, extractSignedRawTx req ≠ .error (.rejected message)

/-- A payload that spells its transaction by name or not at all: no member that is
`null`, and no transaction in the third place of an array. -/
def NamedOrAbsent : Value → Prop
  | .object members => members.lookup "signedRawTx" ≠ some .null
  | .array elements => ∀ third, elements[2]? = some third → third = .null
  | _ => True

omit [ErrorText] in
/-- The decoded transaction, by the form of the payload. -/
theorem signedRawTx_of_decoded (carried : fromValue payload = some nock) :
    (∃ members, payload = .object members ∧
      Source.defaulted (.map members) 2 "signedRawTx" none = some nock.signedRawTx) ∨
    ∃ elements, payload = .array elements ∧
      Source.defaulted (.seq elements) 2 "signedRawTx" none = some nock.signedRawTx := by
  have fields : ∀ source : Source, Struct.read source = some nock →
      source.defaulted 2 "signedRawTx" none = some nock.signedRawTx := by
    intro source read
    simp only [Struct.read, Option.bind_eq_bind, Option.bind_eq_some_iff, Option.pure_def] at read
    obtain ⟨_, _, _, _, transaction, found, built⟩ := read
    obtain rfl := Option.some.inj built
    exact found
  cases payload with
  | object members => exact .inl ⟨members, rfl, fields _ carried⟩
  | array elements =>
    refine .inr ⟨elements, rfl, ?_⟩
    change (Value.source 3 (.array elements)).bind Struct.read = some nock at carried
    simp only [Value.source] at carried
    split at carried
    · exact fields _ carried
    · cases carried
  | null | bool value | number value | string value => cases carried

/-- Without a member of that name the transaction counts as missing. -/
theorem readersAgree_of_absent (missing : req.payload.payload.get "signedRawTx" = none) :
    ReadersAgree req nock ↔ nock.signedRawTx = none := by
  have extracted : ∃ message, extractSignedRawTx req = .error (.txConstructionUnavailable message) :=
    ⟨_, by rw [extractSignedRawTx, missing]; rfl⟩
  constructor
  · exact fun agree => agree.absent.mp extracted
  · intro none
    obtain ⟨message, extracted⟩ := extracted
    refine ⟨?_, ?_, ?_⟩ <;> simp [extracted, none]

/-- A member of that name is read alike, unless it is `null`. -/
theorem readersAgree_of_found (found : req.payload.payload.get "signedRawTx" = some raw)
    (decoded : (fromValue raw : Option (Option SignedRawTx)) = some nock.signedRawTx) :
    ReadersAgree req nock ↔ raw ≠ .null := by
  have extracted : extractSignedRawTx req = okOr
      (.rejected s!"PaymentPayload.payload.signedRawTx is malformed: {ErrorText.decodeFailure raw}")
      (fromValue raw) := by
    rw [extractSignedRawTx, found]
    rfl
  rw [fromValue_option] at decoded
  constructor
  · rintro agree rfl
    exact agree.never _ extracted
  · intro proper
    have typed : (fromValue raw : Option SignedRawTx).map some = some nock.signedRawTx := by
      cases raw with
      | null => exact absurd rfl proper
      | _ => exact decoded
    obtain ⟨signed, read, same⟩ := Option.map_eq_some_iff.mp typed
    rw [read] at extracted
    refine ⟨?_, ?_, ?_⟩ <;> simp [extracted, okOr, ← same]

/-- The two readers agree about a payload that decodes, exactly if it names its
transaction or has none. -/
theorem readers_agree_iff (carried : fromValue req.payload.payload = some nock) :
    ReadersAgree req nock ↔ NamedOrAbsent req.payload.payload := by
  obtain ⟨members, form, decoded⟩ | ⟨elements, form, decoded⟩ := signedRawTx_of_decoded carried
  · rw [form]
    cases found : members.lookup "signedRawTx" with
    | none =>
      simp only [Source.defaulted, Source.field, found, Option.some.injEq] at decoded
      rw [readersAgree_of_absent (by rw [form]; exact found)]
      simp [NamedOrAbsent, found, ← decoded]
    | some raw =>
      simp only [Source.defaulted, Source.field, found] at decoded
      rw [readersAgree_of_found (by rw [form]; exact found) decoded]
      simp [NamedOrAbsent, found]
  · rw [form, readersAgree_of_absent (by rw [form]; rfl)]
    cases found : elements[2]? with
    | none =>
      simp only [Source.defaulted, Source.field, found, Option.some.injEq] at decoded
      simp [NamedOrAbsent, found, ← decoded]
    | some third =>
      simp only [Source.defaulted, Source.field, found, fromValue_option] at decoded
      cases third with
      | null => simp_all [NamedOrAbsent]
      | _ =>
        obtain ⟨signed, _, same⟩ := Option.map_eq_some_iff.mp decoded
        simp [NamedOrAbsent, found, ← same]

end Readers

/-! ### A payment whose transaction is spelled `null`, and one written as an array -/

namespace Transparent

open Crypto.Transparent Wallet.Transparent NockchainWalletClient

attribute [local instance] transparent transparent_lawful plainErrors transparentChain
  transparentChain_lawful spelledBase64 spelledBase64_lawful spelledSeeds

/-- `original`, with an explicit `null` for its transaction. -/
def nulled : SettleRequest :=
  { original with payload := { original.payload with payload := .object [
      ("signature", toValue (payment authorization).signature),
      ("authorization", toValue authorization), ("signedRawTx", .null)] } }

theorem nulled_carried : fromValue nulled.payload.payload = some (payment authorization) := by
  have opened : fromValue nulled.payload.payload = (Struct.read (.map [
      ("signature", toValue (payment authorization).signature),
      ("authorization", toValue authorization), ("signedRawTx", .null)]) :
        Option ExactNockchainPayload) := rfl
  rw [opened]
  simp only [Struct.read, Source.required, Source.defaulted, Source.field]
  simp [List.lookup_cons, fromValue_option, payment]

/-- The payment passes every check, and its settlement is answered as malformed. -/
theorem readers_disagree_nulled : ¬ ReadersAgree nulled (payment authorization) ∧
    (verifyEnvelopeForSettle chainFacilitator 1100 ({} : RecordLog) nulled).1 = .ok () ∧
    ∃ message, extractSignedRawTx nulled = .error (.rejected message) := by
  have honest : Honest payer (payment authorization) nulled :=
    ⟨rfl, rfl, rfl, rfl, fakenet_nockchain, nulled_carried, original_honest.own, original_honest.signed,
      rfl, original_honest.capped, rfl⟩
  refine ⟨?_, honest.settles rfl (in_window rfl rfl rfl 1100 (by decide) (by decide)), _, rfl⟩
  have found : nulled.payload.payload.get "signedRawTx" = some .null := rfl
  have decoded : (fromValue .null : Option (Option SignedRawTx)) = some (payment authorization).signedRawTx := rfl
  intro agree
  exact (readersAgree_of_found found decoded).mp agree rfl

/-- Of a payload without a transaction. -/
theorem readers_agree_original : ReadersAgree original (payment authorization) :=
  (readers_agree_iff (fromValue_toValue _)).mpr nofun

end Transparent

end X402Nockchain.Facilitator
