import X402Nockchain.X402Types.Bazaar
import X402Nockchain.X402Types.Nockchain

/-! The JSON forms of the protocol objects that travel between the parties. -/

namespace X402Nockchain.X402Types

open Foundation.Serde

/-- A note whose JSON has no `lock` is read under the simple lock. -/
theorem NoteRef.lock_of_absent {members : List (String × Value)} {note : NoteRef}
    (read : fromValue (.object members) = some note) (absent : members.lookup "lock" = none) :
    note.lock = .simplePkh := by
  have missing : (Source.map members).defaulted 2 "lock" (default : NoteLock) = some default := by
    rw [Source.defaulted, Source.field, absent]
  change Struct.read (.map members) = some note at read
  simp only [Struct.read, missing, Option.bind_eq_bind, Option.bind_eq_some_iff, Option.pure_def,
    Option.some.injEq] at read
  obtain ⟨name, _, assets, _, lock, same, rfl⟩ := read
  exact same.symm

/-- The simple lock is not written. -/
theorem NoteRef.get_lock {note : NoteRef} (simple : note.lock = .simplePkh) :
    (toValue note).get "lock" = none := by
  obtain ⟨name, assets, lock⟩ := note
  obtain rfl := simple
  rfl

/-- Whichever variant reads a document is the one it decodes to. -/
theorem HttpInput.fromValue_of_read {members : List (String × Value)} {input : HttpInput}
    (read : readQuery (.map members) = some input ∨ readBody (.map members) = some input) :
    fromValue (.object members) = some input := by
  rcases read with read | read
  · simp [fromValue, read]
  · have unread := (readQuery_none_or_readBody_none (.map members)).resolve_right (by simp [read])
    simp [fromValue, read, unread]

/-- Serializing a protocol object and reading it back gives the same object. -/
theorem wire_format_round_trips :
    (∀ payload : PaymentPayload ExactNockchainPayload, fromValue (toValue payload) = some payload) ∧
    (∀ required : PaymentRequired, required.Explicit →
      fromValue (toValue required) = some required) ∧
    (∀ extension : BazaarExtension, extension.Explicit →
      fromValue (toValue extension) = some extension) ∧
    (∀ header : ExtensionResponsesHeader, header.Apart →
      fromValue (toValue header) = some header) ∧
    (∀ members (note : NoteRef), fromValue (.object members) = some note →
      members.lookup "lock" = none → note.lock = .simplePkh ∧ (toValue note).get "lock" = none) ∧
    ∀ members input, HttpInput.readQuery (.map members) = some input ∨
      HttpInput.readBody (.map members) = some input →
        fromValue (.object members) = some input := by
  refine ⟨fromValue_toValue, fun required => PaymentRequired.fromValue_toValue,
    fun extension => BazaarExtension.fromValue_toValue,
    fun header => ExtensionResponsesHeader.fromValue_toValue, ?_, ?_⟩
  · intro members note read absent
    have simple := NoteRef.lock_of_absent read absent
    exact ⟨simple, NoteRef.get_lock simple⟩
  · exact fun members input => HttpInput.fromValue_of_read

/-! ### One object of each form -/

namespace Sample

def minFee : Value := .object [("minFee", .string "2")]

def option : PaymentRequirements where
  scheme := "exact"
  network := "nockchain:fakenet"
  maxAmountRequired := "1000"
  resource := "https://example/mcp"
  asset := "NOCK"
  payTo := "2"
  maxTimeoutSeconds := 30
  extra := some minFee

def required : PaymentRequired where
  x402Version := 2
  error := "Payment required for tool 'echo'"
  resource := { url := "https://example/mcp" }
  accepts := [option]

def advertisement : BazaarExtension where
  info := {
    input := .mcp { tool := "echo", inputSchema := .object [], «example» := some (.object []) }
    output := some { kind := "json", «example» := some (.bool true) } }
  schema := .bool true

def header : ExtensionResponsesHeader where
  bazaar := some { status := .success }
  other := ⟨[("receipts", .null)], by decide⟩

def legacyNote : List (String × Value) :=
  [("name", .object [("first", .string "2"), ("last", .string "3")]), ("assets", .string "9")]

def get : List (String × Value) := [("method", .string "GET")]

theorem wire_format_round_trips_samples :
    fromValue (toValue required) = some required ∧
    fromValue (toValue advertisement) = some advertisement ∧
    fromValue (toValue header) = some header ∧
    (toValue (NoteRef.mk ⟨"2", "3"⟩ "9" .simplePkh)).get "lock" = none ∧
    fromValue (.object get) = some (HttpInput.query .get none none) := by
  obtain ⟨_, requireds, extensions, headers, notes, inputs⟩ := wire_format_round_trips
  refine ⟨requireds required ?_, extensions advertisement ?_, headers header ?_, ?_, ?_⟩
  · intro entry member
    rw [List.mem_singleton.mp member]
    exact ⟨nofun, nofun⟩
  · constructor
    · rintro input ⟨⟩ same
      cases same
    · rintro output ⟨⟩ same
      cases same
  · intro member
    simp [header] at member
  · exact (notes legacyNote ⟨⟨"2", "3"⟩, "9", .simplePkh⟩ rfl rfl).2
  · exact inputs get (.query .get none none) (.inl rfl)

end Sample

end X402Nockchain.X402Types
