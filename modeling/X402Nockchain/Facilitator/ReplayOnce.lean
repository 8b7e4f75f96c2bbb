import X402Nockchain.Crypto.Binding
import X402Nockchain.Facilitator.Honest
import X402Nockchain.Facilitator.VerifyCalls

/-! One signature, one acceptance. The cache key is the text of a nonce, the
signature covers the number it spells, so one signature is accepted once as long
as its nonce keeps one spelling. -/

namespace X402Nockchain.Facilitator

open Foundation X402Types Crypto

variable {Chain Cache : Type}

/-- The authorization that a call has shown to the replay cache. -/
def Call.checked (call : Call Chain) : Option Authorization :=
  match call.phase with
  | .recorded _ auth _ _ => some auth
  | .replayed auth _ _ => some auth
  | .accepted auth _ _ => some auth
  | .refused auth _ _ _ => some auth
  | _ => none

/-- Two nonces that differ at most in their leading `1`s are one text. -/
def SpelledAlike (auth auth' : Authorization) : Prop :=
  Base58.stripped auth.nonce = Base58.stripped auth'.nonce → auth.nonce = auth'.nonce

/-- The clock stays within one replay TTL of `start`. -/
def WithinTtl (state : AppState Chain) (start : UInt64) : Label → Prop
  | .tick now => now.toNat ≤ start.toNat + state.replayTtl.asSecs.toNat
  | _ => True

/-- No clock was read and no nonce stored before `start`, and the TTL since `start`
is not over. -/
structure Recent (state : AppState Chain) (start : UInt64) (server : Server Chain Cache) : Prop where
  clock : start ≤ server.clock ∧ server.clock.toNat ≤ start.toNat + state.replayTtl.asSecs.toNat
  screened : ∀ call ∈ server.calls, ∀ handler auth readAt,
    call.phase = .screened handler auth readAt → start ≤ readAt
  stored : ∀ index record, server.recordAt index = some record →
    start ≤ record.readAt ∧ start ≤ record.storedAt

/-- A call that has shown its nonce either stored it or was told that it is replayed. -/
theorem Call.checked_cases {call : Call Chain} (checked : call.checked = some auth) :
    (∃ record, call.record = some record ∧ record.auth = auth) ∨
      call.outcome = some (.error (.nonceReplayed auth.nonce)) := by
  obtain ⟨request, phase⟩ := call
  cases phase with
  | arrived | screened | declined => cases checked
  | recorded handler auth readAt storedAt => cases checked; exact .inl ⟨_, rfl, rfl⟩
  | accepted auth readAt storedAt => cases checked; exact .inl ⟨_, rfl, rfl⟩
  | refused auth readAt storedAt error => cases checked; exact .inl ⟨_, rfl, rfl⟩
  | replayed auth readAt checkedAt => cases checked; exact .inr rfl

section Runs

variable [Vesl]

/-- Two authorizations with one signed digest. -/
def SameDigest (auth auth' : Authorization) : Prop :=
  ∃ digest, x402SignMessageDigest auth = .ok digest ∧ x402SignMessageDigest auth' = .ok digest

/-- At some time within one replay TTL of `start` the checks before the nonce check
let `req` through, with `auth`. -/
def ReachesNonceCheck (state : AppState Chain) (start : UInt64) (req : VerifyRequest)
    (auth : Authorization) : Prop :=
  ∃ now handler, start ≤ now ∧ now.toNat ≤ start.toNat + state.replayTtl.asSecs.toNat ∧
    screen state now req = .ok (handler, auth)

/-- No signed digest comes to the nonce check under two spellings of its nonce. -/
def OneSpelling (state : AppState Chain) (start : UInt64) (requests : List VerifyRequest) : Prop :=
  ∀ req ∈ requests, ∀ req' ∈ requests, ∀ auth auth', ReachesNonceCheck state start req auth →
    ReachesNonceCheck state start req' auth' → SameDigest auth auth' → SpelledAlike auth auth'

/-- No two accepted calls carry one digest, and beside an accepted call every other
call with its digest that reaches the nonce check is answered `NonceReplayed`. -/
structure OneAcceptance (server : Server Chain Cache) : Prop where
  distinct : ∀ (i j : Nat) (a b : Call Chain) auth auth', i ≠ j → server.calls[i]? = some a →
    server.calls[j]? = some b → a.accepted auth → b.accepted auth' → ¬ SameDigest auth auth'
  replayed : ∀ (i j : Nat) (a b : Call Chain) auth auth', i ≠ j → server.calls[i]? = some a →
    server.calls[j]? = some b → b.accepted auth' → a.checked = some auth →
    SameDigest auth auth' → ∀ outcome, a.outcome = some outcome →
      outcome = .error (.nonceReplayed auth.nonce)

/-- The sponge does not collide on the messages that come to the nonce check. -/
def DigestsCollisionFree (state : AppState Chain) (start : UInt64) (requests : List VerifyRequest) : Prop :=
  ∀ req ∈ requests, ∀ req' ∈ requests, ∀ auth auth', ReachesNonceCheck state start req auth →
    ReachesNonceCheck state start req' auth' → MessageCollisionFree auth auth'

variable [LawfulReplayCache Cache] {state : AppState Chain} {server next : Server Chain Cache}
  {start : UInt64} {i j : Nat} {a b call : Call Chain} {r s stored : NonceRecord}
  {auth auth' : Authorization}

omit [Vesl] [LawfulReplayCache Cache] in
theorem ReachesNonceCheck.shows (screened : ReachesNonceCheck state start req auth) : Shows state req auth := by
  obtain ⟨_, handler, _, _, passed⟩ := screened
  exact ⟨handler, (screen_ok_iff.mp passed).1⟩

/-- One digest is one nonce number, and so one nonce text up to leading `1`s. -/
theorem stripped_of_digest (same : SameDigest auth auth')
    (collisionFree : MessageCollisionFree auth auth') :
    Base58.stripped auth.nonce = Base58.stripped auth'.nonce := by
  obtain ⟨digest, left, right⟩ := same
  obtain ⟨belts, message, hashed⟩ := Outcome.map_ok.mp left
  obtain ⟨belts', message', hashed'⟩ := Outcome.map_ok.mp right
  obtain rfl := collisionFree belts belts' message message' (hashed.trans hashed'.symm)
  obtain ⟨nonce, spelled, spelled'⟩ := nonce_of_belts message message'
  exact Base58.stripped_eq_of_value spelled spelled'

theorem screened_step (recent : Recent state start server)
    (taken : step state server label = some next) : ∀ call ∈ next.calls, ∀ handler auth readAt,
      call.phase = .screened handler auth readAt → start ≤ readAt := by
  rcases step_cases taken with ⟨now, _, _, rfl⟩ | ⟨req, _, rfl⟩ |
    ⟨index, old, new, cache', _, _, advanced, rfl⟩
  · exact recent.screened
  · intro call member handler auth readAt phase
    rcases List.mem_append.mp member with here | new
    · exact recent.screened call here handler auth readAt phase
    · obtain rfl := List.mem_singleton.mp new
      cases phase
  · intro call member handler auth readAt phase
    rcases List.mem_or_eq_of_mem_set member with here | rfl
    · exact recent.screened call here handler auth readAt phase
    · rw [advanceCall_screened advanced phase]
      exact recent.clock.1

theorem recent_step (allowed : WithinTtl state start label) (recent : Recent state start server)
    (taken : step state server label = some next) : Recent state start next where
  screened := screened_step recent taken
  clock := by
    rcases step_cases taken with ⟨now, rfl, order, rfl⟩ | ⟨req, _, rfl⟩ |
      ⟨index, call, call', cache', _, _, _, rfl⟩
    · exact ⟨UInt64.le_trans recent.clock.1 order, allowed⟩
    · exact recent.clock
    · exact recent.clock
  stored := by
    intro index record found
    rcases recordAt_step taken with ⟨_, _, same⟩ |
      ⟨changed, stored, _, time, ⟨_, call, handler, known, phase⟩, _, _, update⟩
    · rw [same] at found
      exact recent.stored index record found
    · rw [update] at found
      by_cases here : index = changed
      · rw [if_pos here] at found
        cases found
        refine ⟨recent.screened call (List.mem_of_getElem? known) _ _ _ phase, ?_⟩
        rw [time]
        exact recent.clock.1
      · rw [if_neg here] at found
        exact recent.stored index record found

omit [Vesl] [LawfulReplayCache Cache] in
theorem recent_of_idle (idle : server.Idle) : Recent state server.clock server where
  clock := ⟨UInt64.le_refl _, Nat.le_add_right _ _⟩
  screened := by simp [idle.calls]
  stored := by
    intro index record found
    simp [Server.recordAt, idle.calls] at found

theorem recent_run (idle : server.Idle)
    (within : ∀ label ∈ labels, WithinTtl state server.clock label)
    (reached : Machine.run (step state) server labels = some final) :
    Recent state server.clock final :=
  Machine.invariant (fun allowed recent taken => recent_step allowed recent taken)
    (Machine.within_of_labels within server) (recent_of_idle idle) reached

/-- Within the TTL no two calls store one key. -/
theorem key_once (valid : Valid state server) (recent : Recent state start server)
    (distinct : i ≠ j) (left : server.recordAt i = some r) (right : server.recordAt j = some s) :
    replayKey r.auth ≠ replayKey s.auth := by
  intro same
  have ⟨_, bound⟩ := recent.clock
  have fromR := UInt64.le_iff_toNat_le.mp (recent.stored i r left).2
  have fromS := UInt64.le_iff_toNat_le.mp (recent.stored j s right).2
  have untilR := UInt64.le_iff_toNat_le.mp (valid.kept i r left).1
  have untilS := UInt64.le_iff_toNat_le.mp (valid.kept j s right).1
  rcases valid.apart i j r s distinct left right same with apart | apart <;> omega

/-- A call that stored a nonce was let through to the nonce check within the TTL. -/
theorem screened_of_record (valid : Valid state server) (recent : Recent state start server)
    (found : server.calls[i]? = some call) (record : call.record = some stored) :
    ReachesNonceCheck state start call.request stored.auth := by
  obtain ⟨⟨handler, passed⟩, ordered⟩ :=
    (valid.passed call (List.mem_of_getElem? found)).of_record record
  have held : server.recordAt i = some stored := by
    rw [Server.recordAt, found, Option.bind_some, record]
  have bound := recent.clock.2
  have late := UInt64.le_iff_toNat_le.mp (valid.kept i stored held).1
  have order := UInt64.le_iff_toNat_le.mp ordered
  exact ⟨stored.readAt, handler, (recent.stored i stored held).1, by omega, passed⟩

/-- Two calls that stored nonces never stored them for one digest. -/
theorem digests_once (valid : Valid state server) (recent : Recent state start server)
    (alike : OneSpelling state start server.requests)
    (free : DigestsCollisionFree state start server.requests)
    (distinct : i ≠ j) (left : server.calls[i]? = some a) (right : server.calls[j]? = some b)
    (stored : a.record = some r) (stored' : b.record = some s) : ¬ SameDigest r.auth s.auth := by
  intro same
  have screened := screened_of_record valid recent left stored
  have screened' := screened_of_record valid recent right stored'
  have member : a.request ∈ server.requests := List.mem_map_of_mem (List.mem_of_getElem? left)
  have member' : b.request ∈ server.requests := List.mem_map_of_mem (List.mem_of_getElem? right)
  have stripped := stripped_of_digest same (free _ member _ member' _ _ screened screened')
  have nonce : r.auth.nonce = s.auth.nonce :=
    alike _ member _ member' _ _ screened screened' same stripped
  apply key_once valid recent distinct (r := r) (s := s)
  · rw [Server.recordAt, left, Option.bind_some, stored]
  · rw [Server.recordAt, right, Option.bind_some, stored']
  · rw [replayKey, replayKey, nonce]

theorem oneAcceptance_of_alike (valid : Valid state server) (recent : Recent state start server)
    (alike : OneSpelling state start server.requests)
    (free : DigestsCollisionFree state start server.requests) :
    OneAcceptance server where
  distinct := by
    intro i j a b auth auth' distinct left right acceptedA acceptedB
    obtain ⟨r, storedA, rfl, _⟩ := Call.record_of_accepted acceptedA
    obtain ⟨s, storedB, rfl, _⟩ := Call.record_of_accepted acceptedB
    exact digests_once valid recent alike free distinct left right storedA storedB
  replayed := by
    intro i j a b auth auth' distinct left right accepted checked same outcome finished
    obtain ⟨s, storedB, rfl, _⟩ := Call.record_of_accepted accepted
    rcases Call.checked_cases checked with ⟨r, storedA, rfl⟩ | replayed
    · exact absurd same (digests_once valid recent alike free distinct left right storedA storedB)
    · exact Option.some.inj (finished.symm.trans replayed)

/-- One signature is accepted once, in every interleaving of `/verify` calls that
come within one replay TTL and bring each digest to the nonce check in one spelling. -/
theorem one_acceptance (idle : server.Idle)
    (within : ∀ label ∈ labels, WithinTtl state server.clock label)
    (alike : OneSpelling state server.clock (presented labels))
    (free : DigestsCollisionFree state server.clock (presented labels))
    (reached : Machine.run (step state) server labels = some final) : OneAcceptance final := by
  have requests : final.requests = presented labels := by
    rw [requests_run reached, Server.requests, idle.calls]
    rfl
  rw [← requests] at alike free
  exact oneAcceptance_of_alike (valid_run idle reached) (recent_run idle within reached) alike free

end Runs

/-! ### One nonce in two spellings -/

namespace Transparent

open Crypto.Transparent

attribute [local instance] transparent transparent_lawful plainErrors

/-- `authorization` with a leading `1` before its nonce. -/
def respelled : Authorization := { authorization with nonce := "13" }

theorem respelled_signable : Signable respelled :=
  { authorization_signable with nonce := ⟨2, rfl, by decide⟩ }

def rewritten : VerifyRequest := request (payment respelled)

theorem rewritten_honest : Honest payer (payment respelled) rewritten :=
  honest respelled_signable rfl rfl rfl none

def idle : Server Unit RecordLog := { clock := 1100, cache := {} }

theorem nothing_asked : idle.Idle := rfl

theorem original_records : Records authorization 1100 idle.cache
    (verifyEnvelope facilitator 1100 idle.cache original).2 := original_recorded

/-- The second spelling is another key. -/
theorem rewritten_accepted : (verifyEnvelope facilitator 1101
    (verifyEnvelope facilitator 1100 idle.cache original).2 rewritten).1 = .ok () := by
  refine (rewritten_honest.accepted_iff rfl).mpr
    ⟨in_window rfl rfl rfl 1101 (by decide) (by decide), ?_⟩
  rintro ⟨time, found, _⟩
  have other : replayKey (payment respelled).authorization ≠ replayKey authorization :=
    fun same => absurd (replayKey_inj.mp same) (by decide)
  rw [original_records, if_neg other] at found
  cases found

theorem respelled_belts : x402SignMessageBelts respelled = x402SignMessageBelts authorization := by
  have short : base58ToBelts "3" "nonce" = .ok (beltsOf 5 2) :=
    base58ToBelts_ok_iff.mpr ⟨2, rfl, by decide, rfl⟩
  have long : base58ToBelts "13" "nonce" = .ok (beltsOf 5 2) :=
    base58ToBelts_ok_iff.mpr ⟨2, rfl, by decide, rfl⟩
  simp only [x402SignMessageBelts, respelled, authorization, short, long]

theorem shown_belts (shows' : Shows facilitator req auth) (member : req ∈ [original, rewritten]) :
    x402SignMessageBelts auth = x402SignMessageBelts authorization := by
  simp only [List.mem_cons, List.not_mem_nil, or_false] at member
  rcases member with rfl | rfl
  · rw [shows'.unique ⟨_, original_honest.dispatched rfl⟩]
    rfl
  · rw [shows'.unique ⟨_, rewritten_honest.dispatched rfl⟩]
    exact respelled_belts

theorem collisionFree (shown : ∀ req ∈ requests, req ∈ [original, rewritten]) :
    DigestsCollisionFree facilitator start requests := by
  intro req member req' member' auth auth' screened screened' x y left right _
  have same := (shown_belts screened.shows (shown _ member)).trans
    (shown_belts screened'.shows (shown _ member')).symm
  rw [same, right] at left
  exact (Except.ok.inj left).symm

theorem recent_ticks {labels : List Label} (ticks : ∀ now, Label.tick now ∈ labels → now ∈ [1100, 1101]) :
    ∀ label ∈ labels, WithinTtl facilitator idle.clock label := by
  intro label member
  cases label with
  | tick now =>
    have late := ticks now member
    simp only [List.mem_cons, List.not_mem_nil, or_false] at late
    change now.toNat ≤ 1100 + 900
    rcases late with rfl | rfl <;> decide
  | arrive req => trivial
  | advance index => trivial

/-- The payment of `payer`, sent twice. -/
theorem one_acceptance_resent : ∃ labels final, presented labels = [original, original] ∧
    Machine.run (step facilitator) idle labels = some final ∧ OneAcceptance final := by
  obtain ⟨labels, final, reached, shown, _, ticks, _⟩ := run_verifyAll facilitator idle
    [(1100, original), (1101, original)] ⟨by decide, by decide, trivial⟩
  refine ⟨labels, final, shown, reached,
    one_acceptance nothing_asked (recent_ticks ticks) ?_ (collisionFree ?_) reached⟩
  · rw [shown]
    intro req member req' member' auth auth' screened screened' _ _
    simp only [List.map_cons, List.map_nil, List.mem_cons, List.not_mem_nil, or_false, or_self]
      at member member'
    subst member member'
    rw [screened.shows.unique screened'.shows]
  · rw [shown]
    simp

/-- A leading `1` before the nonce buys a second acceptance of one signature. -/
theorem respelled_nonce_accepted : ¬ ∀ labels final,
    (∀ label ∈ labels, WithinTtl facilitator idle.clock label) →
    DigestsCollisionFree facilitator idle.clock (presented labels) →
    Machine.run (step facilitator) idle labels = some final → OneAcceptance final := by
  intro claim
  obtain ⟨labels, final, reached, shown, outcomes, ticks, _⟩ := run_verifyAll facilitator idle
    [(1100, original), (1101, rewritten)] ⟨by decide, by decide, trivial⟩
  have once := claim labels final (recent_ticks ticks) (collisionFree (by rw [shown]; simp)) reached
  have answers : final.calls.map Call.outcome = [some (.ok ()), some (.ok ())] := by
    have first : (verifyEnvelope facilitator 1100 idle.cache original).1 = .ok () := original_accepted
    rw [outcomes, nothing_asked.calls]
    simp only [verifyAll, first, rewritten_accepted, List.map_cons, List.map_nil, List.nil_append]
  have valid : ∀ outcome ∈ final.calls.map Call.outcome, outcome = some (.ok ()) := by
    rw [answers]
    simp
  obtain ⟨a, auth, hereA, _, acceptedA, showsA⟩ :=
    accepted_calls 0 nothing_asked reached valid (by rw [shown]; rfl)
  obtain ⟨b, auth', hereB, _, acceptedB, showsB⟩ :=
    accepted_calls 1 nothing_asked reached valid (by rw [shown]; rfl)
  obtain ⟨belts, message⟩ := signable_iff.mpr authorization_signable
  have same : SameDigest auth auth' := by
    refine ⟨hashVarlen belts, ?_, ?_⟩
    · rw [x402SignMessageDigest, shown_belts showsA List.mem_cons_self, message]
      rfl
    · rw [x402SignMessageDigest, shown_belts showsB (List.mem_cons_of_mem _ List.mem_cons_self), message]
      rfl
  exact once.distinct 0 1 a b auth auth' (by decide) hereA hereB acceptedA acceptedB same

end Transparent

end X402Nockchain.Facilitator
