import X402Nockchain.Foundation.Machine
import X402Nockchain.Facilitator.Verify

/-! Concurrent `/verify` calls on one facilitator. A call reads the clock when it
is screened and touches the cache later, and any other call may run in between. -/

namespace X402Nockchain.Facilitator

open Foundation X402Types Crypto
variable {Chain Cache : Type}

/-- How far a call has come, with the clock readings of its checks. -/
inductive Phase (Chain : Type) where
  | arrived
  | screened (handler : SchemeHandler Chain) (auth : Authorization) (readAt : UInt64)
  | recorded (handler : SchemeHandler Chain) (auth : Authorization) (readAt storedAt : UInt64)
  | declined (error : VerifyError)
  | replayed (auth : Authorization) (readAt checkedAt : UInt64)
  | accepted (auth : Authorization) (readAt storedAt : UInt64)
  | refused (auth : Authorization) (readAt storedAt : UInt64) (error : VerifyError)

structure Call (Chain : Type) where
  request : VerifyRequest
  phase : Phase Chain

/-- Whose nonce, and the readings of the time-window check and the nonce check. -/
structure NonceRecord where
  auth : Authorization
  readAt : UInt64
  storedAt : UInt64

namespace Call

/-- What the client is answered, once the call is over. -/
def outcome (call : Call Chain) : Option (Except VerifyError Unit) :=
  match call.phase with
  | .declined error => some (.error error)
  | .replayed auth _ _ => some (.error (.nonceReplayed auth.nonce))
  | .accepted _ _ _ => some (.ok ())
  | .refused _ _ _ error => some (.error error)
  | _ => none

/-- The nonce that a call put into the cache. -/
def record (call : Call Chain) : Option NonceRecord :=
  match call.phase with
  | .recorded _ auth readAt storedAt => some { auth, readAt, storedAt }
  | .accepted auth readAt storedAt => some { auth, readAt, storedAt }
  | .refused auth readAt storedAt _ => some { auth, readAt, storedAt }
  | _ => none

def accepted (call : Call Chain) (auth : Authorization) : Prop :=
  ∃ readAt storedAt, call.phase = .accepted auth readAt storedAt

theorem record_of_accepted {call : Call Chain} (accepted : call.accepted auth) :
    ∃ record, call.record = some record ∧ record.auth = auth ∧
      call.outcome = some (.ok ()) := by
  obtain ⟨readAt, storedAt, phase⟩ := accepted
  exact ⟨⟨auth, readAt, storedAt⟩, by simp [record, phase], rfl,
    by simp [outcome, phase]⟩

end Call

structure Server (Chain Cache : Type) where
  clock : UInt64
  cache : Cache
  calls : List (Call Chain) := []

def Server.requests (server : Server Chain Cache) : List VerifyRequest :=
  server.calls.map Call.request

/-- The nonce that the call at `index` stored. -/
def Server.recordAt (server : Server Chain Cache) (index : Nat) : Option NonceRecord :=
  server.calls[index]?.bind Call.record

inductive Label where
  | tick (now : UInt64)
  | arrive (req : VerifyRequest)
  | advance (index : Nat)

/-- The next check of a call. Each is atomic. -/
def advanceCall [Vesl] [ReplayCache Cache] (state : AppState Chain) (clock : UInt64) (cache : Cache)
    (call : Call Chain) : Option (Call Chain × Cache) :=
  match call.phase with
  | .arrived =>
    match screen state clock call.request with
    | .error error => some ({ call with phase := .declined error }, cache)
    | .ok (handler, auth) => some ({ call with phase := .screened handler auth clock }, cache)
  | .screened handler auth readAt =>
    match checkReplay state clock cache auth with
    | (.error _, cache) => some ({ call with phase := .replayed auth readAt clock }, cache)
    | (.ok (), cache) => some ({ call with phase := .recorded handler auth readAt clock }, cache)
  | .recorded handler auth readAt storedAt =>
    match handler.verify call.request.payload call.request.requirements with
    | .error error => some ({ call with phase := .refused auth readAt storedAt error }, cache)
    | .ok () => some ({ call with phase := .accepted auth readAt storedAt }, cache)
  | _ => none

/-- One step of the facilitator. The clock never goes back. -/
def step [Vesl] [ReplayCache Cache] (state : AppState Chain) : Machine (Server Chain Cache) Label
  | server, .tick now => if server.clock ≤ now then some { server with clock := now } else none
  | server, .arrive req => some { server with calls := server.calls ++ [⟨req, .arrived⟩] }
  | server, .advance index => do
    let call ← server.calls[index]?
    let (call, cache) ← advanceCall state server.clock server.cache call
    return { server with cache, calls := server.calls.set index call }

/-- What the phase of a call tells: the checks it went through, and the readings
at which it did. -/
inductive Passed (state : AppState Chain) (clock : UInt64) (req : VerifyRequest) :
    Phase Chain → Prop where
  | arrived : Passed state clock req .arrived
  | screened (passed : screen state readAt req = .ok (handler, auth)) (read : readAt ≤ clock) :
      Passed state clock req (.screened handler auth readAt)
  | recorded (passed : screen state readAt req = .ok (handler, auth)) (ordered : readAt ≤ storedAt) :
      Passed state clock req (.recorded handler auth readAt storedAt)
  | declined (failed : screen state readAt req = .error error) :
      Passed state clock req (.declined error)
  | replayed (passed : screen state readAt req = .ok (handler, auth)) :
      Passed state clock req (.replayed auth readAt checkedAt)
  | accepted (passed : screen state readAt req = .ok (handler, auth)) (ordered : readAt ≤ storedAt)
      (verified : handler.verify req.payload req.requirements = .ok ()) :
      Passed state clock req (.accepted auth readAt storedAt)
  | refused (passed : screen state readAt req = .ok (handler, auth)) (ordered : readAt ≤ storedAt)
      (failed : handler.verify req.payload req.requirements = .error error) :
      Passed state clock req (.refused auth readAt storedAt error)

theorem Passed.later {state : AppState Chain} (passed : Passed state clock req phase)
    (order : clock ≤ clock') : Passed state clock' req phase := by
  cases passed with
  | arrived => exact .arrived
  | screened passed read => exact .screened passed (UInt64.le_trans read order)
  | recorded passed ordered => exact .recorded passed ordered
  | declined failed => exact .declined failed
  | replayed passed => exact .replayed passed
  | accepted passed ordered verified => exact .accepted passed ordered verified
  | refused passed ordered failed => exact .refused passed ordered failed

/-- A recorded nonce was screened no later than it was stored. -/
theorem Passed.of_record {state : AppState Chain} {call : Call Chain}
    (passed : Passed state clock call.request call.phase) (found : call.record = some record) :
    (∃ handler, screen state record.readAt call.request = .ok (handler, record.auth)) ∧
      record.readAt ≤ record.storedAt := by
  obtain ⟨request, phase⟩ := call
  cases passed with
  | arrived | screened | declined | replayed => cases found
  | recorded passed ordered => cases found; exact ⟨⟨_, passed⟩, ordered⟩
  | accepted passed ordered verified => cases found; exact ⟨⟨_, passed⟩, ordered⟩
  | refused passed ordered failed => cases found; exact ⟨⟨_, passed⟩, ordered⟩

theorem recordAt_set {server : Server Chain Cache} (found : server.calls[index]? = some call) (other : Nat) :
    Server.recordAt { server with cache := cache, calls := server.calls.set index call' } other =
      if other = index then call'.record else server.recordAt other :=
  Machine.held_set found call' other

section Steps

open LawfulReplayCache (recordedAt)

variable [Vesl] [LawfulReplayCache Cache] {state : AppState Chain} {clock : UInt64} {cache : Cache}
  {call : Call Chain} {server next : Server Chain Cache}

/-- A check either leaves the cache and the record of its call alone, or is the
nonce check that stores a fresh nonce. -/
theorem advanceCall_cases (taken : advanceCall state clock cache call = some (call', cache')) :
    (cache' = cache ∧ call'.request = call.request ∧ call'.record = call.record) ∨
    (∃ handler auth readAt, call.phase = .screened handler auth readAt ∧
      ¬ Consumed state clock cache auth ∧ Records auth clock cache cache' ∧
      call' = { call with phase := .recorded handler auth readAt clock }) := by
  obtain ⟨request, phase⟩ := call
  cases phase with
  | arrived =>
    simp only [advanceCall] at taken
    split at taken <;> cases taken <;> exact .inl ⟨rfl, rfl, rfl⟩
  | screened handler auth readAt =>
    simp only [advanceCall] at taken
    rcases checkReplay_cases state clock cache auth with ⟨known, hit⟩ | ⟨fresh, after, missed, records⟩
    · rw [hit] at taken
      cases taken
      exact .inl ⟨rfl, rfl, rfl⟩
    · rw [missed] at taken
      cases taken
      exact .inr ⟨handler, auth, readAt, rfl, fresh, records, rfl⟩
  | recorded handler auth readAt storedAt =>
    simp only [advanceCall] at taken
    split at taken <;> cases taken <;> exact .inl ⟨rfl, rfl, rfl⟩
  | declined | replayed | accepted | refused => cases taken

theorem advanceCall_passed (passed : Passed state clock call.request call.phase)
    (taken : advanceCall state clock cache call = some (call', cache')) :
    Passed state clock call'.request call'.phase := by
  obtain ⟨request, phase⟩ := call
  cases passed with
  | arrived =>
    simp only [advanceCall] at taken
    split at taken <;> cases taken
    · exact .declined ‹_›
    · exact .screened ‹_› (UInt64.le_refl _)
  | screened passed read =>
    simp only [advanceCall] at taken
    split at taken <;> cases taken
    · exact .replayed passed
    · exact .recorded passed read
  | recorded passed ordered =>
    simp only [advanceCall] at taken
    split at taken <;> cases taken
    · exact .refused passed ordered ‹_›
    · exact .accepted passed ordered ‹_›
  | declined | replayed | accepted | refused => cases taken

/-- Everything that a step can do. -/
theorem step_cases (taken : step state server label = some next) :
    (∃ now, label = .tick now ∧ server.clock ≤ now ∧ next = { server with clock := now }) ∨
    (∃ req, label = .arrive req ∧ next = { server with calls := server.calls ++ [⟨req, .arrived⟩] }) ∨
    (∃ index call call' cache', label = .advance index ∧ server.calls[index]? = some call ∧
      advanceCall state server.clock server.cache call = some (call', cache') ∧
      next = { server with cache := cache', calls := server.calls.set index call' }) := by
  cases label with
  | tick now =>
    simp only [step, Option.ite_none_right_eq_some, Option.some.injEq] at taken
    exact .inl ⟨now, rfl, taken.1, taken.2.symm⟩
  | arrive req => exact .inr (.inl ⟨req, rfl, (Option.some.inj taken).symm⟩)
  | advance index =>
    simp only [step, Option.bind_eq_bind, Option.bind_eq_some_iff] at taken
    obtain ⟨call, found, ⟨call', cache'⟩, advanced, same⟩ := taken
    exact .inr (.inr ⟨index, call, call', cache', rfl, found, advanced, (Option.some.inj same).symm⟩)

/-- A step stores at most one nonce: that of a screened call, which the cache does not
remember, at the current reading. -/
theorem recordAt_step (taken : step state server label = some next) :
    (next.cache = server.cache ∧ server.clock ≤ next.clock ∧ next.recordAt = server.recordAt) ∨
    (∃ index record, next.clock = server.clock ∧ record.storedAt = server.clock ∧
      (label = .advance index ∧ ∃ call handler, server.calls[index]? = some call ∧
        call.phase = .screened handler record.auth record.readAt) ∧
      ¬ Consumed state server.clock server.cache record.auth ∧
      Records record.auth server.clock server.cache next.cache ∧
      ∀ other, next.recordAt other = if other = index then some record else server.recordAt other) := by
  rcases step_cases taken with ⟨now, _, order, rfl⟩ | ⟨req, _, rfl⟩ |
    ⟨index, call, call', cache', named, found, advanced, rfl⟩
  · exact .inl ⟨rfl, order, rfl⟩
  · exact .inl ⟨rfl, UInt64.le_refl _, funext (Machine.held_concat rfl)⟩
  · rcases advanceCall_cases advanced with ⟨rfl, _, same⟩ |
      ⟨handler, auth, readAt, phase, fresh, records, rfl⟩
    · refine .inl ⟨rfl, UInt64.le_refl _, funext fun other => ?_⟩
      rw [recordAt_set found, same]
      by_cases here : other = index
      · rw [if_pos here, here, Server.recordAt, found, Option.bind_some]
      · rw [if_neg here]
    · exact .inr ⟨index, ⟨auth, readAt, server.clock⟩, rfl, rfl,
        ⟨named, call, handler, found, phase⟩, fresh, records, recordAt_set found⟩

/-- A stored nonce is in the cache, under a time no earlier than its own. -/
def Kept (server : Server Chain Cache) (record : NonceRecord) : Prop :=
  record.storedAt ≤ server.clock ∧
    ∃ time, recordedAt server.cache (replayKey record.auth) = some time ∧ record.storedAt ≤ time

/-- Stored more than the replay TTL apart, in either order. -/
def Apart (state : AppState Chain) (a b : NonceRecord) : Prop :=
  a.storedAt.toNat + state.replayTtl.asSecs.toNat < b.storedAt.toNat ∨
    b.storedAt.toNat + state.replayTtl.asSecs.toNat < a.storedAt.toNat

omit [Vesl] in
theorem Apart.symm {a b : NonceRecord} (apart : Apart state a b) : Apart state b a := Or.symm apart

/-- The invariant of the running facilitator. -/
structure Valid (state : AppState Chain) (server : Server Chain Cache) : Prop where
  passed : ∀ call ∈ server.calls, Passed state server.clock call.request call.phase
  kept : ∀ index record, server.recordAt index = some record → Kept server record
  apart : ∀ i j a b, i ≠ j → server.recordAt i = some a → server.recordAt j = some b →
    replayKey a.auth = replayKey b.auth → Apart state a b

theorem passed_step (passed : ∀ call ∈ server.calls, Passed state server.clock call.request call.phase)
    (taken : step state server label = some next) :
    ∀ call ∈ next.calls, Passed state next.clock call.request call.phase := by
  rcases step_cases taken with ⟨now, _, order, rfl⟩ | ⟨req, _, rfl⟩ |
    ⟨index, call, call', cache', _, found, advanced, rfl⟩
  · exact fun call member => (passed call member).later order
  · intro call member
    rcases List.mem_append.mp member with member | new
    · exact passed call member
    · rw [List.mem_singleton.mp new]
      exact .arrived
  · intro other member
    rcases List.mem_or_eq_of_mem_set member with member | same
    · exact passed other member
    · rw [same]
      exact advanceCall_passed (passed call (List.mem_of_getElem? found)) advanced

theorem kept_step (kept : ∀ index record, server.recordAt index = some record → Kept server record)
    (taken : step state server label = some next) :
    ∀ index record, next.recordAt index = some record → Kept next record := by
  rcases recordAt_step taken with ⟨sameCache, order, sameRecords⟩ |
    ⟨index, stored, sameClock, time, _, _, records, update⟩
  · intro index record found
    rw [sameRecords] at found
    obtain ⟨before, known⟩ := kept index record found
    rw [Kept, sameCache]
    exact ⟨UInt64.le_trans before order, known⟩
  · intro other record found
    rw [update] at found
    rw [Kept, sameClock, records]
    by_cases here : other = index
    · rw [if_pos here] at found
      cases found
      rw [time]
      exact ⟨UInt64.le_refl _, server.clock, if_pos rfl, UInt64.le_refl _⟩
    · rw [if_neg here] at found
      obtain ⟨before, at', known, early⟩ := kept other record found
      refine ⟨before, ?_⟩
      by_cases overwritten : replayKey record.auth = replayKey stored.auth
      · exact ⟨server.clock, if_pos overwritten, before⟩
      · exact ⟨at', (if_neg overwritten).trans known, early⟩

/-- A nonce that the cache does not remember was stored more than a TTL ago. -/
theorem expired_of_fresh {stored : NonceRecord} (kept : Kept server record)
    (same : replayKey record.auth = replayKey stored.auth) (time : stored.storedAt = server.clock)
    (fresh : ¬ Consumed state server.clock server.cache stored.auth) : Apart state record stored := by
  obtain ⟨_, at', known, early⟩ := kept
  rw [same] at known
  rw [Consumed, remembered_iff] at fresh
  have expired : ¬ server.clock.toNat ≤ at'.toNat + state.replayTtl.asSecs.toNat :=
    fun recent => fresh ⟨at', known, recent⟩
  rw [UInt64.le_iff_toNat_le] at early
  left
  rw [time]
  omega

theorem valid_step (valid : Valid state server) (taken : step state server label = some next) :
    Valid state next where
  passed := passed_step valid.passed taken
  kept := kept_step valid.kept taken
  apart := by
    intro i j a b distinct left right same
    rcases recordAt_step taken with ⟨_, _, sameRecords⟩ |
      ⟨index, stored, _, time, _, fresh, _, update⟩
    · rw [sameRecords] at left right
      exact valid.apart i j a b distinct left right same
    · rw [update] at left right
      by_cases here : i = index <;> by_cases there : j = index
      · exact absurd (here.trans there.symm) distinct
      · -- the new record against an old one, in both orders
        rw [if_pos here] at left
        rw [if_neg there] at right
        cases left
        exact (expired_of_fresh (valid.kept j b right) same.symm time fresh).symm
      · rw [if_neg here] at left
        rw [if_pos there] at right
        cases right
        exact expired_of_fresh (valid.kept i a left) same time fresh
      · rw [if_neg here] at left
        rw [if_neg there] at right
        exact valid.apart i j a b distinct left right same

/-- A facilitator that has been asked nothing yet. -/
def Server.Idle (server : Server Chain Cache) : Prop := server.calls = []

omit [Vesl] [LawfulReplayCache Cache] in
theorem Server.Idle.calls (idle : server.Idle) : server.calls = [] := idle

theorem valid_of_idle (idle : server.Idle) : Valid state server := by
  have none : ∀ index, server.recordAt index = none := by simp [Server.recordAt, idle.calls]
  refine ⟨by simp [idle.calls], ?_, ?_⟩
  · intro index record found
    simp [none] at found
  · intro i j a b _ left
    simp [none] at left

/-- The invariant holds after every run. -/
theorem valid_run (idle : server.Idle) (reached : Machine.run (step state) server labels = some final) :
    Valid state final :=
  Machine.invariant (fun _ valid taken => valid_step valid taken)
    (Machine.within_of_labels (fun _ _ => trivial) _ : Machine.Within _ (fun _ _ => True) _ _)
    (valid_of_idle idle) reached

theorem shows_of_record {index : Nat} (valid : Valid state server) (found : server.calls[index]? = some call)
    (record : call.record = some stored) : Shows state call.request stored.auth := by
  obtain ⟨⟨handler, passed⟩, _⟩ :=
    (valid.passed call (List.mem_of_getElem? found)).of_record record
  exact ⟨handler, (screen_ok_iff.mp passed).1⟩

theorem accepted_of_outcome {index : Nat} (valid : Valid state server)
    (found : server.calls[index]? = some call)
    (finished : call.outcome = some (.ok ())) : ∃ auth, call.accepted auth ∧ Shows state call.request auth := by
  obtain ⟨request, phase⟩ := call
  cases phase with
  | accepted auth readAt storedAt =>
    exact ⟨auth, ⟨readAt, storedAt, rfl⟩, shows_of_record valid found rfl⟩
  | arrived | screened | recorded | declined | replayed | refused => cases finished

/-! ### Requests and undisturbed calls -/

def Label.requests : Label → List VerifyRequest
  | .arrive req => [req]
  | _ => []

theorem advanceCall_request (taken : advanceCall state clock cache call = some (call', cache')) :
    call'.request = call.request := by
  rcases advanceCall_cases taken with ⟨_, same, _⟩ | ⟨_, _, _, _, _, _, rfl⟩
  · exact same
  · rfl

theorem requests_step (taken : step state server label = some next) :
    next.requests = server.requests ++ label.requests := by
  rcases step_cases taken with ⟨now, rfl, _, rfl⟩ | ⟨req, rfl, rfl⟩ |
    ⟨index, call, call', cache', rfl, found, advanced, rfl⟩
  · exact (List.append_nil _).symm
  · exact List.map_append
  · obtain ⟨bound, rfl⟩ := List.getElem?_eq_some_iff.mp found
    simp only [Label.requests, List.append_nil, Server.requests, List.map_set,
      advanceCall_request advanced]
    rw [← List.getElem_map Call.request (h := by simpa using bound), List.set_getElem_self]

theorem advanceCall_unfinished (taken : advanceCall state clock cache call = some (call', cache')) :
    call.outcome = none := by
  obtain ⟨request, phase⟩ := call
  cases phase with
  | arrived | screened | recorded => rfl
  | declined | replayed | accepted | refused => cases taken

/-- A step keeps every call, and the outcome of every finished one. -/
theorem calls_step {index : Nat} (taken : step state server label = some next)
    (found : server.calls[index]? = some call) : ∃ call', next.calls[index]? = some call' ∧
      call'.request = call.request ∧ (call.outcome ≠ none → call' = call) := by
  rcases step_cases taken with ⟨now, _, _, rfl⟩ | ⟨req, _, rfl⟩ |
    ⟨other, old, new, cache', _, here, advanced, rfl⟩
  · exact ⟨call, found, rfl, fun _ => rfl⟩
  · obtain ⟨bound, same⟩ := List.getElem?_eq_some_iff.mp found
    refine ⟨call, ?_, rfl, fun _ => rfl⟩
    rw [List.getElem?_append_left bound]
    exact found
  · by_cases same : other = index
    · subst same
      obtain rfl := Option.some.inj (here.symm.trans found)
      obtain ⟨bound, _⟩ := List.getElem?_eq_some_iff.mp found
      refine ⟨new, by simp [bound], advanceCall_request advanced, fun finished => ?_⟩
      exact absurd (advanceCall_unfinished advanced) finished
    · exact ⟨call, by rw [List.getElem?_set_ne same]; exact found, rfl, fun _ => rfl⟩

/-- The call at `i` was accepted, and whatever the call at `j` stores, it stores later. -/
structure Precedes (server : Server Chain Cache) (i j : Nat) : Prop where
  distinct : i ≠ j
  accepted : ∃ call, server.calls[i]? = some call ∧ call.outcome = some (.ok ())
  later : ∀ a b, server.recordAt i = some a → server.recordAt j = some b → a.storedAt ≤ b.storedAt

theorem precedes_step {i j : Nat} (valid : Valid state server)
    (taken : step state server label = some next) (precedes : Precedes server i j) :
    Precedes next i j where
  distinct := precedes.distinct
  accepted := by
    obtain ⟨call, found, finished⟩ := precedes.accepted
    obtain ⟨call', found', _, same⟩ := calls_step taken found
    rw [same (by simp [finished])] at found'
    exact ⟨call, found', finished⟩
  later := by
    intro a b left right
    rcases recordAt_step taken with ⟨_, _, same⟩ |
      ⟨index, stored, _, time, ⟨_, call, handler, here, phase⟩, _, _, update⟩
    · rw [same] at left right
      exact precedes.later a b left right
    · rw [update] at left right
      by_cases first : i = index
      · -- an accepted call has no nonce check to come
        obtain ⟨accepted, found, finished⟩ := precedes.accepted
        rw [first] at found
        obtain rfl := Option.some.inj (here.symm.trans found)
        simp [Call.outcome, phase] at finished
      · rw [if_neg first] at left
        by_cases second : j = index
        · rw [if_pos second] at right
          cases right
          rw [time]
          exact (valid.kept i a left).1
        · rw [if_neg second] at right
          exact precedes.later a b left right

/-- A call that arrives after another was accepted. -/
theorem precedes_arrive {i : Nat} {next : Server Chain Cache}
    (taken : step state server (.arrive req) = some next)
    (accepted : ∃ call, server.calls[i]? = some call ∧ call.outcome = some (.ok ())) :
    Precedes next i server.calls.length := by
  obtain rfl := Option.some.inj taken
  obtain ⟨call, found, finished⟩ := accepted
  obtain ⟨bound, _⟩ := List.getElem?_eq_some_iff.mp found
  refine ⟨Nat.ne_of_lt bound, ⟨call, ?_, finished⟩, fun a b _ right => ?_⟩
  · rw [List.getElem?_append_left bound]
    exact found
  · simp [Server.recordAt, Call.record] at right

/-- Within the TTL of an accepted call, no later call with its request is accepted. -/
theorem Precedes.not_accepted {i j : Nat} {a b : Call Chain} (precedes : Precedes server i j)
    (valid : Valid state server) (left : server.calls[i]? = some a) (right : server.calls[j]? = some b)
    (same : a.request = b.request)
    (recent : ∀ record, server.recordAt i = some record →
      server.clock.toNat ≤ record.storedAt.toNat + state.replayTtl.asSecs.toNat) :
    b.outcome ≠ some (.ok ()) := by
  intro finished
  obtain ⟨accepted, found, finished'⟩ := precedes.accepted
  obtain rfl := Option.some.inj (left.symm.trans found)
  obtain ⟨auth, acceptedA, shows'⟩ := accepted_of_outcome valid left finished'
  obtain ⟨auth', acceptedB, shows''⟩ := accepted_of_outcome valid right finished
  obtain ⟨r, storedA, rfl, _⟩ := Call.record_of_accepted acceptedA
  obtain ⟨s, storedB, rfl, _⟩ := Call.record_of_accepted acceptedB
  have recordA : server.recordAt i = some r := by rw [Server.recordAt, left, Option.bind_some, storedA]
  have recordB : server.recordAt j = some s := by rw [Server.recordAt, right, Option.bind_some, storedB]
  rw [← same] at shows''
  have one : r.auth = s.auth := shows'.unique shows''
  have apart := valid.apart i j r s precedes.distinct recordA recordB (by rw [one])
  have order := UInt64.le_iff_toNat_le.mp (precedes.later r s recordA recordB)
  have past := UInt64.le_iff_toNat_le.mp (valid.kept j s recordB).1
  have recent := recent r recordA
  rcases apart with apart | apart <;> omega

/-- The requests that a run presents, in order. -/
def presented (labels : List Label) : List VerifyRequest := labels.flatMap Label.requests

theorem requests_run (reached : Machine.run (step state) server labels = some final) :
    final.requests = server.requests ++ presented labels := by
  induction labels generalizing server with
  | nil =>
    cases reached
    exact (List.append_nil _).symm
  | cons label rest ih =>
    obtain ⟨next, taken, later⟩ := Machine.run_cons reached
    rw [ih later, requests_step taken, List.append_assoc]
    rfl

/-- The next `count` checks of a call. -/
def advances (state : AppState Chain) (clock : UInt64) : Nat → Cache → Call Chain →
    Option (Call Chain × Cache)
  | 0, cache, call => some (call, cache)
  | count + 1, cache, call =>
    (advanceCall state clock cache call).bind fun (call, cache) =>
      advances state clock count cache call

theorem run_advances (shape : server.calls = front ++ [call])
    (taken : advances state server.clock count server.cache call = some (call', cache')) :
    Machine.run (step state) server (List.replicate count (.advance front.length)) =
      some { server with cache := cache', calls := front ++ [call'] } := by
  induction count generalizing server call with
  | zero =>
    cases taken
    rw [← shape]
    rfl
  | succ count ih =>
    obtain ⟨⟨middle, between⟩, first, later⟩ := Option.bind_eq_some_iff.mp taken
    have stepped : step state server (.advance front.length) =
        some { server with cache := between, calls := front ++ [middle] } := by
      simp [step, first, shape]
    rw [List.replicate_succ, Machine.run, stepped, Option.bind_some]
    exact ih rfl later

/-- With no other step in between, a call is one `verify_envelope`. -/
theorem run_alone (state : AppState Chain) (server : Server Chain Cache) (req : VerifyRequest) :
    ∃ count call, Machine.run (step state) server
        (.arrive req :: List.replicate count (.advance server.calls.length)) = some { server with
          cache := (verifyEnvelope state server.clock server.cache req).2
          calls := server.calls ++ [call] } ∧
      call.request = req ∧
      call.outcome = some (verifyEnvelope state server.clock server.cache req).1 ∧
      ∀ record, call.record = some record → record.storedAt = server.clock := by
  suffices ∃ count call, advances state server.clock count server.cache ⟨req, .arrived⟩ =
      some (call, (verifyEnvelope state server.clock server.cache req).2) ∧ call.request = req ∧
      call.outcome = some (verifyEnvelope state server.clock server.cache req).1 ∧
      ∀ record, call.record = some record → record.storedAt = server.clock by
    obtain ⟨count, call, taken, rest⟩ := this
    exact ⟨count, call, run_advances rfl taken, rest⟩
  simp only [verifyEnvelope, verifyEnvelopeInner]
  cases screened : screen state server.clock req with
  | error error =>
    refine ⟨1, ⟨req, .declined error⟩, ?_, rfl, rfl, by simp [Call.record]⟩
    simp [advances, advanceCall, screened]
  | ok found =>
    obtain ⟨handler, auth⟩ := found
    rcases checkReplay_cases state server.clock server.cache auth with
      ⟨_, hit⟩ | ⟨_, after, missed, _⟩
    · simp only [hit]
      refine ⟨2, ⟨req, .replayed auth server.clock server.clock⟩, ?_, rfl, rfl, by simp [Call.record]⟩
      simp [advances, advanceCall, screened, hit]
    · simp only [missed]
      cases verified : handler.verify req.payload req.requirements with
      | error error =>
        refine ⟨3, ⟨req, .refused auth server.clock server.clock error⟩, ?_, rfl, rfl, ?_⟩
        · simp [advances, advanceCall, screened, missed, verified]
        · rintro record ⟨⟩
          rfl
      | ok =>
        refine ⟨3, ⟨req, .accepted auth server.clock server.clock⟩, ?_, rfl, rfl, ?_⟩
        · simp [advances, advanceCall, screened, missed, verified]
        · rintro record ⟨⟩
          rfl

/-- A call checks its nonce at the reading at which it was screened. -/
def Undelayed (server : Server Chain Cache) : Label → Prop
  | .advance index => ∀ (call : Call Chain) handler auth readAt, server.calls[index]? = some call →
      call.phase = .screened handler auth readAt → readAt = server.clock
  | _ => True

theorem advanceCall_screened (taken : advanceCall state clock cache call = some (call', cache'))
    (phase : call'.phase = .screened handler auth readAt) : readAt = clock := by
  obtain ⟨request, before⟩ := call
  cases before with
  | arrived =>
    simp only [advanceCall] at taken
    split at taken <;> cases taken <;> cases phase
    rfl
  | screened handler auth readAt =>
    simp only [advanceCall] at taken
    split at taken <;> cases taken <;> cases phase
  | recorded handler auth readAt storedAt =>
    simp only [advanceCall] at taken
    split at taken <;> cases taken <;> cases phase
  | declined | replayed | accepted | refused => cases taken

theorem within_advances (shape : server.calls = front ++ [call])
    (fresh : ∀ handler auth readAt, call.phase = .screened handler auth readAt →
      readAt = server.clock) (count : Nat) :
    Machine.Within (step state) Undelayed server
      (List.replicate count (.advance front.length)) := by
  induction count generalizing server call with
  | zero => trivial
  | succ count ih =>
    have last : server.calls[front.length]? = some call := by simp [shape]
    refine ⟨?_, fun next taken => ?_⟩
    · intro found handler auth readAt here phase
      obtain rfl := Option.some.inj (last.symm.trans here)
      exact fresh handler auth readAt phase
    · rcases step_cases taken with ⟨_, named, _⟩ | ⟨_, named, _⟩ |
        ⟨index, old, new, cache', named, here, advanced, rfl⟩
      · cases named
      · cases named
      · cases named
        apply @ih new _ (by simp [shape])
        intro handler auth readAt phase
        exact advanceCall_screened advanced phase

/-- The clock readings of a sequence of requests never go back. -/
def Ascending (clock : UInt64) : List (UInt64 × VerifyRequest) → Prop
  | [] => True
  | (now, _) :: rest => clock ≤ now ∧ Ascending now rest

/-- Every sequence of `verify_envelope` is a run of the facilitator without delays and
with the same answers. -/
theorem run_verifyAll (state : AppState Chain) (server : Server Chain Cache)
    (requests : List (UInt64 × VerifyRequest)) (ascending : Ascending server.clock requests) :
    ∃ labels final, Machine.run (step state) server labels = some final ∧
      presented labels = requests.map Prod.snd ∧
      final.calls.map Call.outcome =
        server.calls.map Call.outcome ++ (verifyAll state server.cache requests).1.map some ∧
      (∀ now, .tick now ∈ labels → now ∈ requests.map Prod.fst) ∧
      Machine.Within (step state) Undelayed server labels := by
  induction requests generalizing server with
  | nil => exact ⟨[], server, rfl, rfl, by simp [verifyAll], by simp, trivial⟩
  | cons head rest ih =>
    obtain ⟨now, req⟩ := head
    obtain ⟨order, later⟩ := ascending
    have ticked : step state server (.tick now) = some { server with clock := now } := if_pos order
    obtain ⟨count, call, served, _, outcome, _⟩ := run_alone state { server with clock := now } req
    obtain ⟨labels, final, reached, shown, outcomes, ticks, undelayed⟩ := ih { server with
      clock := now
      cache := (verifyEnvelope state now server.cache req).2
      calls := server.calls ++ [call] } later
    refine ⟨.tick now :: ((.arrive req :: List.replicate count (.advance server.calls.length)) ++
      labels), final, ?_, ?_, ?_, ?_, ?_⟩
    · rw [Machine.run, ticked, Option.bind_some, Machine.run_append, served, Option.bind_some]
      exact reached
    · have silent : presented (List.replicate count (.advance server.calls.length)) = [] := by
        simp [presented, Label.requests]
      simp only [presented, List.flatMap_cons, List.flatMap_append] at silent shown ⊢
      simp [Label.requests, silent, shown]
    · simpa [verifyAll, outcome] using outcomes
    · intro time member
      rw [List.map_cons, List.mem_cons]
      simp only [List.mem_cons, List.cons_append, List.mem_append, List.mem_replicate,
        Label.tick.injEq, reduceCtorEq, and_false, false_or] at member
      exact member.imp id (ticks time)
    · refine ⟨trivial, fun next taken => ?_⟩
      obtain rfl := Option.some.inj (ticked.symm.trans taken)
      refine Machine.within_append ⟨trivial, fun next taken => ?_⟩ fun middle reached => ?_
      · obtain rfl := Option.some.inj taken
        exact within_advances rfl (fun _ _ _ phase => by cases phase) count
      · obtain rfl := Option.some.inj (served.symm.trans reached)
        exact undelayed

/-- Where every answer is `ok`, the calls stand accepted in the order of their requests. -/
theorem accepted_calls (index : Nat) {final : Server Chain Cache} (idle : server.Idle)
    (reached : Machine.run (step state) server labels = some final)
    (valid : ∀ outcome ∈ final.calls.map Call.outcome, outcome = some (.ok ()))
    (found : (presented labels)[index]? = some req) :
    ∃ call auth, final.calls[index]? = some call ∧ call.request = req ∧ call.accepted auth ∧
      Shows state req auth := by
  have requests : final.calls.map Call.request = presented labels := by
    have shown := requests_run reached
    rwa [Server.requests, Server.requests, idle.calls] at shown
  rw [← requests, List.getElem?_map] at found
  obtain ⟨call, here, rfl⟩ := Option.map_eq_some_iff.mp found
  have finished := valid call.outcome (List.mem_map_of_mem (List.mem_of_getElem? here))
  obtain ⟨auth, accepted, shows'⟩ := accepted_of_outcome (valid_run idle reached) here finished
  exact ⟨call, auth, here, rfl, accepted, shows'⟩

end Steps

end X402Nockchain.Facilitator
