import X402Nockchain.Facilitator.Honest
import X402Nockchain.Facilitator.VerifyCalls
import X402Nockchain.Foundation.Linearization

/-! Concurrent `/verify` calls are answered as calls made one after another, in the
order of their nonce checks. -/

namespace X402Nockchain.Facilitator

open Foundation X402Types Crypto

variable {Chain Cache : Type}

/-- A request, with the readings at which its time window and its nonce are checked. -/
structure TimedRequest where
  req : VerifyRequest
  readAt : UInt64
  checkedAt : UInt64

/-- `verify_envelope` by itself, on a clock that may move on between the two checks. -/
def verifyTimed [Vesl] [ReplayCache Cache] (state : AppState Chain) :
    Component Cache TimedRequest (Except VerifyError Unit) := fun cache timed =>
  match screen state timed.readAt timed.req with
  | .error error => (.error error, cache)
  | .ok (handler, auth) =>
    match checkReplay state timed.checkedAt cache auth with
    | (.error error, cache) => (.error error, cache)
    | (.ok (), cache) => (handler.verify timed.req.payload timed.req.requirements, cache)

namespace Call

/-- The answer of a call, which is settled once its nonce is checked. -/
def verdict (call : Call Chain) : Option (Except VerifyError Unit) :=
  match call.phase with
  | .arrived | .screened _ _ _ => none
  | .recorded handler _ _ _ => some (handler.verify call.request.payload call.request.requirements)
  | .declined error => some (.error error)
  | .replayed auth _ _ => some (.error (.nonceReplayed auth.nonce))
  | .accepted _ _ _ => some (.ok ())
  | .refused _ _ _ error => some (.error error)

theorem verdict_of_outcome {call : Call Chain} {outcome : Except VerifyError Unit} (finished : call.outcome = some outcome) :
    call.verdict = some outcome := by
  obtain ⟨request, phase⟩ := call
  cases phase with
  | arrived | screened | recorded => cases finished
  | declined | replayed | accepted | refused => exact finished

/-- The request that takes effect when a call goes on at this reading: of a call that is
declined, or whose nonce is checked. -/
def effect (state : AppState Chain) (clock : UInt64) (call : Call Chain) : Option TimedRequest :=
  match call.phase with
  | .arrived =>
    match screen state clock call.request with
    | .error _ => some ⟨call.request, clock, clock⟩
    | .ok _ => none
  | .screened _ _ readAt => some ⟨call.request, readAt, clock⟩
  | _ => none

end Call

/-- What takes effect in a step of the facilitator. -/
def commits [Vesl] [ReplayCache Cache] (state : AppState Chain) (server : Server Chain Cache) :
    Label → List (Commit Nat TimedRequest (Except VerifyError Unit))
  | .advance index =>
    ((server.calls[index]?.bind (Call.effect state server.clock)).map fun timed =>
      ⟨index, timed, (verifyTimed state server.cache timed).1⟩).toList
  | _ => []

section Steps

variable [Vesl] [LawfulReplayCache Cache] {state : AppState Chain} {clock : UInt64} {cache : Cache}
  {call : Call Chain} {server next : Server Chain Cache}

theorem verifyTimed_same (state : AppState Chain) (now : UInt64) (cache : Cache) (req : VerifyRequest) :
    verifyTimed state cache ⟨req, now, now⟩ = verifyEnvelope state now cache req := by
  simp only [verifyTimed, verifyEnvelope, verifyEnvelopeInner]
  cases screen state now req with
  | error error => rfl
  | ok found =>
    obtain ⟨handler, auth⟩ := found
    dsimp only
    rcases checkReplay state now cache auth with ⟨error | done, after⟩ <;> rfl

/-- A call that goes on takes effect as `verifyTimed` does, or leaves the cache and its
own verdict alone. -/
theorem advanceCall_effect (passed : Passed state clock call.request call.phase)
    (taken : advanceCall state clock cache call = some (call', cache')) :
    (call.effect state clock = none ∧ cache' = cache ∧ call'.verdict = call.verdict) ∨
    ∃ timed, call.effect state clock = some timed ∧ timed.req = call.request ∧
      timed.readAt ≤ timed.checkedAt ∧ timed.checkedAt = clock ∧ call.verdict = none ∧
      (verifyTimed state cache timed).2 = cache' ∧
      call'.verdict = some (verifyTimed state cache timed).1 := by
  obtain ⟨request, phase⟩ := call
  cases passed with
  | arrived =>
    cases screened : screen state clock request with
    | error error =>
      simp only [advanceCall, screened, Option.some.injEq, Prod.mk.injEq] at taken
      obtain ⟨rfl, rfl⟩ := taken
      refine .inr ⟨⟨request, clock, clock⟩, ?_, rfl, UInt64.le_refl _, rfl, rfl, ?_⟩
      · simp only [Call.effect, screened]
      · simp only [verifyTimed, screened, Call.verdict, and_self]
    | ok found =>
      simp only [advanceCall, screened, Option.some.injEq, Prod.mk.injEq] at taken
      obtain ⟨rfl, rfl⟩ := taken
      exact .inl ⟨by simp only [Call.effect, screened], rfl, rfl⟩
  | @screened readAt handler auth passed read =>
    refine .inr ⟨⟨request, readAt, clock⟩, rfl, rfl, read, rfl, rfl, ?_⟩
    rcases checkReplay_cases state clock cache auth with ⟨_, hit⟩ | ⟨_, after, missed, _⟩
    · simp only [advanceCall, hit, Option.some.injEq, Prod.mk.injEq] at taken
      obtain ⟨rfl, rfl⟩ := taken
      simp only [verifyTimed, passed, hit, Call.verdict, and_self]
    · simp only [advanceCall, missed, Option.some.injEq, Prod.mk.injEq] at taken
      obtain ⟨rfl, rfl⟩ := taken
      simp only [verifyTimed, passed, missed, Call.verdict, and_self]
  | @recorded readAt handler auth storedAt passed ordered =>
    cases verified : handler.verify request.payload request.requirements with
    | error error =>
      simp only [advanceCall, verified, Option.some.injEq, Prod.mk.injEq] at taken
      obtain ⟨rfl, rfl⟩ := taken
      exact .inl ⟨rfl, rfl, by simp only [Call.verdict, verified]⟩
    | ok done =>
      simp only [advanceCall, verified, Option.some.injEq, Prod.mk.injEq] at taken
      obtain ⟨rfl, rfl⟩ := taken
      exact .inl ⟨rfl, rfl, by simp only [Call.verdict, verified]⟩
  | declined | replayed | accepted | refused => cases taken

/-- A step is explained by what takes effect in it. -/
theorem commits_linearize (state : AppState Chain) :
    Machine.Linearizes (step state) (commits state) (verifyTimed state) Server.cache
      fun server : Server Chain Cache => ∀ call ∈ server.calls, Passed state server.clock call.request call.phase where
  preserved := passed_step
  explained := by
    intro server label next passed taken
    rcases step_cases taken with ⟨now, rfl, _, rfl⟩ | ⟨req, rfl, rfl⟩ |
      ⟨index, call, call', cache', rfl, found, advanced, rfl⟩
    · exact Component.explains_nil _
    · exact Component.explains_nil _
    · obtain ⟨silent, rfl, _⟩ | ⟨timed, effect, _, _, _, _, rfl, _⟩ :=
        advanceCall_effect (passed call (List.mem_of_getElem? found)) advanced
      · simp only [commits, found, Option.bind_some, silent]
        exact Component.explains_nil _
      · simp only [commits, found, Option.bind_some, effect]
        exact Component.explains_singleton _ _ _

/-- How the history so far agrees with the calls of the facilitator. -/
structure Accounts (state : AppState Chain) (past : List (Commit Nat TimedRequest (Except VerifyError Unit)))
    (server : Server Chain Cache) : Prop where
  passed : ∀ call ∈ server.calls, Passed state server.clock call.request call.phase
  committed : ∀ commit ∈ past, ∃ call, server.calls[commit.caller]? = some call ∧
    commit.call.req = call.request ∧ call.verdict = some commit.answer
  decided : ∀ index call answer, server.calls[index]? = some call → call.verdict = some answer →
    index ∈ past.map Commit.caller
  once : (past.map Commit.caller).Nodup
  timed : ∀ commit ∈ past, commit.call.readAt ≤ commit.call.checkedAt ∧ commit.call.checkedAt ≤ server.clock
  ascending : past.Pairwise fun earlier later => earlier.call.checkedAt ≤ later.call.checkedAt

omit [Vesl] [LawfulReplayCache Cache] in
theorem accounts_of_idle (idle : server.Idle) : Accounts state [] server where
  passed := by simp [idle.calls]
  committed := List.forall_mem_nil _
  decided := by simp [idle.calls]
  once := List.nodup_nil
  timed := List.forall_mem_nil _
  ascending := List.Pairwise.nil

/-- A call goes on without taking effect. -/
theorem Accounts.silent {index : Nat} (accounts : Accounts state past server)
    (taken : step state server (.advance index) = some { server with cache, calls := server.calls.set index call' })
    (found : server.calls[index]? = some call) (request : call'.request = call.request)
    (verdict : call'.verdict = call.verdict) :
    Accounts state past { server with cache, calls := server.calls.set index call' } where
  passed := passed_step accounts.passed taken
  committed := by
    intro commit member
    obtain ⟨other, here, asked, answered⟩ := accounts.committed commit member
    by_cases same : index = commit.caller
    · subst same
      obtain rfl := Option.some.inj (found.symm.trans here)
      obtain ⟨bound, _⟩ := List.getElem?_eq_some_iff.mp here
      exact ⟨call', List.getElem?_set_self bound, asked.trans request.symm, verdict.trans answered⟩
    · exact ⟨other, (List.getElem?_set_ne same).trans here, asked, answered⟩
  decided := by
    intro other call'' answer here answered
    obtain ⟨bound, _⟩ := List.getElem?_eq_some_iff.mp found
    by_cases same : index = other
    · subst same
      obtain rfl := Option.some.inj ((List.getElem?_set_self bound).symm.trans here)
      exact accounts.decided index call answer found (verdict.symm.trans answered)
    · exact accounts.decided other call'' answer ((List.getElem?_set_ne same).symm.trans here) answered
  once := accounts.once
  timed := accounts.timed
  ascending := accounts.ascending

/-- A call takes effect. -/
theorem Accounts.commit {index : Nat} {asking : TimedRequest} (accounts : Accounts state past server)
    (taken : step state server (.advance index) = some { server with cache, calls := server.calls.set index call' })
    (found : server.calls[index]? = some call) (request : call'.request = call.request)
    (undecided : call.verdict = none) (asked : asking.req = call.request) (order : asking.readAt ≤ asking.checkedAt)
    (now : asking.checkedAt = server.clock) (answered : call'.verdict = some answer) :
    Accounts state (past ++ [⟨index, asking, answer⟩])
      { server with cache, calls := server.calls.set index call' } := by
  obtain ⟨bound, _⟩ := List.getElem?_eq_some_iff.mp found
  have fresh : ∀ commit ∈ past, index ≠ commit.caller := by
    rintro commit member rfl
    obtain ⟨other, here, _, answered⟩ := accounts.committed commit member
    obtain rfl := Option.some.inj (found.symm.trans here)
    cases undecided.symm.trans answered
  refine ⟨passed_step accounts.passed taken, ?_, ?_, ?_, ?_, ?_⟩
  · intro commit member
    obtain old | new := List.mem_append.mp member
    · obtain ⟨other, here, asked, answered⟩ := accounts.committed commit old
      exact ⟨other, (List.getElem?_set_ne (fresh commit old)).trans here, asked, answered⟩
    · obtain rfl := List.mem_singleton.mp new
      exact ⟨call', List.getElem?_set_self bound, asked.trans request.symm, answered⟩
  · intro other call'' answer' here answered'
    rw [List.map_append, List.mem_append]
    by_cases same : index = other
    · exact .inr (List.mem_singleton.mpr same.symm)
    · exact .inl (accounts.decided other call'' answer' ((List.getElem?_set_ne same).symm.trans here) answered')
  · rw [List.map_append, List.nodup_append]
    refine ⟨accounts.once, List.nodup_singleton _, ?_⟩
    intro caller member other new
    obtain ⟨commit, inside, rfl⟩ := List.mem_map.mp member
    obtain rfl : other = index := List.mem_singleton.mp new
    exact (fresh commit inside).symm
  · intro commit member
    obtain old | new := List.mem_append.mp member
    · exact accounts.timed commit old
    · obtain rfl := List.mem_singleton.mp new
      exact ⟨order, now ▸ UInt64.le_refl _⟩
  · rw [List.pairwise_append]
    refine ⟨accounts.ascending, List.pairwise_singleton _ _, ?_⟩
    intro commit member new inside
    obtain rfl := List.mem_singleton.mp inside
    rw [now]
    exact (accounts.timed commit member).2

theorem accounts_step (accounts : Accounts state past server) (taken : step state server label = some next) :
    Accounts state (past ++ commits state server label) next := by
  rcases step_cases taken with ⟨now, rfl, order, rfl⟩ | ⟨req, rfl, rfl⟩ |
    ⟨index, call, call', cache', rfl, found, advanced, rfl⟩
  · simp only [commits, List.append_nil]
    exact {
      passed := passed_step accounts.passed taken
      committed := accounts.committed
      decided := accounts.decided
      once := accounts.once
      timed := fun commit member => ⟨(accounts.timed commit member).1,
        UInt64.le_trans (accounts.timed commit member).2 order⟩
      ascending := accounts.ascending }
  · simp only [commits, List.append_nil]
    refine ⟨passed_step accounts.passed taken, ?_, ?_, accounts.once, accounts.timed, accounts.ascending⟩
    · intro commit member
      obtain ⟨call, here, rest⟩ := accounts.committed commit member
      obtain ⟨bound, _⟩ := List.getElem?_eq_some_iff.mp here
      exact ⟨call, (List.getElem?_append_left bound).trans here, rest⟩
    · intro index call answer here answered
      by_cases old : index < server.calls.length
      · exact accounts.decided index call answer ((List.getElem?_append_left old).symm.trans here) answered
      · -- the call that arrives has no verdict yet
        obtain ⟨bound, same⟩ := List.getElem?_eq_some_iff.mp here
        rw [List.getElem_append_right (Nat.not_lt.mp old), List.getElem_singleton] at same
        subst same
        cases answered
  · have request := advanceCall_request advanced
    obtain ⟨silent, _, verdict⟩ | ⟨timed, effect, asked, order, now, undecided, _, answered⟩ :=
      advanceCall_effect (accounts.passed call (List.mem_of_getElem? found)) advanced
    · simp only [commits, found, Option.bind_some, silent, Option.map_none, Option.toList_none, List.append_nil]
      exact accounts.silent taken found request verdict
    · simp only [commits, found, Option.bind_some, effect, Option.map_some, Option.toList_some]
      exact accounts.commit taken found request undecided asked order now answered

theorem accounts_run (idle : server.Idle) (reached : Machine.run (step state) server labels = some final) :
    Accounts state (Machine.history (step state) (commits state) server labels) final := by
  have within : Machine.Within (step state) (fun _ _ => True) server labels :=
    Machine.within_of_labels (fun _ _ => trivial) _
  exact Machine.history_invariant (fun _ accounts taken => accounts_step accounts taken) within
    (accounts_of_idle idle) reached

omit [Vesl] [LawfulReplayCache Cache] in
/-- Without a delay between its checks, a call takes effect at one reading. -/
theorem effect_undelayed {index : Nat} (undelayed : Undelayed server (.advance index))
    (found : server.calls[index]? = some call) (effect : call.effect state server.clock = some asking) :
    asking.readAt = asking.checkedAt := by
  obtain ⟨request, phase⟩ := call
  cases phase with
  | arrived =>
    simp only [Call.effect] at effect
    split at effect
    · obtain rfl := Option.some.inj effect
      rfl
    · cases effect
  | screened handler auth readAt =>
    obtain rfl := Option.some.inj effect
    exact undelayed _ handler auth readAt found rfl
  | recorded | declined | replayed | accepted | refused => cases effect

theorem history_undelayed (undelayed : Machine.Within (step state) Undelayed server labels)
    (reached : Machine.run (step state) server labels = some final) :
    ∀ commit ∈ Machine.history (step state) (commits state) server labels,
      commit.call.readAt = commit.call.checkedAt := by
  let keeps (past : List (Commit Nat TimedRequest (Except VerifyError Unit))) (_ : Server Chain Cache) : Prop :=
    ∀ commit ∈ past, commit.call.readAt = commit.call.checkedAt
  suffices kept : keeps ([] ++ Machine.history (step state) (commits state) server labels) final from kept
  refine Machine.history_invariant ?_ undelayed (List.forall_mem_nil _) reached
  intro past server label next undelayed same _ commit member
  obtain old | new := List.mem_append.mp member
  · exact same commit old
  · cases label with
    | tick | arrive => cases new
    | advance index =>
      simp only [commits, Option.mem_toList, Option.map_eq_some_iff, Option.bind_eq_some_iff] at new
      obtain ⟨asking, ⟨call, found, effect⟩, rfl⟩ := new
      exact effect_undelayed undelayed found effect

/-- Calls that take effect at one reading each are calls of `verify_envelope`. -/
theorem verifyAll_eq (history : List (Commit Nat TimedRequest (Except VerifyError Unit))) (cache : Cache)
    (same : ∀ commit ∈ history, commit.call.readAt = commit.call.checkedAt) :
    verifyAll state cache (history.map fun commit => (commit.call.checkedAt, commit.call.req)) =
      ((verifyTimed state).answers cache (history.map Commit.call),
        (verifyTimed state).after cache (history.map Commit.call)) := by
  induction history generalizing cache with
  | nil => rfl
  | cons head rest ih =>
    rw [List.forall_mem_cons] at same
    obtain ⟨caller, ⟨req, readAt, checkedAt⟩, answer⟩ := head
    obtain rfl : readAt = checkedAt := same.1
    simp only [List.map_cons, verifyAll, Component.answers, Component.after, verifyTimed_same, ih _ same.2]

/-- A history that accounts for the calls between two states of the facilitator: made one
after another, its calls lead from one cache to the other with the answers that were given. -/
structure Linearization (state : AppState Chain) (server final : Server Chain Cache)
    (history : List (Commit Nat TimedRequest (Except VerifyError Unit))) : Prop where
  sequential : (verifyTimed state).Explains server.cache history final.cache
  answered : ∀ index call outcome, final.calls[index]? = some call → call.outcome = some outcome →
    ∃ commit ∈ history, commit.caller = index ∧ commit.call.req = call.request ∧ commit.answer = outcome
  once : (history.map Commit.caller).Nodup
  timed : ∀ commit ∈ history, commit.call.readAt ≤ commit.call.checkedAt
  ascending : history.Pairwise fun earlier later => earlier.call.checkedAt ≤ later.call.checkedAt

/-- The history of a run accounts for its calls. -/
theorem linearization_run (idle : server.Idle) (reached : Machine.run (step state) server labels = some final) :
    Linearization state server final (Machine.history (step state) (commits state) server labels) := by
  have accounts := accounts_run idle reached
  refine ⟨(commits_linearize state).explains (by simp [idle.calls]) reached, ?_, accounts.once,
    fun commit member => (accounts.timed commit member).1, accounts.ascending⟩
  intro index call outcome found finished
  have verdict := Call.verdict_of_outcome finished
  obtain ⟨commit, member, rfl⟩ := List.mem_map.mp (accounts.decided index call outcome found verdict)
  obtain ⟨call', found', asked, answered⟩ := accounts.committed commit member
  obtain rfl := Option.some.inj (found.symm.trans found')
  exact ⟨commit, member, rfl, asked, Option.some.inj (answered.symm.trans verdict)⟩

/-- The call `i` has taken effect at a point of the history where `j` has not. -/
def ComesBefore (history : List (Commit Nat TimedRequest (Except VerifyError Unit))) (i j : Nat) : Prop :=
  ∃ earlier later, history = earlier ++ later ∧ i ∈ earlier.map Commit.caller ∧
    j ∉ earlier.map Commit.caller

/-- A call that is over before another arrives comes before it. -/
theorem comesBefore_run {middle : Server Chain Cache} {i j : Nat} (idle : server.Idle)
    (passing : Machine.run (step state) server front = some middle) (back : List Label)
    (found : middle.calls[i]? = some call) (finished : call.outcome = some outcome)
    (absent : middle.calls.length ≤ j) :
    ComesBefore (Machine.history (step state) (commits state) server (front ++ back)) i j := by
  have soFar := accounts_run idle passing
  refine ⟨_, _, Machine.history_append passing back,
    soFar.decided i call outcome found (Call.verdict_of_outcome finished), fun early => ?_⟩
  obtain ⟨commit, member, rfl⟩ := List.mem_map.mp early
  obtain ⟨call', here, _⟩ := soFar.committed commit member
  exact absurd (List.getElem?_eq_some_iff.mp here).1 (Nat.not_lt.mpr absent)

/-- Concurrent calls are linearizable: they are answered as calls made one after another,
in which a call that was over before another arrived comes before it. Where the clock
stands still within each call, these are calls of `verify_envelope`. -/
theorem verify_linearizable (idle : server.Idle)
    (reached : Machine.run (step state) server labels = some final) :
    ∃ history, Linearization state server final history ∧
      (∀ front back middle, labels = front ++ back → Machine.run (step state) server front = some middle →
        ∀ i j call outcome, middle.calls[i]? = some call → call.outcome = some outcome →
          middle.calls.length ≤ j → ComesBefore history i j) ∧
      (Machine.Within (step state) Undelayed server labels →
        verifyAll state server.cache (history.map fun commit => (commit.call.checkedAt, commit.call.req)) =
          (history.map Commit.answer, final.cache)) := by
  have linearization := linearization_run idle reached
  refine ⟨_, linearization, ?_, ?_⟩
  · rintro front back middle rfl passing i j call outcome found finished absent
    exact comesBefore_run idle passing back found finished absent
  · intro undelayed
    have sequential := linearization.sequential
    rw [verifyAll_eq _ _ (history_undelayed undelayed reached), sequential.answers, sequential.reaches]

end Steps

/-! ### A call that is overtaken between its checks -/

namespace Transparent

open Crypto.Transparent

attribute [local instance] transparent transparent_lawful plainErrors

def idleServer : Server Unit RecordLog where
  clock := 1100
  cache := {}

/-- Two calls with one request, of which the second checks its nonce first. -/
def overtaking : List Label :=
  [.arrive original, .arrive original, .advance 0, .advance 1, .advance 1, .advance 0]

theorem overtaking_reached : ∃ final, Machine.run (step facilitator) idleServer overtaking = some final ∧
    final.calls.map Call.verdict = [some (.error (.nonceReplayed "3")), some (.ok ())] := by
  have screened : screen facilitator 1100 original = .ok (exactNockchainHandler, authorization) :=
    screen_ok_iff.mpr ⟨original_honest.dispatched rfl, original_window 1100 (by decide) (by decide)⟩
  have verified : (exactNockchainHandler : SchemeHandler Unit).verify original.payload original.requirements =
      .ok () := original_honest.verified
  obtain ⟨known, _⟩ | ⟨_, after, missed, records⟩ :=
    checkReplay_cases facilitator 1100 ({} : RecordLog) authorization
  · exact absurd known (empty_fresh _ _ _)
  · have consumed : Consumed facilitator 1100 after authorization := by
      rw [Consumed, remembered_iff]
      exact ⟨1100, by rw [records, if_pos rfl], Nat.le_add_right _ _⟩
    obtain ⟨_, hit⟩ | ⟨fresh, _⟩ := checkReplay_cases facilitator 1100 after authorization
    · refine ⟨{ clock := 1100, cache := after, calls := [
        ⟨original, .replayed authorization 1100 1100⟩,
        ⟨original, .recorded exactNockchainHandler authorization 1100 1100⟩] }, ?_, ?_⟩
      · simp [Machine.run, overtaking, idleServer, step, advanceCall, screened, missed, hit]
      · simp only [List.map_cons, List.map_nil, Call.verdict, verified]
        rfl
    · exact absurd consumed fresh

theorem verify_linearizable_overtaking : ∃ final history,
    Machine.run (step facilitator) idleServer overtaking = some final ∧
    Linearization facilitator idleServer final history := by
  obtain ⟨final, reached, _⟩ := overtaking_reached
  have idle : idleServer.Idle := rfl
  obtain ⟨history, linearization, _⟩ := verify_linearizable idle reached
  exact ⟨final, history, reached, linearization⟩

end Transparent

end X402Nockchain.Facilitator
