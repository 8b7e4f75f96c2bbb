import X402Nockchain.Facilitator.Honest
import X402Nockchain.Facilitator.VerifyCalls

/-! How long the replay cache has to remember. The time window is widened by the
skew at both ends, so a TTL that covers the window and one skew is short of one. -/

namespace X402Nockchain.Facilitator

open Foundation X402Types Crypto

variable {Chain Cache : Type}

/-- The rule of `with_replay_ttl`: the window plus the clock-skew tolerance. -/
def DocumentedTtl (state : AppState Chain) (auth : Authorization) : Prop :=
  (auth.validBefore.toNat - auth.validAfter.toNat) * 1000000000 + state.clockSkewTolerance.asNanos ≤
    state.replayTtl.asNanos

/-- The TTL reaches from the first clock reading at which the window is open to the
last one at which the nonce is checked, `lag` after the window closes. -/
def Covers (state : AppState Chain) (lag : Nat) (auth : Authorization) : Prop :=
  min (auth.validBefore.toNat + state.clockSkewTolerance.asSecs.toNat + lag) (UInt64.size - 1) ≤
    auth.validAfter.toNat - state.clockSkewTolerance.asSecs.toNat + state.replayTtl.asSecs.toNat

/-- The TTL covers every presented authorization, and no call waits longer than
`lag` between reading the clock and checking its nonce. -/
def Prompt (state : AppState Chain) (lag : Nat) (server : Server Chain Cache) : Label → Prop
  | .tick _ => True
  | .arrive req => ∀ auth, Shows state req auth → Covers state lag auth
  | .advance index => ∀ (call : Call Chain) handler auth readAt, server.calls[index]? = some call →
      call.phase = .screened handler auth readAt → server.clock.toNat ≤ readAt.toNat + lag

/-- No two accepted calls carry the same request. -/
def AcceptedOnce (server : Server Chain Cache) : Prop :=
  ∀ (i j : Nat) (a b : Call Chain) auth auth', i ≠ j → server.calls[i]? = some a →
    server.calls[j]? = some b → a.accepted auth → b.accepted auth' → a.request ≠ b.request

section Runs

variable [Vesl] [LawfulReplayCache Cache] {state : AppState Chain} {server next : Server Chain Cache}
  {lag index : Nat} {call : Call Chain} {record : NonceRecord}

/-- What prompt steps keep. -/
structure Timely (state : AppState Chain) (lag : Nat) (server : Server Chain Cache) : Prop where
  valid : Valid state server
  covered : ∀ req ∈ server.requests, ∀ auth, Shows state req auth → Covers state lag auth
  prompt : ∀ index record, server.recordAt index = some record →
    record.storedAt.toNat ≤ record.readAt.toNat + lag

theorem timely_step (allowed : Prompt state lag server label) (timely : Timely state lag server)
    (taken : step state server label = some next) : Timely state lag next where
  valid := valid_step timely.valid taken
  covered := by
    rw [requests_step taken]
    intro req member auth shows'
    rcases List.mem_append.mp member with old | new
    · exact timely.covered req old auth shows'
    · cases label with
      | arrive arrived =>
        obtain rfl := List.mem_singleton.mp new
        exact allowed auth shows'
      | tick now => cases new
      | advance index => cases new
  prompt := by
    intro other record found
    rcases recordAt_step taken with ⟨_, _, same⟩ |
      ⟨index, stored, _, time, ⟨rfl, call, handler, here, phase⟩, _, _, update⟩
    · rw [same] at found
      exact timely.prompt other record found
    · rw [update] at found
      by_cases same : other = index
      · rw [if_pos same] at found
        cases found
        rw [time]
        exact allowed call handler record.auth record.readAt here phase
      · rw [if_neg same] at found
        exact timely.prompt other record found

theorem timely_of_idle (idle : server.Idle) : Timely state lag server := by
  refine ⟨valid_of_idle idle, by simp [Server.requests, idle.calls], ?_⟩
  intro index record found
  simp [Server.recordAt, idle.calls] at found

/-- The two stored times of one authorization lie within its widened window. -/
theorem stored_in_window (timely : Timely state lag server) (found : server.calls[index]? = some call)
    (stored : call.record = some record) :
    record.auth.validAfter.toNat ≤
        record.storedAt.toNat + state.clockSkewTolerance.asSecs.toNat ∧
      record.storedAt.toNat ≤
        record.auth.validBefore.toNat + state.clockSkewTolerance.asSecs.toNat + lag ∧
      Covers state lag record.auth := by
  have member := List.mem_of_getElem? found
  obtain ⟨⟨handler, passed⟩, ordered⟩ := (timely.valid.passed call member).of_record stored
  obtain ⟨dispatched, window⟩ := screen_ok_iff.mp passed
  obtain ⟨opened, closed⟩ := checkTimeWindow_ok_iff.mp window
  have prompt := timely.prompt index record (by rw [Server.recordAt, found, Option.bind_some, stored])
  have covered := timely.covered call.request (List.mem_map_of_mem member) record.auth
    ⟨handler, dispatched⟩
  rw [UInt64.le_iff_toNat_le] at ordered
  exact ⟨by omega, by omega, covered⟩

theorem acceptedOnce_of_timely (timely : Timely state lag server) : AcceptedOnce server := by
  intro i j a b auth auth' distinct left right acceptedA acceptedB same
  obtain ⟨r, storedA, rfl, _⟩ := Call.record_of_accepted acceptedA
  obtain ⟨s, storedB, rfl, _⟩ := Call.record_of_accepted acceptedB
  have showsA := shows_of_record timely.valid left storedA
  have showsB := shows_of_record timely.valid right storedB
  rw [← same] at showsB
  have one : r.auth = s.auth := showsA.unique showsB
  obtain ⟨openedA, closedA, covered⟩ := stored_in_window timely left storedA
  obtain ⟨openedB, closedB, _⟩ := stored_in_window timely right storedB
  have apart := timely.valid.apart i j r s distinct
    (by rw [Server.recordAt, left, Option.bind_some, storedA])
    (by rw [Server.recordAt, right, Option.bind_some, storedB]) (by rw [one])
  rw [← one] at openedB closedB
  have reading := r.storedAt.toNat_lt_size
  have reading' := s.storedAt.toNat_lt_size
  unfold Covers at covered
  rcases apart with apart | apart <;> omega

/-- With a TTL that covers the window, both skews and the wait between the checks,
a request is accepted once in every interleaving and under every clock. -/
theorem accepted_once (idle : server.Idle)
    (within : Machine.Within (step state) (Prompt state lag) server labels)
    (reached : Machine.run (step state) server labels = some final) : AcceptedOnce final :=
  acceptedOnce_of_timely <|
    Machine.invariant (fun allowed timely taken => timely_step allowed timely taken) within
      (timely_of_idle idle) reached

/-- Without delays between the checks only the TTL matters. -/
theorem prompt_of_undelayed (undelayed : Machine.Within (step state) Undelayed server labels)
    (covered : ∀ req ∈ presented labels, ∀ auth, Shows state req auth → Covers state 0 auth) :
    Machine.Within (step state) (Prompt state 0) server labels := by
  apply undelayed.imp
  intro server label member allowed
  cases label with
  | tick now => trivial
  | arrive req =>
    exact covered req (List.mem_flatMap.mpr ⟨.arrive req, member, List.mem_singleton.mpr rfl⟩)
  | advance index =>
    intro call handler auth readAt found phase
    rw [allowed call handler auth readAt found phase]
    exact Nat.le_refl _

end Runs

/-! ### A minute early and a second late -/

namespace Transparent

open Crypto.Transparent

attribute [local instance] transparent transparent_lawful plainErrors

def dawn : Server Unit RecordLog := { clock := 940, cache := {} }

theorem dawn_idle : dawn.Idle := rfl

/-- The payment of `payer` at both ends of its widened window. -/
def atBothEnds : List (UInt64 × VerifyRequest) := [(940, original), (1301, original)]

theorem accepted_once_at_both_ends : ∃ labels final, presented labels = [original, original] ∧
    Machine.run (step facilitator) dawn labels = some final ∧ AcceptedOnce final := by
  obtain ⟨labels, final, reached, shown, _, _, undelayed⟩ := run_verifyAll facilitator dawn
    atBothEnds ⟨by decide, by decide, trivial⟩
  refine ⟨labels, final, shown, reached,
    accepted_once dawn_idle (prompt_of_undelayed undelayed ?_) reached⟩
  rw [shown]
  intro req member auth shows'
  have same : req = original := by simpa [atBothEnds] using member
  subst same
  rw [shows'.unique ⟨_, original_honest.dispatched rfl⟩]
  change min (1300 + 60 + 0) (UInt64.size - 1) ≤ 1000 - 60 + 900
  decide

/-- A facilitator whose TTL is the window of `authorization` plus one skew. -/
abbrev documented : AppState Unit := facilitator.withReplayTtl (.fromSecs 360)

theorem early_accepted : (verifyEnvelope documented 940 dawn.cache original).1 = .ok () :=
  (original_honest.accepted_iff rfl).mpr
    ⟨in_window rfl rfl rfl 940 (by decide) (by decide), empty_fresh _ _ _⟩

/-- The nonce is forgotten a second before the window closes. -/
theorem late_accepted : (verifyEnvelope documented 1301
    (verifyEnvelope documented 940 dawn.cache original).2 original).1 = .ok () := by
  have records : Records authorization 940 dawn.cache
      (verifyEnvelope documented 940 dawn.cache original).2 := original_honest.records rfl
    (in_window rfl rfl rfl 940 (by decide) (by decide)) (empty_fresh _ _ _)
  refine (original_honest.accepted_iff rfl).mpr
    ⟨in_window rfl rfl rfl 1301 (by decide) (by decide), ?_⟩
  have same : replayKey (payment authorization).authorization = replayKey authorization := rfl
  rw [Consumed, remembered_iff, records, if_pos same]
  rintro ⟨time, found, recent⟩
  cases found
  exact absurd recent (by decide)

theorem documented_ttl_accepts_twice : ¬ ∀ labels final,
    (∀ req ∈ presented labels, ∀ auth, Shows documented req auth → DocumentedTtl documented auth) →
    Machine.run (step documented) dawn labels = some final → AcceptedOnce final := by
  intro claim
  obtain ⟨labels, final, reached, shown, outcomes, _, _⟩ := run_verifyAll documented dawn
    atBothEnds ⟨by decide, by decide, trivial⟩
  have once := claim labels final (by
    rw [shown]
    intro req member auth shows'
    have same : req = original := by simpa [atBothEnds] using member
    subst same
    rw [shows'.unique ⟨_, original_honest.dispatched rfl⟩]
    change (1300 - 1000) * 1000000000 + 60 * 1000000000 ≤ 360 * 1000000000
    decide) reached
  have answers : final.calls.map Call.outcome = [some (.ok ()), some (.ok ())] := by
    rw [outcomes, dawn_idle.calls]
    simp only [atBothEnds, verifyAll, early_accepted, late_accepted, List.map_cons, List.map_nil,
      List.nil_append]
  have valid : ∀ outcome ∈ final.calls.map Call.outcome, outcome = some (.ok ()) := by
    rw [answers]
    simp
  obtain ⟨a, auth, hereA, requestA, acceptedA, _⟩ :=
    accepted_calls 0 dawn_idle reached valid (by rw [shown]; rfl)
  obtain ⟨b, auth', hereB, requestB, acceptedB, _⟩ :=
    accepted_calls 1 dawn_idle reached valid (by rw [shown]; rfl)
  exact once 0 1 a b auth auth' (by decide) hereA hereB acceptedA acceptedB
    (requestA.trans requestB.symm)

end Transparent

end X402Nockchain.Facilitator
