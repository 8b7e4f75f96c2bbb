import X402Nockchain.Foundation.Clock

/-! A replay cache: one atomic operation that tests a key and records it. -/

namespace X402Nockchain.Foundation

/-- `seen(key, ttl)` at the clock reading `now`. -/
class ReplayCache (Cache : Type) where
  seen : Cache → (now : UInt64) → (key : List UInt8) → (ttl : Duration) → Bool × Cache

/-- A key recorded at most `ttl` ago. -/
def Remembered (recorded : Option UInt64) (now : UInt64) (ttl : Duration) : Prop :=
  ∃ time, recorded = some time ∧ (now.toNat - time.toNat) * 1000000000 ≤ ttl.asNanos

/-- A cache whose keys have a recording time: `seen` answers whether the key is
remembered, and records it if it is not. -/
class LawfulReplayCache (Cache : Type) extends ReplayCache Cache where
  new : Cache
  recordedAt : Cache → List UInt8 → Option UInt64
  recordedAt_new : ∀ key, recordedAt new key = none
  seen_hit : ∀ {cache now key ttl}, Remembered (recordedAt cache key) now ttl →
    seen cache now key ttl = (true, cache)
  seen_miss : ∀ {cache now key ttl}, ¬ Remembered (recordedAt cache key) now ttl →
    (seen cache now key ttl).1 = false ∧ ∀ other, recordedAt (seen cache now key ttl).2 other =
      if other = key then some now else recordedAt cache other

theorem remembered_iff : Remembered recorded now ttl ↔
    ∃ time, recorded = some time ∧ now.toNat ≤ time.toNat + ttl.asSecs.toNat := by
  have elapsed : ∀ time : UInt64, (now.toNat - time.toNat) * 1000000000 ≤ ttl.asNanos ↔
      now.toNat ≤ time.toNat + ttl.asSecs.toNat := by
    intro time
    rw [Duration.le_asNanos_iff]
    omega
  simp only [Remembered, elapsed]

namespace LawfulReplayCache

variable {Cache : Type} [LawfulReplayCache Cache] {cache : Cache}

theorem not_remembered_new (key : List UInt8) (now : UInt64) (ttl : Duration) :
    ¬ Remembered (recordedAt (new : Cache) key) now ttl := by
  rintro ⟨time, found, _⟩
  rw [recordedAt_new] at found
  cases found

theorem seen_cases (cache : Cache) (now : UInt64) (key : List UInt8) (ttl : Duration) :
    (Remembered (recordedAt cache key) now ttl ∧ ReplayCache.seen cache now key ttl = (true, cache)) ∨
    (¬ Remembered (recordedAt cache key) now ttl ∧ (ReplayCache.seen cache now key ttl).1 = false ∧
      ∀ other, recordedAt (ReplayCache.seen cache now key ttl).2 other =
        if other = key then some now else recordedAt cache other) := by
  by_cases known : Remembered (recordedAt cache key) now ttl
  · exact .inl ⟨known, seen_hit known⟩
  · exact .inr ⟨known, seen_miss known⟩

/-- An operation changes the record of its key at most. -/
theorem seen_frame (different : other ≠ key) :
    recordedAt (ReplayCache.seen cache now key ttl).2 other = recordedAt cache other := by
  rcases seen_cases cache now key ttl with ⟨_, hit⟩ | ⟨_, _, recorded⟩
  · rw [hit]
  · rw [recorded, if_neg different]

/-- An operation reads the record of its key, and no more. -/
theorem seen_congr {cache' : Cache} (same : recordedAt cache key = recordedAt cache' key) :
    (ReplayCache.seen cache now key ttl).1 = (ReplayCache.seen cache' now key ttl).1 ∧
      recordedAt (ReplayCache.seen cache now key ttl).2 key =
        recordedAt (ReplayCache.seen cache' now key ttl).2 key := by
  rcases seen_cases cache now key ttl with ⟨known, hit⟩ | ⟨fresh, missed, recorded⟩ <;>
    rcases seen_cases cache' now key ttl with ⟨known', hit'⟩ | ⟨fresh', missed', recorded'⟩
  · rw [hit, hit']
    exact ⟨rfl, same⟩
  · rw [same] at known
    exact absurd known fresh'
  · rw [same] at fresh
    exact absurd known' fresh
  · rw [missed, missed', recorded, recorded', if_pos rfl, if_pos rfl]
    exact ⟨rfl, rfl⟩

end LawfulReplayCache

/-- The cache as an association list, newest record first. -/
structure RecordLog where
  records : List (List UInt8 × UInt64) := []

namespace RecordLog

def recordedAt (log : RecordLog) (key : List UInt8) : Option UInt64 := log.records.lookup key

def seen (log : RecordLog) (now : UInt64) (key : List UInt8) (ttl : Duration) : Bool × RecordLog :=
  match log.recordedAt key with
  | some time =>
    if (now.toNat - time.toNat) * 1000000000 ≤ ttl.asNanos then (true, log)
    else (false, ⟨(key, now) :: log.records⟩)
  | none => (false, ⟨(key, now) :: log.records⟩)

theorem recordedAt_cons (log : RecordLog) (key other : List UInt8) (now : UInt64) :
    recordedAt ⟨(key, now) :: log.records⟩ other =
      if other = key then some now else log.recordedAt other := by
  by_cases same : other = key
  · simp [recordedAt, same]
  · have different : (other == key) = false := by simpa using same
    simp [recordedAt, List.lookup_cons, different, same]

instance : LawfulReplayCache RecordLog where
  seen := seen
  new := {}
  recordedAt := recordedAt
  recordedAt_new _ := rfl
  seen_hit := by
    rintro log now key ttl ⟨time, found, recent⟩
    simp only [seen, found, if_pos recent]
  seen_miss := by
    intro log now key ttl unknown
    have missed : seen log now key ttl = (false, ⟨(key, now) :: log.records⟩) := by
      cases found : log.recordedAt key with
      | none => simp only [seen, found]
      | some time =>
        have expired : ¬ (now.toNat - time.toNat) * 1000000000 ≤ ttl.asNanos :=
          fun recent => unknown ⟨time, found, recent⟩
        simp only [seen, found, if_neg expired]
    rw [missed]
    exact ⟨rfl, fun other => recordedAt_cons log key other now⟩

end RecordLog

end X402Nockchain.Foundation
