import X402Nockchain.Client.Discovery
import X402Nockchain.Facilitator.HandlerRuns

/-! A client that was told of a success, and lists afterwards, finds its resource, however
the handlers of the facilitator overtake each other. -/

namespace X402Nockchain.Client

open Foundation Foundation.Serde X402Types Crypto Facilitator
open Storage (CatalogStore CatalogHistory)

section Listings

variable {Chain Cache Store : Type} [ErrorText] [JsonSchema]

/-- What a call on the catalog upserts. -/
def rowsOf : Access → List DiscoveryResource
  | .process lastUpdated req => rowOf lastUpdated req
  | .list _ => []

/-- What the calls on the catalog have upserted. -/
def upserts (accesses : List (Commit Nat Access Accessed)) : List DiscoveryResource :=
  (accesses.map Commit.call).flatMap rowsOf

/-- What an access brings can be stored and listed. -/
def Brings (Store : Type) [CatalogHistory Store] : Access → Prop
  | .process lastUpdated req => Listable Store lastUpdated req
  | .list _ => True

variable [CatalogHistory Store]

theorem access_keeps {catalog : Store} {history : List DiscoveryResource} (acc : Access) (brings : Brings Store acc)
    (keeps : CatalogHistory.Keeps catalog history) :
    CatalogHistory.Keeps (access catalog acc).2 (history ++ rowsOf acc) := by
  cases acc with
  | process lastUpdated req => exact process_keeps brings keeps
  | list params =>
    rw [rowsOf, List.append_nil]
    exact keeps

theorem accesses_keep {catalog : Store} {old : List DiscoveryResource} (keeps : CatalogHistory.Keeps catalog old)
    {accesses : List (Commit Nat Access Accessed)} (brings : ∀ commit ∈ accesses, Brings Store commit.call) :
    CatalogHistory.Keeps (access.after catalog (accesses.map Commit.call)) (old ++ upserts accesses) := by
  have each : ∀ acc ∈ accesses.map Commit.call, Brings Store acc := by
    intro acc member
    obtain ⟨commit, inside, rfl⟩ := List.mem_map.mp member
    exact brings commit inside
  rw [upserts, ← Component.written_eq access rowsOf catalog]
  exact Component.after_written CatalogHistory.Keeps access_keeps keeps each

/-- A listing by a handler is that of the upserts before it. -/
theorem listed_history {start final : Store} {old : List DiscoveryResource} (keeps : CatalogHistory.Keeps start old)
    {front back : List (Commit Nat Access Accessed)} {commit : Commit Nat Access Accessed}
    (explains : access.Explains start (front ++ commit :: back) final)
    (brings : ∀ commit ∈ front, Brings Store commit.call) {params : ListDiscoveryResourcesParams}
    (asks : commit.call = .list (asListParams params)) :
    commit.answer = .listed (.ok (directory (old ++ upserts front) params)) := by
  rw [explains.answer, asks, access, listResources_history (accesses_keep keeps brings)]

omit [ErrorText] [JsonSchema] [CatalogHistory Store] in
/-- What was upserted is found under its key. -/
theorem key_found {history : List DiscoveryResource} (member : entry ∈ history) :
    ∃ row ∈ Storage.catalog history, row.key = entry.key := by
  have named : entry.key ∈ (Storage.catalog history).map DiscoveryResource.key := by
    rw [Storage.catalog, KeyedStore.rows_keys]
    exact KeyedStore.mem_firstKeys.mpr (List.mem_map_of_mem member)
  exact List.mem_map.mp named

section Runs

variable [Vesl] [LawfulReplayCache Cache] [JsonText] [Base64] [HttpText] {state : AppState Chain}
  {start middle final : Facility Chain Cache Store} {old : List DiscoveryResource} {writer : Task} {i j : Nat}
  {response : BazaarExtensionResponse} {params : ListDiscoveryResourcesParams}

/-- Whatever handlers are at work, one that starts to list after another has cataloged its
request answers with the catalog of a history that has the request's row. All the rows in
that history are those of requests that passed their checks, and the client reads them. -/
theorem reads_own_writes (idle : start.Idle) (keeps : CatalogHistory.Keeps start.catalog old)
    (explicit : ∀ entry ∈ old, entry.Explicit) (passing : Machine.run (work state) start front = some middle)
    (reached : Machine.run (work state) middle back = some final)
    (brings : ∀ task ∈ final.tasks, ∀ acc result, task.accessed = some (acc, result) → Brings Store acc)
    (wrote : middle.tasks[i]? = some writer)
    (told : writer.accessed = some (.process lastUpdated req, .processed (some response)))
    (success : response.status = .success) (later : middle.tasks.length ≤ j)
    (asked : readListParams (listQuery params) = some query)
    (listed : final.tasks[j]? = some (.list query (some result))) :
    ∃ ext rows, readExtension req = some (.ok ext) ∧ catalogEntry req lastUpdated ext ∈ rows ∧
      (∀ row ∈ rows, ∃ task ∈ final.tasks, ∃ updated other result, Follows state final.server task ∧
        task.accessed = some (.process updated other, result) ∧ row ∈ rowOf updated other) ∧
      result = .ok (directory (old ++ rows) (rereadParams params)) ∧
      (∃ row ∈ Storage.catalog (old ++ rows), row.key = ownKey req ext) ∧
      (Delivered (directory (old ++ rows) (rereadParams params)) → ∀ get, get (listQuery params) = listReply result →
        BazaarClient.listResources ⟨get⟩ params = .ok (directory (old ++ rows) (rereadParams params))) := by
  have whole : Machine.run (work state) start (front ++ back) = some final := by
    rw [Machine.run_append, passing, Option.bind_some, reached]
  let histories := historiesOf state start (front ++ back)
  have serializes : Serializes state start final histories := serializes_run idle whole
  have precedes : Machine.Precedes histories.accesses ⟨i, _, _⟩ j :=
    (precedes_run idle passing back wrote later).1 _ _ told
  have read : ⟨j, .list query, .listed result⟩ ∈ histories.accesses :=
    serializes.accessed.present (by rw [Resource.hadBy, listed]; rfl)
  obtain ⟨before, after, split⟩ := List.append_of_mem read
  rw [split] at precedes
  have written := Machine.Precedes.before precedes
  -- the handlers behind the accesses
  have owners : ∀ commit ∈ histories.accesses, ∃ task ∈ final.tasks,
      task.accessed = some (commit.call, commit.answer) := by
    intro commit member
    obtain ⟨task, here, had⟩ := Option.bind_eq_some_iff.mp (serializes.accessed.committed commit member)
    exact ⟨task, List.mem_of_getElem? here, had⟩
  have earlier : ∀ commit ∈ before, commit ∈ histories.accesses := fun commit member =>
    split ▸ List.mem_append_left _ member
  have bring : ∀ commit ∈ before, Brings Store commit.call := by
    intro commit member
    obtain ⟨task, inside, had⟩ := owners commit (earlier commit member)
    exact brings task inside _ _ had
  have origins : ∀ row ∈ upserts before, ∃ task ∈ final.tasks, ∃ updated other result,
      task.accessed = some (.process updated other, result) ∧ row ∈ rowOf updated other := by
    intro row member
    obtain ⟨acc, called, own⟩ := List.mem_flatMap.mp member
    obtain ⟨commit, inside, rfl⟩ := List.mem_map.mp called
    obtain ⟨task, present, had⟩ := owners commit (earlier commit inside)
    cases call : commit.call with
    | process updated other =>
      rw [call] at had own
      exact ⟨task, present, updated, other, _, had, own⟩
    | list params =>
      rw [call] at own
      cases own
  -- the extension of the first handler was valid when it was cataloged
  obtain ⟨front', back', split'⟩ := List.append_of_mem written
  have processed : Accessed.processed (some response) =
      .processed (process (access.after start.catalog (front'.map Commit.call)) lastUpdated req).1 := by
    have explains := serializes.cataloged
    rw [split, split', List.append_assoc] at explains
    exact explains.answer
  obtain ⟨_, ext, next, valid, _⟩ | ⟨rejected, _⟩ := process_status (Accessed.processed.inj processed).symm
  · have asks : query = asListParams (rereadParams params) :=
      (Option.some.inj ((readListParams_listQuery params).symm.trans asked)).symm
    have row : catalogEntry req lastUpdated ext ∈ upserts before :=
      List.mem_flatMap.mpr ⟨_, List.mem_map_of_mem written, mem_rowOf.mpr ⟨ext, valid, rfl⟩⟩
    have answer : result = .ok (directory (old ++ upserts before) (rereadParams params)) := by
      have explains := serializes.cataloged
      rw [split] at explains
      exact Accessed.listed.inj (listed_history keeps explains bring (congrArg Access.list asks))
    refine ⟨ext, upserts before, valid, row, fun row member => ?_, answer, ?_, fun delivered get responds => ?_⟩
    · obtain ⟨task, inside, updated, other, result, had, own⟩ := origins row member
      exact ⟨task, inside, updated, other, result, serializes.inStep.follows task inside, had, own⟩
    · exact key_found (List.mem_append_right _ row)
    · rw [answer] at responds
      refine client_reads (fun row member => ?_) delivered get responds
      obtain former | new := List.mem_append.mp member
      · exact explicit row former
      · obtain ⟨task, inside, updated, other, result, had, own⟩ := origins row new
        exact explicit_rowOf (brings task inside _ _ had) own
  · cases success.symm.trans rejected

end Runs

end Listings

/-! ### A listing while a verification is under way -/

namespace Transparent

open Crypto.Transparent Wallet Facilitator.Transparent

attribute [local instance] transparent transparent_lawful plainErrors plainSchemas spelledBase64 plainHttp carriedText

def gets : ListParams := asListParams (rereadParams plainGets)

/-- Once the overtaking `/settle` has written its row, another client lists. -/
theorem reads_own_writes_racing : ∃ final rows, Machine.run (work facilitator) idleFacility
      (racing ++ [.list gets, .advance 2 "later"]) = some final ∧
    final.tasks[2]? = some (.list gets (some (.ok (directory rows (rereadParams plainGets))))) ∧
    weatherEntry ∈ rows ∧ ∃ row ∈ Storage.catalog rows, row.key = ownKey listing weather := by
  obtain ⟨after, _, passing⟩ := racing_reached
  let result := Facilitator.listResources (raced after).catalog gets
  let started : Facility Unit RecordLog Storage.InMemoryCatalogStore :=
    { raced after with tasks := (raced after).tasks ++ [.list gets none] }
  let final : Facility Unit RecordLog Storage.InMemoryCatalogStore :=
    { raced after with tasks := (raced after).tasks ++ [.list gets (some result)] }
  have starts : work facilitator (raced after) (.list gets) = some started := rfl
  have lists : work facilitator started (.advance 2 "later") = some final := by
    change work facilitator started (.advance (raced after).tasks.length "later") = some final
    exact work_last rfl rfl
  have reached : Machine.run (work facilitator) (raced after) [.list gets, .advance 2 "later"] = some final := by
    rw [Machine.run_step starts, Machine.run_step lists]
    rfl
  have idle : idleFacility.Idle := ⟨rfl, rfl⟩
  have empty : CatalogHistory.Keeps idleFacility.catalog [] := rfl
  have listable : Listable Storage.InMemoryCatalogStore "now" listing :=
    listable_paidOnce trivial _ (List.mem_singleton_self _)
  have brings : ∀ task ∈ final.tasks, ∀ acc answer, task.accessed = some (acc, answer) →
      Brings Storage.InMemoryCatalogStore acc := by
    intro task member acc answer had
    simp only [final, raced, List.cons_append, List.nil_append, List.mem_cons, List.not_mem_nil, or_false] at member
    obtain rfl | rfl | rfl := member
    · cases had
    · cases had
      exact listable
    · cases had
      trivial
  have wrote : (raced after).tasks[1]? = some settledTask := rfl
  have listed : final.tasks[2]? = some (.list gets (some result)) := rfl
  obtain ⟨ext, rows, read, own, _, answer, found, _⟩ := reads_own_writes idle empty (List.forall_mem_nil _) passing
    reached brings wrote rfl rfl (Nat.le_refl 2) (readListParams_listQuery plainGets) listed
  obtain rfl : weather = ext := by simpa using listing_read.symm.trans read
  refine ⟨final, rows, ?_, ?_, own, found⟩
  · rw [Machine.run_append, passing, Option.bind_some, reached]
  · rw [listed, answer]
    rfl

end Transparent

end X402Nockchain.Client
