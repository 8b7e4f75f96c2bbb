import X402Nockchain.Facilitator.Discovery
import X402Nockchain.Foundation.Machine
import X402Nockchain.Storage.Agreement
import X402Nockchain.Storage.Pages

/-! A client that lists the catalog page by page, while other clients write to it. -/

namespace X402Nockchain.Facilitator

open Foundation Foundation.Serde X402Types Storage

inductive WalkEvent where
  /-- Another client's upsert. -/
  | upsert (entry : DiscoveryResource)
  /-- The next page. -/
  | list

structure PageWalk (Store : Type) where
  catalog : Store
  received : List DiscoveryResource := []
  offset : Nat := 0
  finished : Bool := false

/-- Pages are asked for from every offset that is a `u32`, until one is short. -/
def walkStep [CatalogStore Store] (filter : ListParams) (limit : UInt32) :
    Machine (PageWalk Store) WalkEvent
  | walk, .upsert entry => some { walk with catalog := (Storage.serve walk.catalog (.upsert entry)).2 }
  | walk, .list =>
    if walk.finished = true ∨ 2 ^ 32 ≤ walk.offset then none
    else
      let query := { filter with limit := some limit, offset := some (.ofNat walk.offset) }
      match listResources walk.catalog query with
      | .error _ => none
      | .ok response => some { walk with
          received := walk.received ++ response.items
          offset := walk.offset + limit.toNat
          finished := response.items.length < limit.toNat }

section Steps

variable [CatalogStore Store] {filter : ListParams} {limit : UInt32} {walk next : PageWalk Store}

/-- The page that a walk asks for next. -/
def nextPage (filter : ListParams) (limit : UInt32) (offset : Nat) : ListDiscoveryResourcesParams where
  kind := filter.kind
  limit := some limit
  offset := some (.ofNat offset)
  network := filter.network
  scheme := filter.scheme

theorem walkStep_list (taken : walkStep filter limit walk .list = some next) :
    walk.finished = false ∧ walk.offset < 2 ^ 32 ∧ ∃ answer,
      CatalogStore.list walk.catalog (nextPage filter limit walk.offset) = .ok answer ∧
      next = { walk with
        received := walk.received ++ answer.1
        offset := walk.offset + limit.toNat
        finished := answer.1.length < limit.toNat } := by
  simp only [walkStep] at taken
  split at taken
  · cases taken
  · rename_i going
    rw [not_or, Nat.not_le, Bool.not_eq_true] at going
    split at taken
    · cases taken
    · rename_i response listed
      simp only [listResources, Option.getD_some, Outcome.bind_ok, Outcome.pure_ok, Outcome.mapError_ok] at listed
      obtain ⟨⟨items, total⟩, answered, rfl⟩ := listed
      exact ⟨going.1, going.2, (items, total), answered, (Option.some.inj taken).symm⟩

end Steps

/-! ### A catalog that answers from its history -/

section Answered

variable [CatalogHistory Store] {filter : ListParams} {limit : UInt32} {walk : PageWalk Store}

/-- What a query asks of a row, whatever page it asks for. -/
def Displays (filter : ListParams) : DiscoveryResource → Prop :=
  Matches { kind := filter.kind, network := filter.network, scheme := filter.scheme }

instance (filter : ListParams) : DecidablePred (Displays filter) := fun row =>
  inferInstanceAs (Decidable (Matches _ row))

/-- The rows that a filter shows, over all pages. -/
def shown (filter : ListParams) (history : List DiscoveryResource) : List DiscoveryResource :=
  (catalog history).filter (Displays filter)

theorem reference_nextPage (filter : ListParams) (limit : UInt32) (small : offset < 2 ^ 32)
    (history : List DiscoveryResource) : (Reference.list history (nextPage filter limit offset)).1 =
      page (shown filter history) offset limit.toNat := by
  have kept : (catalog history).filter (Matches (nextPage filter limit offset)) = shown filter history := by
    apply List.filter_congr
    intro row _
    rw [decide_eq_decide, Displays, matches_iff, matches_iff]
    rfl
  simp only [Reference.list, kept, page]
  simp only [nextPage, Option.getD_some, UInt32.toNat_ofNat_of_lt' small]

/-- The next page is answered. -/
theorem walkStep_answered (filter : ListParams) (limit : UInt32)
    (keeps : CatalogHistory.Keeps walk.catalog history) (going : walk.finished = false)
    (small : walk.offset < 2 ^ 32) : walkStep filter limit walk .list = some { walk with
      received := walk.received ++ page (shown filter history) walk.offset limit.toNat
      offset := walk.offset + limit.toNat
      finished := (page (shown filter history) walk.offset limit.toNat).length < limit.toNat } := by
  have answered := CatalogHistory.list_keeps (nextPage filter limit walk.offset) keeps
  have listed : listResources walk.catalog
      { filter with limit := some limit, offset := some (.ofNat walk.offset) } = .ok {
        x402Version := discoveryVersion
        items := (Reference.list history (nextPage filter limit walk.offset)).1
        pagination := {
          limit
          offset := .ofNat walk.offset
          total := (Reference.list history (nextPage filter limit walk.offset)).2 } } := by
    simp only [nextPage] at answered
    simp only [listResources, Option.getD_some, answered, Outcome.mapError_of_ok, Outcome.ok_bind]
    rfl
  simp only [walkStep, going, Bool.false_eq_true, false_or, Nat.not_le.mpr small, if_false, listed,
    reference_nextPage filter limit small]

/-- A walk through a catalog at rest has come this far through what its filter shows. -/
structure Reading (filter : ListParams) (history : List DiscoveryResource) (walk : PageWalk Store) : Prop where
  keeps : CatalogHistory.Keeps walk.catalog history
  walked : Walked (shown filter history) (shown filter history) walk.received walk.offset walk.finished

theorem Reading.step {walk next : PageWalk Store} (reading : Reading filter history walk)
    (taken : walkStep filter limit walk .list = some next) : Reading filter history next := by
  obtain ⟨keeps, walked⟩ := reading
  obtain ⟨going, small, _⟩ := walkStep_list taken
  rw [walkStep_answered filter limit keeps going small] at taken
  obtain rfl := Option.some.inj taken
  rw [going] at walked
  exact ⟨keeps, walked.turn limit.toNat⟩

/-- Once a catalog is at rest, a walk that ended received all that its filter shows. -/
theorem walk_at_rest {catalog : Store} (keeps : CatalogHistory.Keeps catalog history) {final : PageWalk Store}
    (reached : Machine.run (walkStep filter limit) { catalog } (List.replicate pages .list) = some final)
    (finished : final.finished = true) : final.received = shown filter history := by
  have listings : ∀ event ∈ List.replicate pages WalkEvent.list, event = .list := fun event member =>
    List.eq_of_mem_replicate member
  have reading : Reading filter history final := by
    refine Machine.invariant ?_ (Machine.within_of_labels listings _) ⟨keeps, Walked.begin _⟩ reached
    rintro walk event next rfl reading taken
    exact reading.step taken
  have walked := reading.walked
  rw [finished] at walked
  exact walked.all

/-- A walk that is not at the end takes another page, and is at the end after finitely many. -/
theorem walk_ends (positive : 0 < limit.toNat) (few : (shown filter history).length < 2 ^ 32)
    {walk : PageWalk Store} (reading : Reading filter history walk) (going : walk.finished = false) :
    ∃ pages final, Machine.run (walkStep filter limit) walk (List.replicate pages .list) = some final ∧
      final.finished = true := by
  induction remains : (shown filter history).length - walk.offset using Nat.strong_induction_on
    generalizing walk with
  | _ count ih =>
    have read := reading.walked.inOrder.length_le
    rw [reading.walked.going going] at read
    obtain ⟨next, taken, moved⟩ : ∃ next, walkStep filter limit walk .list = some next ∧
        next.offset = walk.offset + limit.toNat :=
      ⟨_, walkStep_answered filter limit reading.keeps going (Nat.lt_of_le_of_lt read few), rfl⟩
    have later := reading.step taken
    cases ended : next.finished with
    | true =>
      refine ⟨1, next, ?_, ended⟩
      rw [List.replicate_one, Machine.run, taken]
      rfl
    | false =>
      have read' := later.walked.inOrder.length_le
      rw [later.walked.going ended, moved] at read'
      obtain ⟨pages, final, reached, finished⟩ :=
        ih ((shown filter history).length - next.offset) (by omega) later ended rfl
      refine ⟨pages + 1, final, ?_, finished⟩
      rw [List.replicate_succ, Machine.run, taken, Option.bind_some, reached]

end Answered

/-! ### While others write -/

section Growing

variable [CatalogPages Store] {kind : Option String} {limit : UInt32}

/-- The walk has come this far through the keys of its kind. -/
structure Walking (kind : Option String) (start : List (String × String)) (walk : PageWalk Store) : Prop where
  ordered : CatalogPages.Ordered walk.catalog
  walked : Walked (keysOfKind kind start) (keysOfKind kind (CatalogPages.keys walk.catalog))
    (walk.received.map DiscoveryResource.key) walk.offset walk.finished

/-- An upsert keeps the order of the keys before it, and a page is read off them. -/
theorem Walking.step {walk next : PageWalk Store} (walking : Walking kind start walk)
    (taken : walkStep { kind } limit walk event = some next) : Walking kind start next := by
  obtain ⟨ordered, walked⟩ := walking
  cases event with
  | upsert entry =>
    obtain rfl := Option.some.inj taken
    simp only [Storage.serve]
    split
    · rename_i catalog stored
      exact ⟨CatalogPages.ordered_upsert entry ordered stored,
        walked.grow ((CatalogPages.keys_upsert entry stored).filter _)⟩
    · exact ⟨ordered, walked⟩
  | list =>
    obtain ⟨going, small, answer, listed, rfl⟩ := walkStep_list taken
    have keys := CatalogPages.keys_list kind limit (.ofNat walk.offset) ordered listed
    rw [UInt32.toNat_ofNat_of_lt' small] at keys
    have length : answer.1.length =
        (page (keysOfKind kind (CatalogPages.keys walk.catalog)) walk.offset limit.toNat).length := by
      rw [← keys, List.length_map]
    refine ⟨ordered, ?_⟩
    rw [going] at walked
    rw [List.map_append, keys, length]
    exact walked.turn limit.toNat

theorem Walking.run {start : List (String × String)} {walk final : PageWalk Store}
    (walking : Walking kind start walk)
    (reached : Machine.run (walkStep { kind } limit) walk events = some final) : Walking kind start final := by
  have within : Machine.Within (walkStep { kind } limit) (fun _ _ => True) walk events :=
    Machine.within_of_labels (fun _ _ => trivial) walk
  exact Machine.invariant (fun _ walking taken => walking.step taken) within walking reached

/-- Every key that was present is received once, and no key is received twice. -/
structure Complete (kind : Option String) (present : List (String × String))
    (received : List DiscoveryResource) : Prop where
  found : ∀ key ∈ present, (∀ name ∈ kind, key.2 = name) →
    (received.map DiscoveryResource.key).count key = 1
  once : ∀ key, (received.map DiscoveryResource.key).count key ≤ 1

/-- A walk that ended is complete, whatever was written in between. -/
theorem complete_of_ordered {catalog : Store} (ordered : CatalogPages.Ordered catalog) {final : PageWalk Store}
    (reached : Machine.run (walkStep { kind } limit) { catalog } events = some final)
    (finished : final.finished = true) : Complete kind (CatalogPages.keys catalog) final.received := by
  have begun : Walking kind (CatalogPages.keys catalog) ({ catalog } : PageWalk Store) :=
    ⟨ordered, Walked.begin _⟩
  have walked := (begun.run reached).walked
  rw [finished] at walked
  have unique : (keysOfKind kind (CatalogPages.keys final.catalog)).Nodup :=
    (CatalogPages.unique final.catalog).filter _
  obtain ⟨found, once⟩ := walked.count unique
  refine ⟨fun key present shown => ?_, once⟩
  exact found key (List.mem_filter.mpr ⟨present, decide_eq_true shown⟩)

end Growing

/-- In either store, a walk that ended received every key that was there when it
began, and no key twice, whatever other clients wrote between its pages. -/
theorem page_walk_complete [JsonText] (earlier : List CatalogCall) (kind : Option String) (limit : UInt32)
    (events : List WalkEvent) :
    (∀ final, Machine.run (walkStep { kind } limit)
        { catalog := Storage.serve.after InMemoryCatalogStore.new earlier } events = some final →
      final.finished = true →
        Complete kind (CatalogPages.keys (Storage.serve.after InMemoryCatalogStore.new earlier)) final.received) ∧
    ∀ final, Machine.run (walkStep { kind } limit)
        { catalog := Storage.serve.after SqliteCatalogStore.new earlier } events = some final →
      final.finished = true →
        Complete kind (CatalogPages.keys (Storage.serve.after SqliteCatalogStore.new earlier)) final.received := by
  constructor
  · intro final reached finished
    exact complete_of_ordered trivial reached finished
  · intro final reached finished
    exact complete_of_ordered (ordered_after List.Pairwise.nil earlier) reached finished

namespace Sample

open Storage.Sample

attribute [local instance] text

/-- `listing` as a tool. -/
def second : DiscoveryResource := { listing with kind := "mcp" }

theorem listing_givenBack : GivenBack listing := givenBack listing (by simp [calls])

theorem second_givenBack : GivenBack second := givenBack second (by simp [calls, second])

/-- Pages of one, with a row that is written after the first. -/
theorem two_pages [CatalogHistory Store] (catalog : Store) (keeps : CatalogHistory.Keeps catalog [listing])
    (given : CatalogHistory.GivesBack Store second) : ∃ final,
    Machine.run (walkStep {} 1) ({ catalog } : PageWalk Store) [.list, .upsert second, .list, .list] =
        some final ∧
      final.finished = true ∧ final.received = [listing, second] := by
  obtain ⟨next, stored, keeps'⟩ := CatalogHistory.upsert_keeps given keeps
  have first : walkStep {} 1 ({ catalog } : PageWalk Store) .list =
      some { catalog, received := [listing], offset := 1 } :=
    @walkStep_answered Store _ { catalog } [listing] {} 1 keeps rfl (by decide : 0 < 2 ^ 32)
  have written : walkStep {} 1 ({ catalog, received := [listing], offset := 1 } : PageWalk Store)
      (.upsert second) = some { catalog := next, received := [listing], offset := 1 } := by
    simp only [walkStep, Storage.serve, stored]
  have then' : walkStep {} 1 ({ catalog := next, received := [listing], offset := 1 } : PageWalk Store) .list =
      some { catalog := next, received := [listing, second], offset := 2 } :=
    @walkStep_answered Store _ { catalog := next, received := [listing], offset := 1 } [listing, second] {} 1
      keeps' rfl (by decide : 1 < 2 ^ 32)
  have last : walkStep {} 1 ({ catalog := next, received := [listing, second], offset := 2 } : PageWalk Store)
      .list = some { catalog := next, received := [listing, second], offset := 3, finished := true } :=
    @walkStep_answered Store _ { catalog := next, received := [listing, second], offset := 2 } [listing, second]
      {} 1 keeps' rfl (by decide : 2 < 2 ^ 32)
  refine ⟨{ catalog := next, received := [listing, second], offset := 3, finished := true }, ?_, rfl, rfl⟩
  simp only [Machine.run, first, written, then', last, Option.bind_some]

/-- Both stores hold `listing` when the walk begins. -/
theorem page_walk_complete_two :
    (∃ final, Machine.run (walkStep {} 1)
        { catalog := Storage.serve.after InMemoryCatalogStore.new [.upsert listing] }
        [.list, .upsert second, .list, .list] = some final ∧ Complete none [listing.key] final.received) ∧
    ∃ final, Machine.run (walkStep {} 1)
        { catalog := Storage.serve.after SqliteCatalogStore.new [.upsert listing] }
        [.list, .upsert second, .list, .list] = some final ∧ Complete none [listing.key] final.received := by
  have walks := page_walk_complete [.upsert listing] none 1 [.list, .upsert second, .list, .list]
  constructor
  · obtain ⟨final, reached, finished, _⟩ :=
      two_pages (Storage.serve.after InMemoryCatalogStore.new [.upsert listing]) rfl trivial
    exact ⟨final, reached, walks.1 final reached finished⟩
  · have keeps : (Storage.serve.after SqliteCatalogStore.new [.upsert listing]).Represents [listing] :=
      SqliteCatalogStore.represents_new.upsert listing_givenBack
    obtain ⟨final, reached, finished, _⟩ :=
      two_pages (Storage.serve.after SqliteCatalogStore.new [.upsert listing]) keeps second_givenBack
    exact ⟨final, reached, walks.2 final reached finished⟩

end Sample

end X402Nockchain.Facilitator
