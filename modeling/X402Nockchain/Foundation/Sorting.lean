import Mathlib.Data.List.Sort
import Mathlib.Data.Prod.Lex

/-! Sorting by a key. What is read off the keys does not depend on the order of
the input, and two keys sort a list alike when they order its members alike. -/

namespace X402Nockchain.Foundation

/-- The relation compares keys. Members of one key may differ. -/
def ComparesBy [LE κ] (key : α → κ) (r : α → α → Prop) : Prop := ∀ a b, r a b ↔ key a ≤ key b

namespace ComparesBy

variable [LinearOrder κ] {key : α → κ} {r : α → α → Prop}

theorem total (compares : ComparesBy key r) : Std.Total r where
  total a b := by
    rw [compares a b, compares b a]
    exact le_total (key a) (key b)

theorem trans (compares : ComparesBy key r) : IsTrans α r where
  trans a b c := by
    rw [compares a b, compares b c, compares a c]
    exact le_trans

variable [DecidableRel r]

theorem pairwise_insertionSort (compares : ComparesBy key r) (items : List α) :
    (items.insertionSort r).Pairwise r := by
  have := compares.total
  have := compares.trans
  exact List.pairwise_insertionSort r items

theorem map_insertionSort (compares : ComparesBy key r) (items : List α) :
    (items.insertionSort r).map key = (items.map key).insertionSort (· ≤ ·) :=
  List.map_insertionSort r (· ≤ ·) key items fun a _ b _ => compares a b

/-- The keys of a sorted list are those of any permutation of it, sorted. -/
theorem map_insertionSort_of_perm (compares : ComparesBy key r) {items others : List α}
    (permuted : items.Perm others) :
    (items.insertionSort r).map key = (others.insertionSort r).map key := by
  have keys : (items.map key).Perm (others.map key) := permuted.map key
  rw [compares.map_insertionSort, compares.map_insertionSort]
  apply List.Perm.eq_of_pairwise' (r := (· ≤ ·))
  · exact List.pairwise_insertionSort (· ≤ ·) (items.map key)
  · exact List.pairwise_insertionSort (· ≤ ·) (others.map key)
  · exact (List.perm_insertionSort _ _).trans (keys.trans (List.perm_insertionSort _ _).symm)

end ComparesBy

section

variable [LinearOrder κ] [LinearOrder ι] {f : α → κ} {g : α → ι} {r s : α → α → Prop}
  [DecidableRel r] [DecidableRel s]

/-- Sorting by two keys with the same ties is the same exactly when the keys order the members alike. -/
theorem insertionSort_eq_iff (byF : ComparesBy f r) (byG : ComparesBy g s) {items : List α}
    (ties : ∀ a ∈ items, ∀ b ∈ items, (f a = f b ↔ g a = g b)) :
    items.insertionSort r = items.insertionSort s ↔
      ∀ a ∈ items, ∀ b ∈ items, (f a < f b ↔ g a < g b) := by
  constructor
  · intro same
    have sortedG := byG.pairwise_insertionSort items
    rw [← same] at sortedG
    have sorted := (byF.pairwise_insertionSort items).and sortedG
    -- Members in sorted order agree both ways round: apart unless tied, and tied for both keys.
    have forth : (items.insertionSort r).Pairwise fun a b => f a < f b ↔ g a < g b := by
      refine sorted.imp_of_mem fun inA inB ⟨belowF, belowG⟩ => ?_
      have apart : f _ ≠ f _ ↔ g _ ≠ g _ := not_congr (ties _ ((List.mem_insertionSort r).mp inA) _ ((List.mem_insertionSort r).mp inB))
      rw [lt_iff_le_and_ne, lt_iff_le_and_ne, apart]
      simp [(byF _ _).mp belowF, (byG _ _).mp belowG]
    have back : (items.insertionSort r).Pairwise fun a b => f b < f a ↔ g b < g a := by
      refine sorted.imp fun ⟨belowF, belowG⟩ => ?_
      exact iff_of_false (not_lt.mpr ((byF _ _).mp belowF)) (not_lt.mpr ((byG _ _).mp belowG))
    intro a inA b inB
    exact List.Pairwise.forall_of_forall_of_flip (fun c _ => by simp) forth back
      ((List.mem_insertionSort r).mpr inA) ((List.mem_insertionSort r).mpr inB)
  · intro alike
    have agree : ∀ a ∈ items, ∀ b ∈ items, (r a b ↔ s a b) := by
      intro a inA b inB
      rw [byF a b, byG a b, ← not_lt, ← not_lt, alike b inB a inA]
    have sorted := List.map_insertionSort r s id items agree
    rwa [List.map_id, List.map_id] at sorted

end

end X402Nockchain.Foundation
