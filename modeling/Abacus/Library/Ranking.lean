import Mathlib.Data.List.Sort

/-! Lists with the highest rank first.
A rank is a value of a linear order. A list sorted by rank has the element that outranks all
others at its head, and its ranks do not depend on the order it was sorted from.
-/
set_option autoImplicit false

namespace Ranking

variable {Element Rank : Type} [LinearOrder Rank] {rank : Element → Rank}
  {best : Element} {elements others : List Element}

def Descending (rank : Element → Rank) (elements : List Element) : Prop :=
  elements.Pairwise fun left right => rank right ≤ rank left

theorem descending_insertionSort {above : Element → Element → Prop} [DecidableRel above]
    (ranked : ∀ left right, above left right ↔ rank right ≤ rank left)
    (elements : List Element) : Descending rank (elements.insertionSort above) := by
  have total : Std.Total above := ⟨fun left right => by
    rw [ranked,ranked]
    exact (le_total (rank left) (rank right)).symm⟩
  have transitive : IsTrans Element above := ⟨fun first second third upper lower => by
    rw [ranked] at upper lower ⊢
    exact lower.trans upper⟩
  exact (List.pairwise_insertionSort above elements).imp fun {left right} => (ranked left right).mp

structure Leads (rank : Element → Rank) (elements : List Element) (best : Element) : Prop where
  member : best ∈ elements
  above : ∀ other ∈ elements, other ≠ best → rank other < rank best

theorem Leads.unique {second : Element} (first : Leads rank elements best)
    (other : Leads rank elements second) : best = second := by
  by_contra different
  have below := first.above second other.member (Ne.symm different)
  exact lt_asymm below (other.above best first.member different)

theorem Leads.above_of_lt {kept other : Element} (leads : Leads rank elements best)
    (member : kept ∈ elements) (under : rank other < rank kept) : rank other < rank best := by
  by_cases same : kept = best
  · exact same ▸ under
  · exact under.trans (leads.above kept member same)

theorem Leads.of_perm {arranged : List Element} (leads : Leads rank elements best)
    (same : elements.Perm arranged) : Leads rank arranged best where
  member := same.mem_iff.mp leads.member
  above other member := leads.above other (same.mem_iff.mpr member)

theorem Leads.head (leads : Leads rank elements best) (sorted : Descending rank elements) :
    elements.head? = some best := by
  cases elements with
  | nil => cases leads.member
  | cons first others =>
      by_contra missed
      have different : first ≠ best := fun same => missed (congrArg some same)
      have below := leads.above first (List.mem_cons_self ..) different
      have later : best ∈ others := by simpa [different.symm] using leads.member
      exact absurd ((List.pairwise_cons.mp sorted).1 best later) (not_le.mpr below)

/-- Where no two ranks agree, the head of a sorted list leads it. -/
theorem leads_head (sorted : Descending rank (best :: others))
    (distinct : (best :: others).Pairwise fun left right => rank left ≠ rank right) :
    Leads rank (best :: others) best := by
  refine ⟨List.mem_cons_self ..,?_⟩
  intro other member different
  have later : other ∈ others := by simpa [different] using member
  have below := (List.pairwise_cons.mp sorted).1 other later
  exact lt_of_le_of_ne below ((List.pairwise_cons.mp distinct).1 other later).symm

/-- Where no two ranks agree, a pass that keeps the higher element ends with the leader. -/
theorem leads_foldl {below : Element → Element → Bool}
    (ranked : ∀ left right, below left right = true ↔ rank left < rank right)
    (first : Element) (rest : List Element)
    (distinct : (first :: rest).Pairwise fun left right => rank left ≠ rank right) :
    Leads rank (first :: rest)
      (rest.foldl (fun kept item => if below kept item then item else kept) first) := by
  induction rest generalizing first with
  | nil =>
      refine ⟨List.mem_cons_self ..,?_⟩
      intro other member different
      exact absurd (List.mem_singleton.mp member) different
  | cons item rest ih =>
      obtain ⟨apart,others⟩ := List.pairwise_cons.mp distinct
      have different : rank first ≠ rank item := apart item (List.mem_cons_self ..)
      rw [List.foldl_cons]
      by_cases lower : below first item = true
      · rw [if_pos lower]
        have leads := ih item others
        refine ⟨List.mem_cons_of_mem _ leads.member,?_⟩
        intro other member unlike
        rcases List.mem_cons.mp member with rfl | later
        · exact leads.above_of_lt (List.mem_cons_self ..) ((ranked other item).mp lower)
        · exact leads.above other later unlike
      · rw [if_neg lower]
        have higher : rank item < rank first := by
          rw [ranked] at lower
          exact lt_of_le_of_ne (not_lt.mp lower) different.symm
        have leads := ih first (distinct.sublist ((List.sublist_cons_self item rest).cons_cons first))
        refine ⟨List.mem_cons.mpr ((List.mem_cons.mp leads.member).imp id
          (List.mem_cons_of_mem _)),?_⟩
        intro other member unlike
        rcases List.mem_cons.mp member with rfl | later
        · exact leads.above other (List.mem_cons_self ..) unlike
        · rcases List.mem_cons.mp later with rfl | later
          · exact leads.above_of_lt (List.mem_cons_self ..) higher
          · exact leads.above other (List.mem_cons_of_mem _ later) unlike

/-- Where no two ranks agree, the first match of a sorted list is the head of any sorted list of
the matches. -/
theorem find?_eq_head? {p : Element → Bool} {loaded queried : List Element}
    (all : Descending rank loaded) (sorted : Descending rank queried)
    (matches_ : (loaded.filter p).Perm queried)
    (distinct : queried.Pairwise fun left right => rank left ≠ rank right) :
    loaded.find? p = queried.head? := by
  have filtered : Descending rank (loaded.filter p) := List.Pairwise.filter p all
  rw [← List.head?_filter]
  cases queried with
  | nil => rw [matches_.eq_nil,List.head?_nil]
  | cons best others =>
      have leads := (leads_head sorted distinct).of_perm matches_.symm
      rw [leads.head filtered,List.head?_cons]

theorem ranks_of_perm {left right : List Element} (first : Descending rank left)
    (second : Descending rank right) (same : (left.map rank).Perm (right.map rank)) :
    left.map rank = right.map rank := by
  have upper : (left.map rank).Pairwise (· ≥ ·) := List.pairwise_map.mpr first
  have lower : (right.map rank).Pairwise (· ≥ ·) := List.pairwise_map.mpr second
  exact same.eq_of_pairwise (fun _ _ _ _ => ge_antisymm) upper lower

end Ranking
