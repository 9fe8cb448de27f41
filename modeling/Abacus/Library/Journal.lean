import Mathlib.Data.List.Nodup
import Mathlib.Data.List.Dedup
import Mathlib.Algebra.Order.BigOperators.Group.List
import Mathlib.Algebra.Order.Ring.Int
import Mathlib.Tactic.Ring

/-! Journals of moves.
Items move between places (or in and out of the system). A journal is chained when
every move starts where the item's previous move ended; then the signed moves of
any part of the journal that is closed under earlier moves of the same item add up
to a census of items, and so are never negative.
-/
set_option autoImplicit false

namespace Journal

structure Move (Item Place : Type) where
  item : Item
  source : Option Place
  target : Option Place

variable {Item Place : Type} [DecidableEq Item] [DecidableEq Place]

/-- One if the item stands at the place. -/
def occupies (position : Option Place) (place : Place) : ℤ := if position = some place then 1 else 0

/-- The change a move makes to the number of items at a place. -/
def Move.net (move : Move Item Place) (place : Place) : ℤ :=
  occupies move.target place - occupies move.source place

def after (position : Item → Option Place) : List (Move Item Place) → Item → Option Place
  | [] => position
  | move :: moves => after (Function.update position move.item move.target) moves

def Chained (position : Item → Option Place) : List (Move Item Place) → Prop
  | [] => True
  | move :: moves =>
      move.source = position move.item ∧
        Chained (Function.update position move.item move.target) moves

def census (items : List Item) (position : Item → Option Place) (place : Place) : ℤ :=
  (items.map fun item => occupies (position item) place).sum

omit [DecidableEq Place] in
theorem after_append (position : Item → Option Place) (first second : List (Move Item Place)) :
    after position (first ++ second) = after (after position first) second := by
  induction first generalizing position with
  | nil => rfl
  | cons move moves ih => exact ih _

omit [DecidableEq Place] in
theorem after_snoc (position : Item → Option Place) (moves : List (Move Item Place))
    (move : Move Item Place) :
    after position (moves ++ [move]) =
      Function.update (after position moves) move.item move.target := by
  rw [after_append]
  rfl

omit [DecidableEq Place] in
theorem chained_append (position : Item → Option Place) (first second : List (Move Item Place)) :
    Chained position (first ++ second) ↔
      Chained position first ∧ Chained (after position first) second := by
  induction first generalizing position with
  | nil => simp [Chained,after]
  | cons move moves ih => simp [Chained,after,ih,and_assoc]

omit [DecidableEq Place] in
/-- A journal stays chained when a move from where the item stands is appended. -/
theorem chained_snoc {position : Item → Option Place} {moves : List (Move Item Place)}
    {move : Move Item Place} (chained : Chained position moves)
    (starts : move.source = after position moves move.item) :
    Chained position (moves ++ [move]) :=
  (chained_append position moves [move]).mpr ⟨chained,starts,trivial⟩

omit [DecidableEq Place] in
theorem chained_congr {left right : Item → Option Place} {moves : List (Move Item Place)}
    (same : ∀ move ∈ moves, left move.item = right move.item) :
    Chained left moves → Chained right moves := by
  induction moves generalizing left right with
  | nil => exact fun _ => trivial
  | cons move moves ih =>
      rintro ⟨starts,rest⟩
      refine ⟨starts.trans (same move (List.mem_cons_self ..)),ih ?_ rest⟩
      intro other member
      by_cases equal : other.item = move.item
      · simp [equal]
      · simp [Function.update_of_ne equal,same other (List.mem_cons_of_mem _ member)]

omit [DecidableEq Item] in
theorem census_congr {items : List Item} {left right : Item → Option Place}
    (same : ∀ item ∈ items, left item = right item) (place : Place) :
    census items left place = census items right place := by
  unfold census
  rw [List.map_congr_left fun item member => by rw [same item member]]

omit [DecidableEq Item] in
theorem census_nonneg (items : List Item) (position : Item → Option Place) (place : Place) :
    0 ≤ census items position place := by
  apply List.sum_nonneg
  intro count member
  obtain ⟨item,-,rfl⟩ := List.mem_map.mp member
  unfold occupies
  split <;> simp

theorem census_update {items : List Item} (distinct : items.Nodup) {item : Item}
    (listed : item ∈ items) (position : Item → Option Place) (target : Option Place)
    (place : Place) :
    census items (Function.update position item target) place =
      census items position place + (occupies target place - occupies (position item) place) := by
  induction items with
  | nil => cases listed
  | cons head items ih =>
      obtain ⟨absent,distinct⟩ := List.nodup_cons.mp distinct
      simp only [census,List.map_cons,List.sum_cons]
      by_cases same : item = head
      · subst same
        have others : census items (Function.update position item target) place =
            census items position place := by
          apply census_congr
          intro other member
          apply Function.update_of_ne
          rintro rfl
          exact absent member
        simp only [census] at others
        rw [others,Function.update_self]
        ring
      · have later : item ∈ items := by simpa [same] using listed
        have moved := ih distinct later
        simp only [census] at moved
        rw [moved,Function.update_of_ne (Ne.symm same)]
        ring

/-- The moves of a chained journal add up to the change in the census. -/
theorem net_eq_census {items : List Item} (distinct : items.Nodup) (place : Place)
    {moves : List (Move Item Place)} (listed : ∀ move ∈ moves, move.item ∈ items)
    {position : Item → Option Place} (chained : Chained position moves) :
    (moves.map fun move => move.net place).sum =
      census items (after position moves) place - census items position place := by
  induction moves generalizing position with
  | nil => simp [after]
  | cons move moves ih =>
      obtain ⟨starts,rest⟩ := chained
      have tail := ih (fun other member => listed other (List.mem_cons_of_mem _ member)) rest
      have moved := census_update distinct (listed move (List.mem_cons_self ..)) position
        move.target place
      simp only [List.map_cons,List.sum_cons,after]
      rw [tail,moved,← starts,Move.net]
      ring

omit [DecidableEq Item] in
@[simp] theorem census_nowhere (items : List Item) (place : Place) :
    census items (fun _ => none) place = 0 := by
  simp [census,occupies]

/-- Signed moves of a chained journal never add up to less than nothing. -/
theorem net_nonneg {moves : List (Move Item Place)} (chained : Chained (fun _ => none) moves)
    (place : Place) : 0 ≤ (moves.map fun move => move.net place).sum := by
  rw [net_eq_census (List.nodup_dedup (moves.map Move.item)) place
    (fun move member => List.mem_dedup.mpr (List.mem_map_of_mem member)) chained,
    census_nowhere,sub_zero]
  exact census_nonneg ..

omit [DecidableEq Place] in
/-- A part of a journal that with every entry holds the earlier entries of the same item is a
chained journal itself. -/
theorem chained_filter {Entry : Type} (move : Entry → Move Item Place) (settled : Entry → Bool)
    {entries : List Entry}
    (closed : entries.Pairwise fun earlier later =>
      (move earlier).item = (move later).item → settled later → settled earlier)
    {position : Item → Option Place} (chained : Chained position (entries.map move)) :
    Chained position ((entries.filter settled).map move) := by
  induction entries generalizing position with
  | nil => exact trivial
  | cons entry entries ih =>
      obtain ⟨first,closed⟩ := List.pairwise_cons.mp closed
      obtain ⟨starts,rest⟩ := chained
      have tail := ih closed rest
      by_cases kept : settled entry
      · rw [List.filter_cons_of_pos kept]
        exact ⟨starts,tail⟩
      · rw [List.filter_cons_of_neg kept]
        apply chained_congr _ tail
        intro other member
        obtain ⟨later,place,rfl⟩ := List.mem_map.mp member
        obtain ⟨place,chosen⟩ := List.mem_filter.mp place
        apply Function.update_of_ne
        intro same
        exact kept (first later place same.symm chosen)

end Journal
