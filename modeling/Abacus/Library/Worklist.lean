import Mathlib.Data.List.Perm.Basic
import Mathlib.Logic.Relation
import Mathlib.Order.WellFounded

/-! Loops over a list of pending items.
A turn takes one item off the list and visits it, which fails or puts further items on it.
What such a loop comes to does not depend on which item a turn takes: it fails when an item
that can be reached from the list fails, and only then.
-/
set_option autoImplicit false

def totalSize {Item : Type} (size : Item → ℕ) : List Item → ℕ
  | [] => 0
  | item :: items => size item + totalSize size items

theorem totalSize_map {Item Source : Type} (size : Item → ℕ) (item : Source → Item)
    (sources : List Source) :
    totalSize size (sources.map item) = totalSize (fun source => size (item source)) sources := by
  induction sources with
  | nil => rfl
  | cons source sources ih => simp [totalSize,ih]

/-- What one visit does, and a size that tells why the visits come to an end. -/
structure Worklist (Item Failure : Type) where
  visit : Item → Except Failure (List Item)
  size : Item → ℕ
  shrinks : ∀ {item : Item} {added : List Item},
    visit item = .ok added → totalSize size added < size item

namespace Worklist

variable {Item Failure : Type} (worklist : Worklist Item Failure)

def total (pending : List Item) : ℕ := totalSize worklist.size pending

theorem total_append (left right : List Item) :
    worklist.total (left ++ right) = worklist.total left + worklist.total right := by
  induction left with
  | nil => simp [total,totalSize]
  | cons item items ih =>
      simp only [total,List.cons_append,totalSize] at ih ⊢
      omega

theorem total_perm {left right : List Item} (perm : left.Perm right) :
    worklist.total left = worklist.total right := by
  induction perm with
  | nil => rfl
  | cons item perm ih =>
      simp only [total,totalSize] at ih ⊢
      omega
  | swap first second items =>
      simp only [total,totalSize]
      omega
  | trans left right ih others => exact ih.trans others

theorem total_last {pending : List Item} (waiting : pending ≠ []) :
    worklist.total pending =
      worklist.total pending.dropLast + worklist.size (pending.getLast waiting) := by
  have split := worklist.total_append pending.dropLast [pending.getLast waiting]
  rw [List.dropLast_append_getLast waiting] at split
  rw [split]
  simp [total,totalSize]

theorem total_visited {pending added : List Item} (waiting : pending ≠ [])
    (visited : worklist.visit (pending.getLast waiting) = .ok added) :
    worklist.total (pending.dropLast ++ added) < worklist.total pending := by
  have shrinks := worklist.shrinks visited
  rw [worklist.total_append,worklist.total_last waiting]
  change _ + totalSize worklist.size added < _
  omega

/-- The loop over a stack, whose top is the last item of the list. -/
def run (pending : List Item) : Except Failure Unit :=
  if waiting : pending = [] then .ok ()
  else
    match _visited : worklist.visit (pending.getLast waiting) with
    | .error failure => .error failure
    | .ok added => run (pending.dropLast ++ added)
termination_by worklist.total pending
decreasing_by exact worklist.total_visited waiting _visited

theorem run_nil : worklist.run [] = .ok () := by
  rw [run]
  simp

theorem run_append_singleton (pending : List Item) (item : Item) :
    worklist.run (pending ++ [item]) =
      (worklist.visit item).bind fun added => worklist.run (pending ++ added) := by
  have top : (pending ++ [item]).getLast (by simp) = item := by simp
  rw [run,dif_neg (by simp)]
  split
  · next failure visited =>
      rw [top] at visited
      rw [visited]
      rfl
  · next added visited =>
      rw [top] at visited
      rw [visited,List.dropLast_concat]
      rfl

/-- One turn of a loop that takes any item, and leaves the others in any order. -/
inductive Turn : List Item → List Item → Prop where
  | take {pending rest added after : List Item} {item : Item} :
      pending.Perm (item :: rest) → worklist.visit item = .ok added →
        after.Perm (rest ++ added) → Turn pending after

/-- How the loop ends when every turn takes whatever item it likes. -/
inductive Ends : List Item → Except Failure Unit → Prop where
  | finished : Ends [] (.ok ())
  | failed {pending rest : List Item} {item : Item} {failure : Failure} :
      pending.Perm (item :: rest) → worklist.visit item = .error failure →
        Ends pending (.error failure)
  | turn {pending after : List Item} {outcome : Except Failure Unit} :
      worklist.Turn pending after → Ends after outcome → Ends pending outcome

variable {worklist}

theorem Turn.total_lt {pending after : List Item} (turn : worklist.Turn pending after) :
    worklist.total after < worklist.total pending := by
  cases turn with
  | take taken visited left =>
      have shrinks := worklist.shrinks visited
      rw [worklist.total_perm taken,worklist.total_perm left,worklist.total_append]
      simp only [total,totalSize] at shrinks ⊢
      omega

/-- No loop takes turns without end. -/
theorem turn_wellFounded (worklist : Worklist Item Failure) :
    WellFounded fun after before => worklist.Turn before after :=
  Subrelation.wf Turn.total_lt (measure worklist.total).wf

/-- The stack is one of the orders. -/
theorem run_ends (worklist : Worklist Item Failure) (pending : List Item) :
    worklist.Ends pending (worklist.run pending) := by
  induction pending using worklist.turn_wellFounded.induction with
  | _ pending ih =>
    rcases List.eq_nil_or_concat pending with rfl | ⟨rest,item,rfl⟩
    · rw [run_nil]
      exact .finished
    · have taken : (rest ++ [item]).Perm (item :: rest) := List.perm_append_singleton item rest
      rw [List.concat_eq_append,run_append_singleton]
      cases visited : worklist.visit item with
      | error failure => exact .failed taken visited
      | ok added =>
          have turn : worklist.Turn (rest ++ [item]) (rest ++ added) :=
            .take taken visited (.refl _)
          exact .turn turn (ih (rest ++ added) (by rw [List.concat_eq_append]; exact turn))

section Reached

variable (worklist)

def Adds (item next : Item) : Prop :=
  ∃ added, worklist.visit item = .ok added ∧ next ∈ added

def Clear (item : Item) : Prop :=
  ∀ reached, Relation.ReflTransGen worklist.Adds item reached →
    ∃ added, worklist.visit reached = .ok added

variable {worklist}

theorem clear_iff {item : Item} {added : List Item} (visited : worklist.visit item = .ok added) :
    worklist.Clear item ↔ ∀ next ∈ added, worklist.Clear next := by
  constructor
  · intro clear next member reached reaches
    exact clear reached (.head ⟨added,visited,member⟩ reaches)
  · intro clear reached reaches
    rcases reaches.cases_head with rfl | ⟨next,⟨others,again,member⟩,further⟩
    · exact ⟨added,visited⟩
    · rw [visited] at again
      cases again
      exact clear next member reached further

theorem Turn.clear_iff {pending after : List Item} (turn : worklist.Turn pending after) :
    (∀ item ∈ pending, worklist.Clear item) ↔ ∀ item ∈ after, worklist.Clear item := by
  cases turn with
  | take taken visited left =>
      simp only [taken.mem_iff,left.mem_iff,List.mem_cons,List.mem_append,or_imp,forall_and,
        forall_eq,Worklist.clear_iff visited]
      exact and_comm

/-- In whatever order the items are taken, the loop succeeds when all that it can reach does. -/
theorem Ends.ok_iff {pending : List Item} {outcome : Except Failure Unit}
    (ends : worklist.Ends pending outcome) :
    outcome = .ok () ↔ ∀ item ∈ pending, worklist.Clear item := by
  induction ends with
  | finished => simp
  | failed taken visited =>
      constructor
      · nofun
      · intro clear
        obtain ⟨added,fine⟩ := clear _ (taken.mem_iff.mpr List.mem_cons_self) _ .refl
        rw [visited] at fine
        cases fine
  | turn turn ends ih => rw [ih,turn.clear_iff]

theorem run_ok_iff (pending : List Item) :
    worklist.run pending = .ok () ↔ ∀ item ∈ pending, worklist.Clear item :=
  (run_ends worklist pending).ok_iff

end Reached

end Worklist
