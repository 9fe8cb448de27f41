import Mathlib.Order.CompletePartialOrder
import Mathlib.Order.Interval.Set.Disjoint

/-! Effective-dated records and the history that they stand for.
A record holds from one instant on, up to but not including another one. A history is a list
of updates with the instants at which they take effect.
-/
set_option autoImplicit false

namespace Temporal

structure Span (Instant : Type) where
  starts : Instant
  ends : Option Instant

namespace Span

variable {Instant : Type} [LinearOrder Instant] {span : Span Instant} {instant later : Instant}

def instants (span : Span Instant) : Set Instant :=
  {instant | span.starts ≤ instant ∧ ∀ finish ∈ span.ends, instant < finish}

theorem mem_instants : instant ∈ span.instants ↔
    span.starts ≤ instant ∧ ∀ finish ∈ span.ends, instant < finish := Iff.rfl

theorem instants_of_open (isOpen : span.ends = none) : span.instants = Set.Ici span.starts := by
  ext instant
  simp [mem_instants,isOpen]

theorem instants_of_closed {finish : Instant} (closed : span.ends = some finish) :
    span.instants = Set.Ico span.starts finish := by
  ext instant
  simp [mem_instants,closed]

def close (span : Span Instant) (finish : Instant) : Span Instant := ⟨span.starts,some finish⟩

/-- Ending an open record takes the later instants from it. -/
theorem mem_close (isOpen : span.ends = none) (finish : Instant) :
    instant ∈ (span.close finish).instants ↔ instant ∈ span.instants ∧ instant < finish := by
  simp [mem_instants,close,isOpen]

/-- A record that holds at an instant overlaps every window around it. -/
theorem overlaps_of_mem {windowStart windowEnd : Instant} (holds : instant ∈ span.instants)
    (after : windowStart ≤ instant) (before : instant ≤ windowEnd) :
    span.starts ≤ windowEnd ∧ ∀ finish ∈ span.ends, windowStart < finish :=
  ⟨holds.1.trans before,fun finish ended => after.trans_lt (holds.2 finish ended)⟩

/-- The record has begun by the instant, and does not end after it. -/
def Settled (span : Span Instant) (instant : Instant) : Prop :=
  span.starts ≤ instant ∧ ∀ finish ∈ span.ends, finish ≤ instant

/-- Of settled records those without an end are the ones that hold from then on. -/
theorem mem_instants_of_settled (settled : span.Settled instant) (le : instant ≤ later) :
    later ∈ span.instants ↔ span.ends = none := by
  cases ended : span.ends with
  | none => simp [instants_of_open ended,settled.1.trans le]
  | some finish =>
      have passed : finish ≤ later := (settled.2 finish ended).trans le
      simp [instants_of_closed ended,passed]

/-- Two records that share an instant begin before each other's ends. -/
theorem disjoint_of_apart {other : Span Instant}
    (apart : ¬((∀ finish ∈ other.ends, span.starts < finish) ∧
      ∀ finish ∈ span.ends, other.starts < finish)) :
    Disjoint span.instants other.instants := by
  rw [Set.disjoint_left]
  intro instant own others
  apply apart
  constructor
  · intro finish ended
    exact own.1.trans_lt (others.2 finish ended)
  · intro finish ended
    exact others.1.trans_lt (own.2 finish ended)

end Span

section Selection

variable {Element : Type} {p : Element → Bool} {elements : List Element}

/-- Of elements that exclude each other at most one is selected. -/
theorem filter_of_exclusive
    (exclusive : elements.Pairwise fun left right => ¬(p left = true ∧ p right = true)) :
    (∀ element ∈ elements, p element = false) ∨
      ∃ element ∈ elements, p element = true ∧ elements.filter p = [element] := by
  induction elements with
  | nil => exact .inl (by simp)
  | cons element elements ih =>
      obtain ⟨alone,others⟩ := List.pairwise_cons.mp exclusive
      cases chosen : p element with
      | true =>
          have unselected : elements.filter p = [] := by
            rw [List.filter_eq_nil_iff]
            exact fun other member selected => alone other member ⟨chosen,selected⟩
          refine .inr ⟨element,List.mem_cons_self ..,chosen,?_⟩
          rw [List.filter_cons_of_pos chosen,unselected]
      | false =>
          rcases ih others with none | ⟨other,member,selected,only⟩
          · exact .inl (List.forall_mem_cons.mpr ⟨chosen,none⟩)
          · refine .inr ⟨other,List.mem_cons_of_mem _ member,selected,?_⟩
            rw [List.filter_cons_of_neg (by simp [chosen]),only]

end Selection

section History

variable {Instant State : Type} [LinearOrder Instant]

/-- The state after the updates that have taken effect by an instant, in their order. -/
def stateAt (history : List (Instant × (State → State))) (initial : State) (instant : Instant) :
    State :=
  (history.filter fun update => update.1 ≤ instant).foldl (fun state update => update.2 state) initial

@[simp] theorem stateAt_nil (initial : State) (instant : Instant) :
    stateAt [] initial instant = initial := rfl

variable {history : List (Instant × (State → State))} {initial : State} {instant effective : Instant}
  {update : State → State}

theorem stateAt_before (early : instant < effective) :
    stateAt (history ++ [(effective,update)]) initial instant = stateAt history initial instant := by
  simp [stateAt,List.filter_append,early]

theorem stateAt_from (taken : effective ≤ instant) :
    stateAt (history ++ [(effective,update)]) initial instant =
      update (stateAt history initial instant) := by
  simp [stateAt,List.filter_append,taken]

end History

end Temporal
