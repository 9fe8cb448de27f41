import Mathlib.Logic.Basic

/-! Conditions of SQL, where `none` is the third value.
A row is in a selection if its condition is true, and an unknown one is not.
-/
set_option autoImplicit false

namespace Sql

abbrev Condition := Option Bool

variable {α : Type}

/-- `AND`: an unknown side is overruled by a false one. -/
def and : Condition → Condition → Condition
  | some false, _ => some false
  | _, some false => some false
  | some true, right => right
  | left, some true => left
  | none, none => none

/-- `OR`: an unknown side is overruled by a true one. -/
def or : Condition → Condition → Condition
  | some true, _ => some true
  | _, some true => some true
  | some false, right => right
  | left, some false => left
  | none, none => none

section Comparisons

variable [DecidableEq α]

/-- `=` is unknown next to a null. -/
def eq : Option α → Option α → Condition
  | some left, some right => some (left = right)
  | _, _ => none

/-- `= ANY` of an array without nulls. -/
def eqAny : Option α → Option (List α) → Condition
  | some value, some array => some (array.any fun element => element = value)
  | none, some [] => some false
  | _, _ => none

/-- `NULLIF`. -/
def nullIf (value : Option α) (other : α) : Option α := value.filter fun value => value ≠ other

@[simp] theorem eq_eq_true {left right : Option α} :
    eq left right = some true ↔ ∃ value, left = some value ∧ right = some value := by
  cases left <;> cases right <;> simp [eq,eq_comm]

@[simp] theorem eqAny_eq_true {value : Option α} {array : Option (List α)} :
    eqAny value array = some true ↔
      ∃ element elements, value = some element ∧ array = some elements ∧ element ∈ elements := by
  cases value with
  | none =>
      cases array with
      | none => simp [eqAny]
      | some elements => cases elements <;> simp [eqAny]
  | some value => cases array <;> simp [eqAny]

@[simp] theorem nullIf_eq_some {value : Option α} {other found : α} :
    nullIf value other = some found ↔ value = some found ∧ found ≠ other := by
  simp [nullIf]

end Comparisons

@[simp] theorem and_eq_true {left right : Condition} :
    and left right = some true ↔ left = some true ∧ right = some true := by
  cases left with
  | none => rcases right with _ | _ | _ <;> simp [and]
  | some left => cases left <;> rcases right with _ | _ | _ <;> simp [and]

@[simp] theorem or_eq_true {left right : Condition} :
    or left right = some true ↔ left = some true ∨ right = some true := by
  cases left with
  | none => rcases right with _ | _ | _ <;> simp [or]
  | some left => cases left <;> rcases right with _ | _ | _ <;> simp [or]

end Sql
