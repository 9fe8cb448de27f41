import Mathlib.Data.Finset.Prod
import Mathlib.Data.Finset.Image

/-! Association tables.
Every column of an association table belongs to its primary key, so the table is a set
of pairs. A service replaces all the values of one key at once.
-/
set_option autoImplicit false

namespace Relational

abbrev Association (Key Value : Type) := Finset (Key × Value)

namespace Association

variable {Key Value : Type} [DecidableEq Key] [DecidableEq Value]

/-- `SELECT value WHERE key`. -/
def of (table : Association Key Value) (key : Key) : Finset Value :=
  (table.filter fun row => row.1 = key).image Prod.snd

/-- `DELETE WHERE key`, and `INSERT` of the new values. -/
def replace (table : Association Key Value) (key : Key) (values : Finset Value) :
    Association Key Value :=
  (table.filter fun row => row.1 ≠ key) ∪ values.image fun value => (key,value)

@[simp] theorem mem_of {table : Association Key Value} {key : Key} {value : Value} :
    value ∈ table.of key ↔ (key,value) ∈ table := by
  simp [of]

@[simp] theorem mem_replace {table : Association Key Value} {key other : Key}
    {values : Finset Value} {value : Value} :
    (other,value) ∈ table.replace key values ↔
      if other = key then value ∈ values else (other,value) ∈ table := by
  by_cases same : other = key
  · subst same
    simp [replace]
  · simp [replace,same,Ne.symm same]

theorem of_replace (table : Association Key Value) (key other : Key) (values : Finset Value) :
    (table.replace key values).of other = if other = key then values else table.of other := by
  ext value
  rw [mem_of,mem_replace]
  split
  · rfl
  · rw [mem_of]

@[simp] theorem of_replace_self (table : Association Key Value) (key : Key)
    (values : Finset Value) : (table.replace key values).of key = values := by
  rw [of_replace,if_pos rfl]

@[simp] theorem of_replace_of_ne (table : Association Key Value) {key other : Key}
    (apart : other ≠ key) (values : Finset Value) :
    (table.replace key values).of other = table.of other := by
  rw [of_replace,if_neg apart]

end Association

end Relational
