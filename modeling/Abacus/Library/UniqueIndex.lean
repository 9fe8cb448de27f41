import Abacus.Library.Table

/-! Unique indexes of a table, besides its primary key.
A row without a value is not in the index, so an index may be partial.
-/
set_option autoImplicit false

namespace Relational.Table

variable {Row Key Value : Type} {key : Row → Key} {index : Row → Option Value}

def Indexed (t : Table key) (index : Row → Option Value) : Prop := (t.rows.filterMap index).Nodup

theorem indexed_empty : (empty : Table key).Indexed index := List.nodup_nil

theorem eq_of_indexed {t : Table key} (indexed : t.Indexed index) {left right : Row} {value : Value}
    (first : left ∈ t.rows) (second : right ∈ t.rows) (here : index left = some value)
    (there : index right = some value) : left = right := by
  have agree : t.rows.Pairwise fun left right =>
      index left = some value → index right = some value → left = right := by
    refine (List.pairwise_filterMap.mp indexed).imp ?_
    intro left right differ here there
    exact absurd rfl (differ value here value there)
  have back : t.rows.Pairwise (flip fun left right =>
      index left = some value → index right = some value → left = right) :=
    agree.imp fun same here there => (same there here).symm
  exact agree.forall_of_forall_of_flip (fun _ _ _ _ => rfl) back first second here there

section Keyed

variable [DecidableEq Key] [DecidableEq Value]

def findBy (t : Table key) (index : Row → Option Value) (value : Value) : Option Row :=
  t.rows.find? fun row => index row = some value

/-- `INSERT` under a unique index. -/
def insertUnder (t : Table key) (index : Row → Option Value) (row : Row) : Option (Table key) :=
  if (index row).any fun value => (t.findBy index value).isSome then none else t.insert row

omit [DecidableEq Key] in
theorem findBy_eq_none_iff {t : Table key} {value : Value} :
    t.findBy index value = none ↔ ∀ row ∈ t.rows, index row ≠ some value := by
  simp [findBy]

omit [DecidableEq Key] in
theorem findBy_eq_some_iff {t : Table key} (indexed : t.Indexed index) {value : Value} {row : Row} :
    t.findBy index value = some row ↔ row ∈ t.rows ∧ index row = some value := by
  constructor
  · intro found
    exact ⟨List.mem_of_find?_eq_some found,by simpa using List.find?_some found⟩
  · rintro ⟨member,has⟩
    cases found : t.findBy index value with
    | none => exact absurd has (by simpa [findBy] using List.find?_eq_none.mp found row member)
    | some other =>
        have stored := List.mem_of_find?_eq_some found
        have same : index other = some value := by simpa using List.find?_some found
        rw [eq_of_indexed indexed stored member same has]

theorem insertUnder_eq_some {t u : Table key} {row : Row}
    (inserted : t.insertUnder index row = some u) :
    t.insert row = some u ∧ ∀ value, index row = some value → t.findBy index value = none := by
  unfold insertUnder at inserted
  split at inserted
  · cases inserted
  · rename_i free
    refine ⟨inserted,fun value has => ?_⟩
    simpa [has] using free

theorem indexed_insertUnder {t u : Table key} {row : Row} (indexed : t.Indexed index)
    (inserted : t.insertUnder index row = some u) : u.Indexed index := by
  obtain ⟨added,free⟩ := insertUnder_eq_some inserted
  rw [Indexed,(insert_eq_some added).2,List.filterMap_append,List.nodup_append]
  refine ⟨indexed,?_,?_⟩
  · cases has : index row <;> simp [has]
  · intro value earlier other last
    obtain ⟨stored,member,same⟩ := List.mem_filterMap.mp earlier
    simp only [List.filterMap_cons,List.filterMap_nil] at last
    cases has : index row with
    | none => simp [has] at last
    | some fresh =>
        simp only [has,List.mem_singleton] at last
        rintro rfl
        subst last
        exact findBy_eq_none_iff.mp (free _ has) stored member same

omit [DecidableEq Value] in
theorem rows_modify_last {t : Table key} {rows : List Row} {row : Row}
    (split : t.rows = rows ++ [row]) (f : Row → Row) (keeps : ∀ row, key (f row) = key row) :
    (t.modify (key row) f keeps).rows = rows ++ [f row] := by
  have apart : ∀ other ∈ rows, key other ≠ key row := by
    have unique := t.unique
    rw [split,List.map_append,List.nodup_append] at unique
    exact fun other member same => unique.2.2 _ (List.mem_map_of_mem member) _ (by simp) same
  have kept : (rows.map fun other => if key other = key row then f other else other) = rows := by
    rw [List.map_congr_left (g := id),List.map_id]
    intro other member
    simp [apart other member]
  simp [modify,updateWhere,split,kept]

omit [DecidableEq Value] in
/-- An update that leaves the value of every row. -/
theorem indexed_modify {t : Table key} (indexed : t.Indexed index) (k : Key) {f : Row → Row}
    (keeps : ∀ row, key (f row) = key row) (same : ∀ row, index (f row) = index row) :
    (t.modify k f keeps).Indexed index := by
  have rows : (t.modify k f keeps).rows.filterMap index = t.rows.filterMap index := by
    rw [modify,updateWhere,List.filterMap_map]
    refine List.filterMap_congr fun row _ => ?_
    by_cases chosen : key row = k <;> simp [chosen,same]
  rw [Indexed,rows]
  exact indexed

end Keyed

end Relational.Table
