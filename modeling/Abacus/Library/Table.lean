import Mathlib.Data.List.Nodup
import Mathlib.Algebra.BigOperators.Group.List.Basic
import Mathlib.Tactic.Abel

/-! Tables of rows under a primary key.
A table cannot hold two rows of one key. Inserting a row may therefore fail, and
an update has to show that it keeps the key of every row it touches.
-/
set_option autoImplicit false

namespace Relational

structure Table {Row Key : Type} (key : Row → Key) where
  rows : List Row
  unique : (rows.map key).Nodup

namespace Table

variable {Row Key : Type} {key : Row → Key}

@[ext] theorem ext {t u : Table key} (same : t.rows = u.rows) : t = u := by
  cases t; cases u; simp_all

def empty : Table key := ⟨[],by simp⟩

instance : Inhabited (Table key) := ⟨empty⟩

@[simp] theorem rows_empty : (empty : Table key).rows = [] := rfl

/-- `UPDATE … SET f WHERE p`. -/
def updateWhere (t : Table key) (p : Row → Bool) (f : Row → Row)
    (keeps : ∀ row, key (f row) = key row) : Table key where
  rows := t.rows.map fun row => if p row then f row else row
  unique := by
    have same : (t.rows.map fun row => if p row then f row else row).map key = t.rows.map key := by
      rw [List.map_map]
      apply List.map_congr_left
      intro row _
      by_cases chosen : p row <;> simp [chosen,keeps]
    rw [same]
    exact t.unique

/-- `DELETE … WHERE p`. -/
def deleteWhere (t : Table key) (p : Row → Bool) : Table key where
  rows := t.rows.filter fun row => !p row
  unique := t.unique.sublist (List.filter_sublist.map key)

/-- `SELECT … WHERE p`, in insertion order. -/
def select (t : Table key) (p : Row → Bool) : List Row := t.rows.filter p

def project {View : Type} {viewKey : View → Key} (t : Table key) (p : Row → Bool)
    (view : Row → View) (keeps : ∀ row, viewKey (view row) = key row) : Table viewKey where
  rows := (t.rows.filter p).map view
  unique := by
    have same : (viewKey ∘ view) = key := funext keeps
    rw [List.map_map,same]
    exact t.unique.sublist (List.filter_sublist.map _)

def total {M : Type} [AddCommMonoid M] (t : Table key) (weight : Row → M) : M :=
  (t.rows.map weight).sum

/-- An update that changes none of the selected rows changes nothing. -/
theorem updateWhere_of_idle {t : Table key} {p : Row → Bool} {f : Row → Row}
    (keeps : ∀ row, key (f row) = key row) (idle : ∀ row ∈ t.rows, p row = true → f row = row) :
    t.updateWhere p f keeps = t := by
  apply ext
  rw [updateWhere]
  dsimp only
  rw [List.map_congr_left (g := id),List.map_id]
  intro row member
  by_cases chosen : p row
  · rw [if_pos chosen,idle row member chosen,id]
  · rw [if_neg chosen,id]

theorem eq_of_key (t : Table key) {left right : Row} (first : left ∈ t.rows)
    (second : right ∈ t.rows) (same : key left = key right) : left = right :=
  List.inj_on_of_nodup_map t.unique first second same

section Keyed

variable [DecidableEq Key]

def find? (t : Table key) (k : Key) : Option Row := t.rows.find? fun row => key row = k

/-- `INSERT`, failing on a primary-key conflict. -/
def insert (t : Table key) (row : Row) : Option (Table key) :=
  if fresh : key row ∈ t.rows.map key then none
  else some ⟨t.rows ++ [row],by
    rw [List.map_append]
    exact List.Nodup.append t.unique (by simp) (by simpa using fresh)⟩

/-- `UPDATE … SET f` of the row with the given key. -/
def modify (t : Table key) (k : Key) (f : Row → Row) (keeps : ∀ row, key (f row) = key row) :
    Table key :=
  t.updateWhere (fun row => key row = k) f keeps

def put (t : Table key) (row : Row) : Table key :=
  match t.insert row with
  | some extended => extended
  | none => ⟨t.rows.map fun old => if key old = key row then row else old,by
      have same : (t.rows.map fun old => if key old = key row then row else old).map key =
          t.rows.map key := by
        rw [List.map_map]
        apply List.map_congr_left
        intro old _
        by_cases replaced : key old = key row <;> simp [replaced]
      rw [same]
      exact t.unique⟩

def insertMany (t : Table key) : List Row → Option (Table key)
  | [] => some t
  | row :: rows => (t.insert row).bind fun u => u.insertMany rows

/-- `INSERT … ON CONFLICT DO NOTHING RETURNING`: the table and the rows that were inserted. -/
def insertManyNew (t : Table key) : List Row → Table key × List Row
  | [] => (t,[])
  | row :: rows =>
      match t.insert row with
      | none => t.insertManyNew rows
      | some u => ((u.insertManyNew rows).1,row :: (u.insertManyNew rows).2)

theorem find?_eq_some_iff (t : Table key) (k : Key) (row : Row) :
    t.find? k = some row ↔ row ∈ t.rows ∧ key row = k := by
  constructor
  · intro found
    exact ⟨List.mem_of_find?_eq_some found,by simpa using List.find?_some found⟩
  · rintro ⟨member,rfl⟩
    cases found : t.find? (key row) with
    | none =>
        have absent := List.find?_eq_none.mp found row member
        simp at absent
    | some other =>
        have stored := List.mem_of_find?_eq_some found
        have same : key other = key row := by simpa using List.find?_some found
        rw [t.eq_of_key stored member same]

theorem find?_eq_none_iff (t : Table key) (k : Key) :
    t.find? k = none ↔ ∀ row ∈ t.rows, key row ≠ k := by
  simp [find?]

theorem mem_of_find? {t : Table key} {k : Key} {row : Row} (found : t.find? k = some row) :
    row ∈ t.rows := ((t.find?_eq_some_iff k row).mp found).1

theorem key_of_find? {t : Table key} {k : Key} {row : Row} (found : t.find? k = some row) :
    key row = k := ((t.find?_eq_some_iff k row).mp found).2

theorem find?_of_mem {t : Table key} {row : Row} (member : row ∈ t.rows) :
    t.find? (key row) = some row := (t.find?_eq_some_iff _ _).mpr ⟨member,rfl⟩

@[simp] theorem find?_empty (k : Key) : (empty : Table key).find? k = none := rfl

theorem insert_eq_some {t u : Table key} {row : Row} (inserted : t.insert row = some u) :
    t.find? (key row) = none ∧ u.rows = t.rows ++ [row] := by
  unfold insert at inserted
  split at inserted
  · cases inserted
  · rename_i fresh
    cases inserted
    refine ⟨?_,rfl⟩
    rw [find?_eq_none_iff]
    intro other member same
    exact fresh (List.mem_map.mpr ⟨other,member,same⟩)

theorem insert_of_fresh (t : Table key) (row : Row) (fresh : t.find? (key row) = none) :
    ∃ u, t.insert row = some u := by
  have absent := (t.find?_eq_none_iff _).mp fresh
  refine ⟨_,dif_neg ?_⟩
  simpa using absent

theorem find?_insert {t u : Table key} {row : Row} (inserted : t.insert row = some u) (k : Key) :
    u.find? k = if key row = k then some row else t.find? k := by
  obtain ⟨fresh,rows⟩ := insert_eq_some inserted
  simp only [find?,rows,List.find?_append,List.find?_singleton]
  by_cases same : key row = k
  · have absent : t.rows.find? (fun row => key row = k) = none := by rw [← same]; exact fresh
    simp [same,absent]
  · simp [same]

theorem mem_insert {t u : Table key} {row other : Row} (inserted : t.insert row = some u) :
    other ∈ u.rows ↔ other ∈ t.rows ∨ other = row := by
  simp [(insert_eq_some inserted).2]

theorem find?_append {t u : Table key} {rows : List Row} (appended : u.rows = t.rows ++ rows)
    (k : Key) : u.find? k = (t.find? k).or (rows.find? fun row => key row = k) := by
  simp only [find?,appended,List.find?_append]

theorem insertMany_eq_some {t u : Table key} {rows : List Row}
    (inserted : t.insertMany rows = some u) :
    u.rows = t.rows ++ rows ∧ (∀ row ∈ rows, t.find? (key row) = none) ∧ (rows.map key).Nodup := by
  induction rows generalizing t with
  | nil => cases inserted; simp
  | cons row rows ih =>
      obtain ⟨middle,first,rest⟩ := Option.bind_eq_some_iff.mp inserted
      obtain ⟨appended,fresh,distinct⟩ := ih rest
      obtain ⟨absent,added⟩ := insert_eq_some first
      refine ⟨by rw [appended,added]; simp,?_,?_⟩
      · intro other member
        rcases List.mem_cons.mp member with rfl | member
        · exact absent
        · have missing := fresh other member
          rw [find?_insert first] at missing
          split at missing
          · cases missing
          · exact missing
      · rw [List.map_cons,List.nodup_cons]
        refine ⟨?_,distinct⟩
        intro member
        obtain ⟨other,place,same⟩ := List.mem_map.mp member
        have missing := fresh other place
        rw [find?_insert first,if_pos same.symm] at missing
        cases missing

theorem insertMany_of_fresh {t : Table key} {rows : List Row}
    (fresh : ∀ row ∈ rows, t.find? (key row) = none) (distinct : (rows.map key).Nodup) :
    ∃ u, t.insertMany rows = some u := by
  induction rows generalizing t with
  | nil => exact ⟨t,rfl⟩
  | cons row rows ih =>
      obtain ⟨absent,distinct⟩ := List.nodup_cons.mp distinct
      obtain ⟨middle,first⟩ := t.insert_of_fresh row (fresh row (List.mem_cons_self ..))
      have later : ∀ other ∈ rows, middle.find? (key other) = none := by
        intro other member
        rw [find?_insert first,if_neg]
        · exact fresh other (List.mem_cons_of_mem _ member)
        · intro same
          exact absent (same ▸ List.mem_map_of_mem member)
      obtain ⟨u,rest⟩ := ih later distinct
      exact ⟨u,by simp [insertMany,first,rest]⟩

theorem rows_insertManyNew (t : Table key) (rows : List Row) :
    (t.insertManyNew rows).1.rows = t.rows ++ (t.insertManyNew rows).2 := by
  induction rows generalizing t with
  | nil => simp [insertManyNew]
  | cons row rows ih =>
      unfold insertManyNew
      cases inserted : t.insert row with
      | none => exact ih t
      | some u =>
          simp only
          rw [ih u,(insert_eq_some inserted).2]
          simp

/-- The rows that were new are those that can be inserted without a conflict. -/
theorem insertMany_insertManyNew (t : Table key) (rows : List Row) :
    t.insertMany (t.insertManyNew rows).2 = some (t.insertManyNew rows).1 := by
  induction rows generalizing t with
  | nil => rfl
  | cons row rows ih =>
      unfold insertManyNew
      cases inserted : t.insert row with
      | none => exact ih t
      | some u =>
          simp only [insertMany,inserted,Option.bind_some]
          exact ih u

theorem insert_eq_none {t : Table key} {row : Row} (refused : t.insert row = none) :
    ∃ old, t.find? (key row) = some old := by
  cases found : t.find? (key row) with
  | none =>
      obtain ⟨u,inserted⟩ := t.insert_of_fresh row found
      rw [inserted] at refused
      cases refused
  | some old => exact ⟨old,rfl⟩

theorem mem_insertManyNew {t : Table key} {rows : List Row} {row : Row}
    (member : row ∈ (t.insertManyNew rows).2) : row ∈ rows ∧ t.find? (key row) = none := by
  induction rows generalizing t with
  | nil => cases member
  | cons first rows ih =>
      unfold insertManyNew at member
      cases inserted : t.insert first with
      | none =>
          rw [inserted] at member
          obtain ⟨listed,absent⟩ := ih member
          exact ⟨List.mem_cons_of_mem _ listed,absent⟩
      | some u =>
          rw [inserted] at member
          rcases List.mem_cons.mp member with rfl | member
          · exact ⟨List.mem_cons_self ..,(insert_eq_some inserted).1⟩
          · obtain ⟨listed,absent⟩ := ih member
            refine ⟨List.mem_cons_of_mem _ listed,?_⟩
            rw [find?_insert inserted] at absent
            split at absent
            · cases absent
            · exact absent

theorem select_insertManyNew (t : Table key) {rows : List Row} {p : Row → Bool}
    (all : ∀ row ∈ rows, p row = true) :
    (t.insertManyNew rows).1.select p = t.select p ++ (t.insertManyNew rows).2 := by
  have kept : (t.insertManyNew rows).2.filter p = (t.insertManyNew rows).2 :=
    List.filter_eq_self.mpr fun row member => all row (mem_insertManyNew member).1
  rw [select,rows_insertManyNew,List.filter_append,kept]
  rfl

/-- After the insertion every row's key is taken, by that row or an older one. -/
theorem find?_insertManyNew_isSome (t : Table key) {rows : List Row} {row : Row}
    (member : row ∈ rows) : ((t.insertManyNew rows).1.find? (key row)).isSome = true := by
  have kept : ∀ (rows : List Row) (u : Table key), (u.find? (key row)).isSome = true →
      ((u.insertManyNew rows).1.find? (key row)).isSome = true := by
    intro rows u stored
    rw [find?_append (rows_insertManyNew u rows),Option.isSome_or,stored,Bool.true_or]
  induction rows generalizing t with
  | nil => cases member
  | cons first rows ih =>
      unfold insertManyNew
      cases inserted : t.insert first with
      | none =>
          rcases List.mem_cons.mp member with rfl | member
          · obtain ⟨old,found⟩ := insert_eq_none inserted
            exact kept rows t (by rw [found]; rfl)
          · exact ih t member
      | some u =>
          rcases List.mem_cons.mp member with rfl | member
          · exact kept rows u (by rw [find?_insert inserted,if_pos rfl]; rfl)
          · exact ih u member

theorem mem_put {t : Table key} {row other : Row} :
    other ∈ (t.put row).rows ↔ other = row ∨ (other ∈ t.rows ∧ key other ≠ key row) := by
  unfold put
  cases inserted : t.insert row with
  | some u =>
      have absent := (find?_eq_none_iff t _).mp (insert_eq_some inserted).1
      rw [mem_insert inserted]
      constructor
      · rintro (stored | rfl)
        · exact .inr ⟨stored,absent other stored⟩
        · exact .inl rfl
      · rintro (rfl | ⟨stored,-⟩)
        · exact .inr rfl
        · exact .inl stored
  | none =>
      obtain ⟨old,found⟩ := insert_eq_none inserted
      obtain ⟨stored,keyed⟩ := (t.find?_eq_some_iff _ _).mp found
      simp only [List.mem_map]
      constructor
      · rintro ⟨before,member,rfl⟩
        by_cases replaced : key before = key row
        · simp [replaced]
        · exact .inr (by simp [replaced,member])
      · rintro (rfl | ⟨member,apart⟩)
        · exact ⟨old,stored,by simp [keyed]⟩
        · exact ⟨other,member,by simp [apart]⟩

theorem forall_put {t : Table key} {P : Row → Prop} (holds : ∀ row ∈ t.rows, P row) {row : Row}
    (new : P row) : ∀ other ∈ (t.put row).rows, P other := by
  intro other member
  rcases mem_put.mp member with rfl | ⟨stored,-⟩
  · exact new
  · exact holds other stored

theorem find?_put (t : Table key) (row : Row) (k : Key) :
    (t.put row).find? k = if key row = k then some row else t.find? k := by
  apply Option.ext
  intro other
  rw [find?_eq_some_iff,mem_put]
  by_cases same : key row = k
  · subst same
    simp only [if_true,Option.some.injEq]
    constructor
    · rintro ⟨rfl | ⟨-,apart⟩,keyed⟩
      · rfl
      · exact absurd keyed apart
    · rintro rfl
      exact ⟨.inl rfl,rfl⟩
  · rw [if_neg same,find?_eq_some_iff]
    constructor
    · rintro ⟨rfl | ⟨stored,-⟩,keyed⟩
      · exact absurd keyed same
      · exact ⟨stored,keyed⟩
    · rintro ⟨stored,rfl⟩
      exact ⟨.inr ⟨stored,Ne.symm same⟩,rfl⟩

theorem rows_put_of_fresh {t : Table key} {row : Row} (fresh : t.find? (key row) = none) :
    (t.put row).rows = t.rows ++ [row] := by
  obtain ⟨u,inserted⟩ := t.insert_of_fresh row fresh
  rw [put,inserted]
  exact (insert_eq_some inserted).2

/-- A selection that no row of the written key is in is not touched by the write. -/
theorem filter_put (t : Table key) (row : Row) (p : Row → Bool)
    (unselected : ∀ other, key other = key row → p other = false) :
    (t.put row).rows.filter p = t.rows.filter p := by
  unfold put
  cases inserted : t.insert row with
  | some u => simp [(insert_eq_some inserted).2,unselected row rfl]
  | none =>
      dsimp only
      rw [List.filter_map]
      have selects : (p ∘ fun old => if key old = key row then row else old) = p := by
        funext old
        by_cases replaced : key old = key row
        · simp [replaced,unselected]
        · simp [replaced]
      rw [selects,List.map_congr_left (g := id),List.map_id]
      intro old member
      have selected := (List.mem_filter.mp member).2
      rw [if_neg]
      · rfl
      · intro replaced
        rw [unselected old replaced] at selected
        cases selected

/-- Writing back a stored row changes nothing. -/
theorem put_of_find? {t : Table key} {row : Row} (found : t.find? (key row) = some row) :
    t.put row = t := by
  apply ext
  unfold put
  cases inserted : t.insert row with
  | some u =>
      have fresh := (insert_eq_some inserted).1
      rw [found] at fresh
      cases fresh
  | none =>
      dsimp only
      rw [List.map_congr_left (g := id),List.map_id]
      intro old member
      by_cases replaced : key old = key row
      · simp [t.eq_of_key member (mem_of_find? found) replaced]
      · simp [replaced]

/-- Of rows with distinct keys, exactly those with an unused key are inserted. -/
theorem inserted_insertManyNew {t : Table key} {rows : List Row} (distinct : (rows.map key).Nodup) :
    (t.insertManyNew rows).2 = rows.filter fun row => (t.find? (key row)).isNone := by
  induction rows generalizing t with
  | nil => rfl
  | cons row rows ih =>
      obtain ⟨absent,distinct⟩ := List.nodup_cons.mp distinct
      unfold insertManyNew
      cases inserted : t.insert row with
      | none =>
          obtain ⟨old,found⟩ := insert_eq_none inserted
          simp [ih distinct,found]
      | some u =>
          have later : (rows.filter fun row => (u.find? (key row)).isNone) =
              rows.filter fun row => (t.find? (key row)).isNone := by
            apply List.filter_congr
            intro other member
            rw [find?_insert inserted,if_neg]
            intro same
            exact absent (same ▸ List.mem_map_of_mem member)
          simp [ih distinct,later,(insert_eq_some inserted).1]

theorem find?_updateWhere (t : Table key) (p : Row → Bool) (f : Row → Row)
    (keeps : ∀ row, key (f row) = key row) (k : Key) :
    (t.updateWhere p f keeps).find? k =
      (t.find? k).map fun row => if p row then f row else row := by
  have keyed : ∀ row, key (if p row then f row else row) = key row := by
    intro row
    by_cases chosen : p row <;> simp [chosen,keeps]
  simp only [find?,updateWhere,List.find?_map]
  congr 2
  funext row
  simp [keyed]

/-- An update that passes over the rows of some keys, and over rows that it would not change. -/
theorem find?_updateWhere_except (t : Table key) (spared : Key → Bool) (changes : Row → Bool)
    (f : Row → Row) (keeps : ∀ row, key (f row) = key row)
    (idle : ∀ row, changes row = false → f row = row) (k : Key) :
    (t.updateWhere (fun row => !spared (key row) && changes row) f keeps).find? k =
      if spared k then t.find? k else (t.find? k).map f := by
  rw [find?_updateWhere]
  cases found : t.find? k with
  | none => simp
  | some row =>
      have keyed : key row = k := key_of_find? found
      cases kept : spared k with
      | true => simp [keyed,kept]
      | false =>
          cases changed : changes row with
          | true => simp [keyed,kept,changed]
          | false => simp [keyed,kept,changed,idle row changed]

theorem find?_modify (t : Table key) (k other : Key) (f : Row → Row)
    (keeps : ∀ row, key (f row) = key row) :
    (t.modify k f keeps).find? other =
      if other = k then (t.find? k).map f else t.find? other := by
  rw [modify,find?_updateWhere]
  cases found : t.find? other with
  | none =>
      by_cases same : other = k
      · subst same; simp [found]
      · simp [same]
  | some row =>
      have keyed := key_of_find? found
      by_cases same : other = k
      · subst same; simp [found,keyed]
      · simp [same,keyed]

theorem modify_of_absent {t : Table key} {k : Key} (absent : t.find? k = none) (f : Row → Row)
    (keeps : ∀ row, key (f row) = key row) : t.modify k f keeps = t := by
  have apart := (t.find?_eq_none_iff k).mp absent
  apply ext
  change t.rows.map _ = t.rows
  rw [List.map_congr_left (g := id),List.map_id]
  intro row member
  rw [if_neg (by simpa using apart row member)]
  rfl

theorem find?_deleteWhere (t : Table key) (p : Row → Bool) (k : Key) :
    (t.deleteWhere p).find? k = (t.find? k).filter fun row => !p row := by
  cases found : t.find? k with
  | none =>
      rw [find?_eq_none_iff] at found
      simp only [Option.filter_none]
      rw [find?_eq_none_iff]
      intro row member
      exact found row (List.mem_filter.mp member).1
  | some row =>
      obtain ⟨member,keyed⟩ := (t.find?_eq_some_iff k row).mp found
      by_cases dropped : p row
      · simp only [Option.filter_some,dropped,Bool.not_true,Bool.false_eq_true,if_false]
        rw [find?_eq_none_iff]
        intro other stored same
        have stored := List.mem_filter.mp stored
        rw [t.eq_of_key stored.1 member (same.trans keyed.symm)] at stored
        simp [dropped] at stored
      · simp only [Option.filter_some,dropped,Bool.not_false,if_true]
        rw [find?_eq_some_iff]
        exact ⟨List.mem_filter.mpr ⟨member,by simp [dropped]⟩,keyed⟩

end Keyed

theorem select_key [DecidableEq Key] {t : Table key} {k : Key} {row : Row}
    (found : t.find? k = some row) : (t.select fun row => decide (key row = k)) = [row] := by
  obtain ⟨member,rfl⟩ := (t.find?_eq_some_iff k row).mp found
  refine List.perm_singleton.mp ((List.perm_ext_iff_of_nodup ?_ (List.nodup_singleton row)).mpr ?_)
  · exact (List.Nodup.of_map key t.unique).filter _
  · intro other
    rw [List.mem_singleton,select,List.mem_filter,decide_eq_true_eq]
    constructor
    · rintro ⟨listed,same⟩
      exact t.eq_of_key listed member same
    · rintro rfl
      exact ⟨member,rfl⟩

theorem length_select_key [DecidableEq Key] {t : Table key} {k : Key} {row : Row}
    (found : t.find? k = some row) : (t.select fun row => decide (key row = k)).length = 1 := by
  rw [select_key found]
  rfl

theorem mem_updateWhere {t : Table key} {p : Row → Bool} {f : Row → Row}
    {keeps : ∀ row, key (f row) = key row} {row : Row} :
    row ∈ (t.updateWhere p f keeps).rows ↔
      ∃ old ∈ t.rows, row = if p old then f old else old := by
  constructor
  · intro member
    obtain ⟨old,stored,same⟩ := List.mem_map.mp member
    exact ⟨old,stored,same.symm⟩
  · rintro ⟨old,stored,rfl⟩
    exact List.mem_map.mpr ⟨old,stored,rfl⟩

theorem forall_updateWhere {t : Table key} {P : Row → Prop} (holds : ∀ row ∈ t.rows, P row)
    (p : Row → Bool) {f : Row → Row} (keeps : ∀ row, key (f row) = key row)
    (kept : ∀ row, P row → P (f row)) : ∀ row ∈ (t.updateWhere p f keeps).rows, P row := by
  intro row member
  obtain ⟨old,stored,rfl⟩ := mem_updateWhere.mp member
  split
  · exact kept old (holds old stored)
  · exact holds old stored

theorem mem_select {t : Table key} {p : Row → Bool} {row : Row} :
    row ∈ t.select p ↔ row ∈ t.rows ∧ p row := by
  simp [select]

section Totals

variable {M : Type} [AddCommMonoid M]

@[simp] theorem total_empty (weight : Row → M) : (empty : Table key).total weight = 0 := rfl

theorem total_congr {t : Table key} {left right : Row → M}
    (same : ∀ row ∈ t.rows, left row = right row) : t.total left = t.total right := by
  unfold total
  rw [List.map_congr_left same]

theorem total_add (t : Table key) (left right : Row → M) :
    t.total (fun row => left row + right row) = t.total left + t.total right := by
  simp [total,List.sum_map_add]

theorem total_insert [DecidableEq Key] {t u : Table key} {row : Row}
    (inserted : t.insert row = some u) (weight : Row → M) :
    u.total weight = t.total weight + weight row := by
  simp [total,(insert_eq_some inserted).2]

theorem total_updateWhere (t : Table key) (p : Row → Bool) (f : Row → Row)
    (keeps : ∀ row, key (f row) = key row) (weight : Row → M) :
    (t.updateWhere p f keeps).total weight =
      t.total fun row => weight (if p row then f row else row) := by
  simp [total,updateWhere,Function.comp_def]

theorem total_eq_zero {t : Table key} {weight : Row → M} (zero : ∀ row ∈ t.rows, weight row = 0) :
    t.total weight = 0 := by
  rw [total_congr zero]
  simp [total]

/-- One row's weight, and the weight of all the others. -/
theorem total_eq_except [DecidableEq Key] {t : Table key} {k : Key} {row : Row}
    (found : t.find? k = some row) (weight : Row → M) :
    t.total weight = weight row + t.total fun other => if key other = k then 0 else weight other := by
  obtain ⟨member,rfl⟩ := (t.find?_eq_some_iff k row).mp found
  obtain ⟨before,after,split⟩ := List.append_of_mem member
  have unique := t.unique
  rw [split] at unique
  simp only [List.map_append,List.map_cons,List.nodup_append,List.nodup_cons,List.mem_map,
    List.mem_cons] at unique
  obtain ⟨-,⟨absentAfter,-⟩,apart⟩ := unique
  have outside : ∀ other ∈ before ++ after, key other ≠ key row := by
    intro other place same
    rcases List.mem_append.mp place with early | late
    · exact apart (key other) ⟨other,early,rfl⟩ (key row) (.inl rfl) same
    · exact absentAfter ⟨other,late,same⟩
  have rest : ∀ rows : List Row, (∀ other ∈ rows, key other ≠ key row) →
      (rows.map fun other => if key other = key row then 0 else weight other) =
        rows.map weight := by
    intro rows distinct
    apply List.map_congr_left
    intro other place
    simp [distinct other place]
  simp only [total,split,List.map_append,List.map_cons,List.sum_append,List.sum_cons,if_true]
  rw [rest before fun other place => outside other (List.mem_append_left _ place),
    rest after fun other place => outside other (List.mem_append_right _ place)]
  simp only [zero_add]
  rw [← add_assoc,add_comm _ (weight row),add_assoc]

theorem total_modify [DecidableEq Key] {t : Table key} {k : Key} {row : Row} {f : Row → Row}
    (keeps : ∀ row, key (f row) = key row) (found : t.find? k = some row) (weight : Row → M) :
    (t.modify k f keeps).total weight + weight row = t.total weight + weight (f row) := by
  have updated : (t.modify k f keeps).find? k = some (f row) := by
    rw [find?_modify]; simp [found]
  rw [total_eq_except updated,total_eq_except found,modify,total_updateWhere]
  have others : (t.total fun other =>
      if key (if key other = k then f other else other) = k then 0
      else weight (if key other = k then f other else other)) =
      t.total fun other => if key other = k then 0 else weight other := by
    apply total_congr
    intro other _
    by_cases same : key other = k
    · simp [same,keeps]
    · simp [same]
  simp only [decide_eq_true_eq]
  rw [others]
  abel

end Totals

end Table

end Relational
