import Abacus.Library.OrderedDict

/-! Rows with surrogate ids that are written under their natural keys.
A key that no row has gets a new row under the next id, and a row that has the key is
revised under the id it has.
-/
set_option autoImplicit false

namespace Relational

/-- A column of ids that were given out in turn: no two rows share one. -/
structure Identified {Row Key : Type} {key : Row → Key} (id : Row → ℕ) (t : Table key) (next : ℕ) :
    Prop where
  below : ∀ row ∈ t.rows, id row < next
  distinct : ∀ left ∈ t.rows, ∀ right ∈ t.rows, id left = id right → left = right

/-- How a row is created under an id, and how it is revised. -/
structure Upsert {Row Key : Type} (key : Row → Key) (id : Row → ℕ) (Data : Type) where
  create : Key → Data → ℕ → Row
  revise : Data → Row → Row
  key_create : ∀ k data fresh, key (create k data fresh) = k
  id_create : ∀ k data fresh, id (create k data fresh) = fresh
  key_revise : ∀ data row, key (revise data row) = key row
  id_revise : ∀ data row, id (revise data row) = id row

namespace Upsert

variable {Row Key Data : Type} [DecidableEq Key] {key : Row → Key} {id : Row → ℕ}

def written (u : Upsert key id Data) (t : Table key) (next : ℕ) (k : Key) (data : Data) : Row :=
  match t.find? k with
  | none => u.create k data next
  | some old => u.revise data old

def nextAfter (t : Table key) (next : ℕ) (k : Key) : ℕ :=
  if (t.find? k).isNone then next + 1 else next

/-- The table, the next id, and what each entry found. -/
def all (u : Upsert key id Data) (t : Table key) (next : ℕ) :
    List (Key × Data) → Table key × ℕ × List (Data × Option Row)
  | [] => (t,next,[])
  | (k,data) :: entries =>
      let rest := u.all (t.put (u.written t next k data)) (nextAfter t next k) entries
      (rest.1,rest.2.1,(data,t.find? k) :: rest.2.2)

variable (u : Upsert key id Data)

theorem key_written (t : Table key) (next : ℕ) (k : Key) (data : Data) :
    key (u.written t next k data) = k := by
  unfold written
  cases found : t.find? k with
  | none => exact u.key_create k data next
  | some old => rw [u.key_revise,Table.key_of_find? found]

theorem find?_put_written (t : Table key) (next : ℕ) (k other : Key) (data : Data) :
    (t.put (u.written t next k data)).find? other =
      if k = other then some (u.written t next k data) else t.find? other := by
  rw [Table.find?_put,u.key_written]

theorem next_le (t : Table key) (next : ℕ) (k : Key) : next ≤ nextAfter t next k := by
  unfold nextAfter
  split <;> omega

/-- What creating and revising establish of a row holds of all rows. -/
theorem forall_all {P : Row → Prop} (t : Table key) (next : ℕ) {entries : List (Key × Data)}
    (holds : ∀ row ∈ t.rows, P row)
    (created : ∀ entry ∈ entries, ∀ fresh, P (u.create entry.1 entry.2 fresh))
    (revised : ∀ entry ∈ entries, ∀ row, P row → P (u.revise entry.2 row)) :
    ∀ row ∈ (u.all t next entries).1.rows, P row := by
  induction entries generalizing t next with
  | nil => exact holds
  | cons entry entries ih =>
      rw [List.forall_mem_cons] at created revised
      have new : P (u.written t next entry.1 entry.2) := by
        unfold written
        cases found : t.find? entry.1 with
        | none => exact created.1 next
        | some old => exact revised.1 old (holds old (Table.mem_of_find? found))
      exact ih _ _ (Table.forall_put holds new) created.2 revised.2

/-- A key that no entry has is left alone. -/
theorem find?_all_of_absent (t : Table key) (next : ℕ) {entries : List (Key × Data)} {k : Key}
    (absent : k ∉ entries.map Prod.fst) : (u.all t next entries).1.find? k = t.find? k := by
  induction entries generalizing t next with
  | nil => rfl
  | cons entry entries ih =>
      rw [List.map_cons,List.mem_cons,not_or] at absent
      rw [all,ih _ _ absent.2,find?_put_written,if_neg (Ne.symm absent.1)]

/-- Under the key of an entry is the row that the entry writes over the one before. -/
theorem find?_all_of_mem (t : Table key) (next : ℕ) {entries : List (Key × Data)}
    (distinct : (entries.map Prod.fst).Nodup) {k : Key} {data : Data} (listed : (k,data) ∈ entries) :
    ∃ fresh, next ≤ fresh ∧ (u.all t next entries).1.find? k = some (u.written t fresh k data) := by
  induction entries generalizing t next with
  | nil => cases listed
  | cons entry entries ih =>
      rw [List.map_cons,List.nodup_cons] at distinct
      rcases List.mem_cons.mp listed with rfl | listed
      · refine ⟨next,le_rfl,?_⟩
        rw [all,find?_all_of_absent u _ _ distinct.1,find?_put_written,if_pos rfl]
      · have apart : entry.1 ≠ k := fun same =>
          distinct.1 (same ▸ List.mem_map_of_mem (f := Prod.fst) listed)
        obtain ⟨fresh,later,found⟩ :=
          ih (t.put (u.written t next entry.1 entry.2)) (nextAfter t next entry.1) distinct.2 listed
        refine ⟨fresh,(next_le t next entry.1).trans later,?_⟩
        rw [all,found,written,find?_put_written,if_neg apart]
        rfl

/-- Entries with distinct keys find what was there before. -/
theorem found_all (t : Table key) (next : ℕ) {entries : List (Key × Data)}
    (distinct : (entries.map Prod.fst).Nodup) :
    (u.all t next entries).2.2 = entries.map fun entry => (entry.2,t.find? entry.1) := by
  induction entries generalizing t next with
  | nil => rfl
  | cons entry entries ih =>
      rw [List.map_cons,List.nodup_cons] at distinct
      have later : (entries.map fun other =>
            (other.2,(t.put (u.written t next entry.1 entry.2)).find? other.1)) =
          entries.map fun other => (other.2,t.find? other.1) := by
        apply List.map_congr_left
        intro other member
        have apart : entry.1 ≠ other.1 := fun same =>
          distinct.1 (same ▸ List.mem_map_of_mem member)
        rw [find?_put_written,if_neg apart]
      rw [all]
      dsimp only
      rw [ih _ _ distinct.2,later,List.map_cons]

/-- Rows that no entry is about stay as they are, and in their order. -/
theorem filter_all (t : Table key) (next : ℕ) {entries : List (Key × Data)} (p : Row → Bool)
    (unselected : ∀ row, key row ∈ entries.map Prod.fst → p row = false) :
    (u.all t next entries).1.rows.filter p = t.rows.filter p := by
  induction entries generalizing t next with
  | nil => rfl
  | cons entry entries ih =>
      rw [all]
      dsimp only
      rw [ih,Table.filter_put]
      · intro row same
        rw [u.key_written] at same
        exact unselected row (List.mem_cons.mpr (.inl same))
      · intro row member
        exact unselected row (List.mem_cons_of_mem _ member)

/-- A row that was there keeps its id. -/
theorem written_of_found {t : Table key} {k : Key} {old : Row} (found : t.find? k = some old)
    (next : ℕ) (data : Data) : u.written t next k data = u.revise data old := by
  rw [written,found]

theorem written_of_absent {t : Table key} {k : Key} (absent : t.find? k = none) (next : ℕ)
    (data : Data) : u.written t next k data = u.create k data next := by
  rw [written,absent]

/-- Entries that their rows have already taken in change nothing. -/
theorem all_of_settled (t : Table key) (next : ℕ) {entries : List (Key × Data)}
    (settled : ∀ entry ∈ entries, ∃ row, t.find? entry.1 = some row ∧ u.revise entry.2 row = row) :
    u.all t next entries = (t,next,entries.map fun entry => (entry.2,t.find? entry.1)) := by
  induction entries with
  | nil => rfl
  | cons entry entries ih =>
      rw [List.forall_mem_cons] at settled
      obtain ⟨⟨row,found,same⟩,others⟩ := settled
      have keyed : key row = entry.1 := Table.key_of_find? found
      have kept : t.put row = t := Table.put_of_find? (by rw [keyed,found])
      have later : nextAfter t next entry.1 = next := by simp [nextAfter,found]
      rw [all,u.written_of_found found,same,kept,later,ih others,List.map_cons]

theorem kept_all (t : Table key) (next : ℕ) {entries : List (Key × Data)}
    (distinct : (entries.map Prod.fst).Nodup) {old : Row} {k : Key} (found : t.find? k = some old) :
    ∃ row, (u.all t next entries).1.find? k = some row ∧ id row = id old := by
  by_cases listed : k ∈ entries.map Prod.fst
  · obtain ⟨entry,member,rfl⟩ := List.mem_map.mp listed
    obtain ⟨fresh,-,after⟩ := u.find?_all_of_mem t next distinct member
    exact ⟨_,after,by rw [u.written_of_found found,u.id_revise]⟩
  · exact ⟨old,by rw [u.find?_all_of_absent t next listed,found],rfl⟩

theorem next_all (t : Table key) (next : ℕ) (entries : List (Key × Data)) :
    next ≤ (u.all t next entries).2.1 := by
  induction entries generalizing t next with
  | nil => exact le_rfl
  | cons entry entries ih =>
      rw [all]
      exact (next_le t next entry.1).trans (ih _ _)

end Upsert

section Identified

variable {Row Key Data : Type} {key : Row → Key} {id : Row → ℕ} {t : Table key} {next : ℕ}

theorem Identified.empty (next : ℕ) : Identified id (Table.empty : Table key) next := by
  constructor
  · simp
  · simp

theorem Identified.mono (identified : Identified id t next) {later : ℕ} (le : next ≤ later) :
    Identified id t later :=
  ⟨fun row stored => (identified.below row stored).trans_le le,identified.distinct⟩

/-- Two rows are the same when their ids are. -/
theorem Identified.find?_id (identified : Identified id t next) {row : Row} (stored : row ∈ t.rows) :
    (t.rows.find? fun other => id other = id row) = some row := by
  cases found : t.rows.find? fun other => id other = id row with
  | none =>
      have absent := List.find?_eq_none.mp found row stored
      simp at absent
  | some other =>
      have same : id other = id row := by simpa using List.find?_some found
      rw [identified.distinct other (List.mem_of_find?_eq_some found) row stored same]

theorem Identified.updateWhere (identified : Identified id t next) (p : Row → Bool) (f : Row → Row)
    (keeps : ∀ row, key (f row) = key row) (keepsId : ∀ row, id (f row) = id row) :
    Identified id (t.updateWhere p f keeps) next := by
  constructor
  · intro row stored
    obtain ⟨old,member,rfl⟩ := Table.mem_updateWhere.mp stored
    split
    · rw [keepsId]
      exact identified.below old member
    · exact identified.below old member
  · intro left first right second same
    obtain ⟨old,member,rfl⟩ := Table.mem_updateWhere.mp first
    obtain ⟨older,place,rfl⟩ := Table.mem_updateWhere.mp second
    have ids : ∀ row, id (if p row then f row else row) = id row := by
      intro row
      split
      · exact keepsId row
      · rfl
    rw [ids,ids] at same
    rw [identified.distinct old member older place same]

variable [DecidableEq Key]

theorem Identified.put_written (identified : Identified id t next) (u : Upsert key id Data) (k : Key)
    (data : Data) :
    Identified id (t.put (u.written t next k data)) (Upsert.nextAfter t next k) := by
  cases found : t.find? k with
  | none =>
      have created : u.written t next k data = u.create k data next := by
        rw [Upsert.written,found]
      have after : Upsert.nextAfter t next k = next + 1 := by simp [Upsert.nextAfter,found]
      rw [created,after]
      constructor
      · intro row stored
        rcases Table.mem_put.mp stored with rfl | ⟨old,-⟩
        · rw [u.id_create]
          exact Nat.lt_succ_self next
        · exact (identified.below row old).trans (Nat.lt_succ_self next)
      · intro left first right second same
        rcases Table.mem_put.mp first with rfl | ⟨old,-⟩ <;>
          rcases Table.mem_put.mp second with rfl | ⟨older,-⟩
        · rfl
        · rw [u.id_create] at same
          exact absurd same (identified.below right older).ne'
        · rw [u.id_create] at same
          exact absurd same (identified.below left old).ne
        · exact identified.distinct left old right older same
  | some old =>
      have revised : u.written t next k data = u.revise data old := by rw [Upsert.written,found]
      have after : Upsert.nextAfter t next k = next := by simp [Upsert.nextAfter,found]
      have kept := Table.mem_of_find? found
      rw [revised,after]
      constructor
      · intro row stored
        rcases Table.mem_put.mp stored with rfl | ⟨other,-⟩
        · rw [u.id_revise]
          exact identified.below old kept
        · exact identified.below row other
      · intro left first right second same
        rcases Table.mem_put.mp first with rfl | ⟨other,apart⟩ <;>
          rcases Table.mem_put.mp second with rfl | ⟨another,separate⟩
        · rfl
        · rw [u.id_revise] at same
          rw [u.key_revise,← identified.distinct old kept right another same] at separate
          exact absurd rfl separate
        · rw [u.id_revise] at same
          rw [u.key_revise,identified.distinct left other old kept same] at apart
          exact absurd rfl apart
        · exact identified.distinct left other right another same

theorem Identified.all (identified : Identified id t next) (u : Upsert key id Data)
    (entries : List (Key × Data)) :
    Identified id (u.all t next entries).1 (u.all t next entries).2.1 := by
  induction entries generalizing t next with
  | nil => exact identified
  | cons entry entries ih =>
      rw [Upsert.all]
      exact ih (identified.put_written u entry.1 entry.2)

end Identified

section Attached

variable {Key Data Found : Type}

def attachAll (lookup : Data → Option Found) : List (Key × Data) → Option (List (Key × Data × Found))
  | [] => some []
  | (k,data) :: entries =>
      (lookup data).bind fun found =>
        (attachAll lookup entries).map fun rest => (k,data,found) :: rest

theorem attachAll_eq_some {lookup : Data → Option Found} {entries : List (Key × Data)}
    {attached : List (Key × Data × Found)} (done : attachAll lookup entries = some attached) :
    (attached.map fun entry => (entry.1,entry.2.1)) = entries ∧
      ∀ entry ∈ attached, lookup entry.2.1 = some entry.2.2 := by
  induction entries generalizing attached with
  | nil => cases done; simp
  | cons entry entries ih =>
      obtain ⟨found,first,rest⟩ := Option.bind_eq_some_iff.mp done
      obtain ⟨others,later,rfl⟩ := Option.map_eq_some_iff.mp rest
      obtain ⟨same,looked⟩ := ih later
      refine ⟨by simp [same],?_⟩
      intro other member
      rcases List.mem_cons.mp member with rfl | member
      · exact first
      · exact looked other member

theorem attachAll_keys {lookup : Data → Option Found} {entries : List (Key × Data)}
    {attached : List (Key × Data × Found)} (done : attachAll lookup entries = some attached) :
    attached.map Prod.fst = entries.map Prod.fst := by
  rw [← (attachAll_eq_some done).1,List.map_map]
  rfl

theorem mem_attachAll {lookup : Data → Option Found} {entries : List (Key × Data)}
    {attached : List (Key × Data × Found)} (done : attachAll lookup entries = some attached)
    {k : Key} {data : Data} (listed : (k,data) ∈ entries) :
    ∃ found, (k,data,found) ∈ attached ∧ lookup data = some found := by
  obtain ⟨same,looked⟩ := attachAll_eq_some done
  rw [← same] at listed
  obtain ⟨⟨other,value,found⟩,member,equal⟩ := List.mem_map.mp listed
  cases equal
  exact ⟨found,member,looked _ member⟩

/-- An attached entry is an entry with what it refers to. -/
theorem of_mem_attachAll {lookup : Data → Option Found} {entries : List (Key × Data)}
    {attached : List (Key × Data × Found)} (done : attachAll lookup entries = some attached)
    {k : Key} {data : Data} {found : Found} (member : (k,data,found) ∈ attached) :
    (k,data) ∈ entries ∧ lookup data = some found := by
  obtain ⟨same,looked⟩ := attachAll_eq_some done
  refine ⟨?_,looked _ member⟩
  rw [← same]
  exact List.mem_map.mpr ⟨_,member,rfl⟩

theorem attachAll_of_found {lookup : Data → Option Found} {entries : List (Key × Data)}
    (found : ∀ entry ∈ entries, ∃ value, lookup entry.2 = some value) :
    ∃ attached, attachAll lookup entries = some attached := by
  induction entries with
  | nil => exact ⟨[],rfl⟩
  | cons entry entries ih =>
      obtain ⟨value,first⟩ := found entry (List.mem_cons_self ..)
      obtain ⟨rest,later⟩ := ih fun other member => found other (List.mem_cons_of_mem _ member)
      exact ⟨_,by rw [attachAll,first,Option.bind_some,later,Option.map_some]⟩

end Attached

end Relational
