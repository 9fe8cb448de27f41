import Abacus.Library.OrderedDict

/-! Caches that drop their least recently used entry, and undoing an access to one of them.
An access moves a key to the end and may drop the entry at the front. Restoring these two entries
undoes the access, apart from the place of the key itself.
-/
set_option autoImplicit false

namespace Relational

namespace OrderedDict

variable {Key Value : Type} [DecidableEq Key] {dict after : OrderedDict Key Value} {k : Key}
  {value : Value} {capacity : ℕ}

section Rows

def others (dict : OrderedDict Key Value) (k : Key) : List (Key × Value) :=
  dict.rows.filter fun entry => entry.1 ≠ k

theorem filter_key (found : dict.get? k = some value) :
    (dict.rows.filter fun entry => entry.1 = k) = [(k,value)] := by
  obtain ⟨entry,stored,rfl⟩ := Option.map_eq_some_iff.mp found
  have keyed : entry.1 = k := Table.key_of_find? stored
  subst keyed
  exact Table.select_key stored

theorem others_of_absent (absent : dict.get? k = none) : dict.others k = dict.rows := by
  rw [others,List.filter_eq_self]
  intro entry member
  have missing : dict.find? k = none := (dict.get?_eq_none_iff k).mp absent
  exact decide_eq_true ((dict.find?_eq_none_iff k).mp missing entry member)

@[simp] theorem others_others : (dict.others k).filter (fun entry => entry.1 ≠ k) = dict.others k := by
  rw [others,List.filter_filter]
  simp

@[simp] theorem others_set : (dict.set k value).others k = dict.others k :=
  Table.filter_put dict (k,value) _ fun _ same => decide_eq_false (not_not.mpr same)

@[simp] theorem rows_erase : (dict.erase k).rows = dict.others k := by
  simp [erase,others,Table.deleteWhere]

@[simp] theorem others_erase : (dict.erase k).others k = dict.others k := by
  rw [others,rows_erase,others_others]

@[simp] theorem others_moveToEnd : (dict.moveToEnd k).others k = dict.others k := by
  rw [others,moveToEnd,List.filter_append]
  simp [others,List.filter_filter]

theorem rows_moveToEnd (found : dict.get? k = some value) :
    (dict.moveToEnd k).rows = dict.others k ++ [(k,value)] := by
  change dict.others k ++ dict.rows.filter _ = _
  rw [filter_key found]

theorem moveToEnd_of_absent (absent : dict.get? k = none) : dict.moveToEnd k = dict := by
  have missing : (dict.rows.filter fun entry => entry.1 = k) = [] := by
    rw [List.filter_eq_nil_iff]
    intro entry member
    have unfound : dict.find? k = none := (dict.get?_eq_none_iff k).mp absent
    simpa using (dict.find?_eq_none_iff k).mp unfound entry member
  apply Table.ext
  change dict.others k ++ dict.rows.filter _ = _
  rw [missing,List.append_nil,others_of_absent absent]

theorem get?_set_self : (dict.set k value).get? k = some value := by
  rw [get?_set,if_pos rfl]

theorem rows_touch : ((dict.set k value).moveToEnd k).rows = dict.others k ++ [(k,value)] := by
  rw [rows_moveToEnd get?_set_self,others_set]

theorem rows_front : ((dict.set k value).moveToFront k).rows = (k,value) :: dict.others k := by
  change (dict.set k value).rows.filter _ ++ (dict.set k value).others k = _
  rw [filter_key get?_set_self,others_set]
  rfl

end Rows

section Access

theorem rows_set_of_absent (absent : dict.get? k = none) :
    (dict.set k value).rows = dict.rows ++ [(k,value)] := by
  have unfound : dict.find? k = none := (dict.get?_eq_none_iff k).mp absent
  unfold set Table.put
  cases inserted : dict.insert (k,value) with
  | some extended => exact (Table.insert_eq_some inserted).2
  | none =>
      obtain ⟨old,found⟩ := Table.insert_eq_none inserted
      rw [unfound] at found
      cases found

theorem rows_set_of_present {old : Value} (found : dict.get? k = some old) :
    (dict.set k value).rows = dict.rows.map fun entry => if entry.1 = k then (k,value) else entry := by
  unfold set Table.put
  cases inserted : dict.insert (k,value) with
  | some extended =>
      have absent : dict.get? k = none :=
        (dict.get?_eq_none_iff k).mpr (Table.insert_eq_some inserted).1
      rw [absent] at found
      cases found
  | none => rfl

theorem set_of_get? (found : dict.get? k = some value) : dict.set k value = dict := by
  obtain ⟨entry,stored,rfl⟩ := Option.map_eq_some_iff.mp found
  have keyed : entry.1 = k := Table.key_of_find? stored
  subst keyed
  exact Table.put_of_find? stored

/-- Writing the last entry again keeps its place. -/
theorem set_touch (old : Value) :
    ((dict.set k old).moveToEnd k).set k value = (dict.set k value).moveToEnd k := by
  apply Table.ext
  have found : ((dict.set k old).moveToEnd k).get? k = some old := by
    rw [get?_moveToEnd,get?_set_self]
  have same : ((dict.others k).map fun entry => if entry.1 = k then (k,value) else entry) =
      dict.others k := by
    rw [List.map_congr_left (g := id),List.map_id]
    intro entry member
    have apart := (List.mem_filter.mp member).2
    exact if_neg (of_decide_eq_true apart)
  rw [rows_set_of_present found,rows_touch,rows_touch,List.map_append,same]
  simp

/-- Write a key at the end. A cache that has become too large drops the entry at its front. -/
def access (dict : OrderedDict Key Value) (capacity : ℕ) (k : Key) (value : Value) :
    OrderedDict Key Value :=
  let touched := (dict.set k value).moveToEnd k
  if capacity < touched.rows.length then touched.popFirst else touched

theorem length_others_le : (dict.others k).length ≤ dict.rows.length := List.length_filter_le ..

theorem length_others (found : dict.get? k = some value) :
    (dict.others k).length + 1 = dict.rows.length := by
  have same : (dict.others k ++ dict.rows.filter fun entry => entry.1 = k).length =
      dict.rows.length := (partition_perm dict.rows k).length_eq
  rw [filter_key found,List.length_append] at same
  exact same

theorem length_access (bounded : dict.rows.length ≤ capacity) :
    (dict.access capacity k value).rows.length ≤ capacity := by
  have fewer : (dict.others k).length ≤ dict.rows.length := length_others_le
  unfold access
  dsimp only
  split
  · rename_i large
    rw [rows_touch,List.length_append] at large
    rw [popFirst,List.length_tail,rows_touch,List.length_append]
    simp only [List.length_singleton]
    omega
  · rename_i small
    exact not_lt.mp small

/-- An access does not depend on where its own key was. -/
theorem access_congr (same : dict.others k = after.others k) :
    dict.access capacity k value = after.access capacity k value := by
  have touched : (dict.set k value).moveToEnd k = (after.set k value).moveToEnd k := by
    apply Table.ext
    rw [rows_touch,rows_touch,same]
  rw [access,access,touched]

theorem access_of_present {old : Value} (bounded : dict.rows.length ≤ capacity)
    (found : dict.get? k = some old) :
    dict.access capacity k value = (dict.set k value).moveToEnd k := by
  rw [access,if_neg]
  rw [rows_touch,List.length_append,not_lt]
  have same : (dict.others k).length + 1 = dict.rows.length := length_others found
  exact same.le.trans bounded

/-- An access to a new key adds it at the end, and may drop the entry at the front. -/
theorem others_access_of_absent (absent : dict.get? k = none) :
    (dict.access capacity k value).others k = dict.rows ∨
      (dict.access capacity k value).others k = dict.rows.tail := by
  have rows : dict.others k = dict.rows := others_of_absent absent
  have filtered : dict.rows.filter (fun entry => entry.1 ≠ k) = dict.rows := rows
  unfold access
  dsimp only
  split
  · rw [others,popFirst]
    dsimp only
    rw [rows_touch,rows]
    cases stored : dict.rows with
    | nil => simp
    | cons entry entries =>
        right
        rw [stored] at filtered
        have later : entries.filter (fun entry => entry.1 ≠ k) = entries :=
          List.filter_eq_self.mpr fun other member =>
            List.filter_eq_self.mp filtered other (List.mem_cons_of_mem _ member)
        change (entries ++ [(k,value)]).filter (fun entry => entry.1 ≠ k) = entries
        rw [List.filter_append,later]
        simp
  · left
    rw [others,rows_touch,rows,List.filter_append,filtered]
    simp

end Access

section Undo

/-- Put back the entry of one key and the entry at the front. -/
def undo (after : OrderedDict Key Value) (k : Key) (before : Option Value)
    (oldest : Option (Key × Value)) : OrderedDict Key Value :=
  let restored := match before with
    | none => after.erase k
    | some value => after.set k value
  match oldest with
  | none => restored
  | some (oldestKey,oldestValue) => (restored.set oldestKey oldestValue).moveToFront oldestKey

theorem others_first {entry : Key × Value} {entries : List (Key × Value)}
    (stored : dict.rows = entry :: entries) : dict.others entry.1 = entries := by
  have unique := dict.unique
  rw [stored,List.map_cons,List.nodup_cons] at unique
  have later : entries.filter (fun other => other.1 ≠ entry.1) = entries := by
    rw [List.filter_eq_self]
    intro other member
    exact decide_eq_true fun same => unique.1 (same ▸ List.mem_map_of_mem member)
  rw [others,stored,List.filter_cons_of_neg (by simp),later]

/-- The front entry comes back to the front of what is left of the cache. -/
theorem undo_none (kept : after.others k = dict.rows ∨ after.others k = dict.rows.tail) :
    after.undo k none dict.first? = dict := by
  apply Table.ext
  unfold undo first?
  cases stored : dict.rows with
  | nil => rcases kept with kept | kept <;> simp [kept,stored]
  | cons entry entries =>
      have first : dict.others entry.1 = entries := others_first stored
      rw [others,stored] at first
      dsimp only [List.head?_cons]
      rw [rows_front,others,rows_erase]
      rcases kept with kept | kept
      · rw [kept,stored,first]
      · rw [kept,stored,List.tail_cons]
        rw [List.filter_cons_of_neg (by simp)] at first
        rw [first]

/-- An erased or accessed key comes back at its place or at the end. -/
theorem undo_some (found : dict.get? k = some value)
    (kept : after.set k value = dict ∨ after.set k value = dict.moveToEnd k) :
    after.undo k (some value) dict.first? = dict ∨
      after.undo k (some value) dict.first? = dict.moveToEnd k := by
  obtain ⟨entry,entries,stored⟩ : ∃ entry entries, dict.rows = entry :: entries := by
    apply List.exists_cons_of_ne_nil
    intro empty
    have member := (dict.get?_eq_some_iff k value).mp found
    rw [empty] at member
    cases member
  have first : dict.others entry.1 = entries := others_first stored
  unfold undo first?
  rw [stored]
  dsimp only [List.head?_cons]
  rcases kept with kept | kept
  · left
    apply Table.ext
    rw [kept,rows_front,first,stored]
  · rw [kept]
    by_cases same : entry.1 = k
    · left
      apply Table.ext
      rw [rows_front,same,others_moveToEnd,← same,first,stored]
    · right
      apply Table.ext
      have apart : (dict.others k ++ [(k,value)]).filter (fun other => other.1 ≠ entry.1) =
          entries.filter (fun other => other.1 ≠ k) ++ [(k,value)] := by
        rw [List.filter_append,others,List.filter_filter]
        have swapped : (dict.rows.filter fun other =>
            decide (other.1 ≠ entry.1) && decide (other.1 ≠ k)) =
              (dict.others entry.1).filter fun other => other.1 ≠ k := by
          rw [others,List.filter_filter]
          exact List.filter_congr fun other _ => Bool.and_comm _ _
        rw [swapped,first]
        simp [Ne.symm same]
      rw [rows_front,others,rows_moveToEnd found,apart,others,stored,
        List.filter_cons_of_pos (by simpa using same)]
      rfl

/-- Undoing nothing changes nothing. -/
theorem undo_self : dict.undo k (dict.get? k) dict.first? = dict := by
  cases found : dict.get? k with
  | none => exact undo_none (.inl (others_of_absent found))
  | some value =>
      unfold undo first?
      dsimp only
      rw [set_of_get? found]
      cases stored : dict.rows with
      | nil => rfl
      | cons entry entries =>
          apply Table.ext
          dsimp only [List.head?_cons]
          rw [rows_front,others_first stored,stored]

theorem undo_erase : (dict.erase k).undo k (dict.get? k) dict.first? = dict ∨
    (dict.erase k).undo k (dict.get? k) dict.first? = dict.moveToEnd k := by
  cases found : dict.get? k with
  | none =>
      left
      exact undo_none (.inl (others_erase.trans (others_of_absent found)))
  | some value =>
      apply undo_some found
      right
      apply Table.ext
      have gone : (dict.erase k).get? k = none := by rw [get?_erase,if_pos rfl]
      rw [rows_set_of_absent gone,rows_erase,rows_moveToEnd found]

theorem undo_access (bounded : dict.rows.length ≤ capacity) :
    (dict.access capacity k value).undo k (dict.get? k) dict.first? = dict ∨
      (dict.access capacity k value).undo k (dict.get? k) dict.first? = dict.moveToEnd k := by
  cases found : dict.get? k with
  | none =>
      left
      exact undo_none (others_access_of_absent found)
  | some old =>
      apply undo_some found
      right
      rw [access_of_present bounded found,set_touch,set_of_get? found]

theorem length_moveToEnd : (dict.moveToEnd k).rows.length = dict.rows.length :=
  (partition_perm dict.rows k).length_eq

theorem moveToEnd_moveToEnd : (dict.moveToEnd k).moveToEnd k = dict.moveToEnd k := by
  cases found : dict.get? k with
  | none => rw [moveToEnd_of_absent found,moveToEnd_of_absent found]
  | some value =>
      have moved : (dict.moveToEnd k).get? k = some value := by rw [get?_moveToEnd,found]
      apply Table.ext
      rw [rows_moveToEnd moved,rows_moveToEnd found,others_moveToEnd]

end Undo

end OrderedDict

end Relational
