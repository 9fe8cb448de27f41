import Mathlib.Data.List.Perm.Basic
import Mathlib.Data.List.Induction
import Abacus.Library.Table

/-! Dictionaries that remember the order of insertion.
Setting a present key keeps its position, a new key goes to the end, and entries can
be moved to either end or dropped from the front, as in an LRU cache.
-/
set_option autoImplicit false

namespace Relational

abbrev OrderedDict (Key Value : Type) := Table (Prod.fst : Key × Value → Key)

namespace OrderedDict

variable {Key Value : Type} [DecidableEq Key]

def get? (dict : OrderedDict Key Value) (k : Key) : Option Value := (dict.find? k).map Prod.snd

def contains (dict : OrderedDict Key Value) (k : Key) : Bool := (dict.find? k).isSome

def keys (dict : OrderedDict Key Value) : List Key := dict.rows.map Prod.fst

def values (dict : OrderedDict Key Value) : List Value := dict.rows.map Prod.snd

def set (dict : OrderedDict Key Value) (k : Key) (value : Value) : OrderedDict Key Value :=
  dict.put (k,value)

/-- Append to the list under a key, as `defaultdict(list)` does. -/
def push {Element : Type} (dict : OrderedDict Key (List Element)) (k : Key) (element : Element) :
    OrderedDict Key (List Element) :=
  dict.set k ((dict.get? k).getD [] ++ [element])

def groupBy {Element : Type} (keyOf : Element → Key) (elements : List Element) :
    OrderedDict Key (List Element) :=
  elements.foldl (fun grouped element => grouped.push (keyOf element) element) Table.empty

/-- `{key(element): element for element in elements}`. -/
def ofList {Element : Type} (keyOf : Element → Key) (elements : List Element) :
    OrderedDict Key Element :=
  elements.foldl (fun dict element => dict.set (keyOf element) element) Table.empty

def setDefault (dict : OrderedDict Key Value) (k : Key) (value : Value) : OrderedDict Key Value :=
  if dict.contains k then dict else dict.set k value

/-- `setdefault` of every element under its key: the first one stays. -/
def firstOf {Element : Type} (keyOf : Element → Key) (elements : List Element) :
    OrderedDict Key Element :=
  elements.foldl (fun dict element => dict.setDefault (keyOf element) element) Table.empty

def erase (dict : OrderedDict Key Value) (k : Key) : OrderedDict Key Value :=
  dict.deleteWhere fun entry => entry.1 = k

theorem partition_perm (entries : List (Key × Value)) (k : Key) :
    (entries.filter (fun entry => entry.1 ≠ k) ++ entries.filter fun entry => entry.1 = k).Perm
      entries := by
  have split := List.filter_append_perm (fun entry : Key × Value => decide (entry.1 ≠ k)) entries
  simpa using split

def moveToEnd (dict : OrderedDict Key Value) (k : Key) : OrderedDict Key Value where
  rows := dict.rows.filter (fun entry => entry.1 ≠ k) ++ dict.rows.filter fun entry => entry.1 = k
  unique := ((partition_perm dict.rows k).map Prod.fst).nodup_iff.mpr dict.unique

def moveToFront (dict : OrderedDict Key Value) (k : Key) : OrderedDict Key Value where
  rows := (dict.rows.filter fun entry => entry.1 = k) ++ dict.rows.filter fun entry => entry.1 ≠ k
  unique := ((List.perm_append_comm.trans (partition_perm dict.rows k)).map Prod.fst).nodup_iff.mpr
    dict.unique

def popFirst (dict : OrderedDict Key Value) : OrderedDict Key Value where
  rows := dict.rows.tail
  unique := dict.unique.sublist ((List.tail_sublist dict.rows).map Prod.fst)

def first? (dict : OrderedDict Key Value) : Option (Key × Value) := dict.rows.head?

theorem get?_eq_some_iff (dict : OrderedDict Key Value) (k : Key) (value : Value) :
    dict.get? k = some value ↔ (k,value) ∈ dict.rows := by
  constructor
  · intro found
    obtain ⟨entry,located,rfl⟩ := Option.map_eq_some_iff.mp found
    obtain ⟨member,rfl⟩ := (dict.find?_eq_some_iff k entry).mp located
    exact member
  · intro member
    have located : dict.find? k = some (k,value) := Table.find?_of_mem member
    simp [get?,located]

theorem get?_eq_none_iff (dict : OrderedDict Key Value) (k : Key) :
    dict.get? k = none ↔ dict.find? k = none := by
  simp [get?]

@[simp] theorem get?_empty (k : Key) :
    OrderedDict.get? (Table.empty : OrderedDict Key Value) k = none := rfl

theorem get?_of_perm {left right : OrderedDict Key Value} (same : left.rows.Perm right.rows)
    (k : Key) : left.get? k = right.get? k := by
  apply Option.ext
  intro value
  rw [get?_eq_some_iff,get?_eq_some_iff,same.mem_iff]

theorem get?_set (dict : OrderedDict Key Value) (k other : Key) (value : Value) :
    (dict.set k value).get? other = if k = other then some value else dict.get? other := by
  simp only [get?,set,Table.find?_put]
  by_cases same : k = other <;> simp [same]

theorem get?_groupBy {Element : Type} (keyOf : Element → Key) (elements : List Element) (k : Key) :
    (groupBy keyOf elements).get? k =
      if elements.any fun element => keyOf element = k then
        some (elements.filter fun element => keyOf element = k)
      else none := by
  unfold groupBy
  induction elements using List.reverseRecOn with
  | nil => rfl
  | append_singleton elements element ih =>
      rw [List.foldl_append,List.foldl_cons,List.foldl_nil,push,get?_set]
      by_cases same : keyOf element = k
      · subst same
        rw [ih]
        by_cases earlier : elements.any fun other => keyOf other = keyOf element
        · simp [earlier]
        · have absent : (elements.filter fun other => keyOf other = keyOf element) = [] := by
            simpa using earlier
          simp [earlier,absent]
      · simp [same,ih]

theorem mem_groupBy {Element : Type} {keyOf : Element → Key} {elements : List Element}
    {k : Key} {group : List Element} (member : (k,group) ∈ (groupBy keyOf elements).rows) :
    group = (elements.filter fun element => keyOf element = k) ∧ group ≠ [] := by
  have found := (get?_eq_some_iff _ _ _).mpr member
  rw [get?_groupBy] at found
  split at found
  · rename_i present
    cases found
    refine ⟨rfl,?_⟩
    simpa using present
  · cases found

theorem get?_ofList {Element : Type} (keyOf : Element → Key) (elements : List Element) (k : Key) :
    (ofList keyOf elements).get? k = elements.reverse.find? fun element => keyOf element = k := by
  unfold ofList
  induction elements using List.reverseRecOn with
  | nil => rfl
  | append_singleton elements element ih =>
      rw [List.foldl_append,List.foldl_cons,List.foldl_nil,get?_set,ih]
      by_cases same : keyOf element = k <;> simp [same]

/-- Every value of `ofList` is an element filed under its own key. -/
theorem mem_ofList {Element : Type} {keyOf : Element → Key} {elements : List Element}
    {entry : Key × Element} (member : entry ∈ (ofList keyOf elements).rows) :
    entry.1 = keyOf entry.2 ∧ entry.2 ∈ elements := by
  have found := (get?_eq_some_iff _ entry.1 entry.2).mpr member
  rw [get?_ofList] at found
  refine ⟨?_,List.mem_reverse.mp (List.mem_of_find?_eq_some found)⟩
  simpa [eq_comm] using List.find?_some found

theorem values_ofList_nodup {Element : Type} (keyOf : Element → Key) (elements : List Element) :
    ((ofList keyOf elements).values.map keyOf).Nodup := by
  have keyed : (ofList keyOf elements).values.map keyOf = (ofList keyOf elements).keys := by
    rw [values,keys,List.map_map]
    apply List.map_congr_left
    intro entry member
    exact (mem_ofList member).1.symm
  rw [keyed]
  exact (ofList keyOf elements).unique

/-- Elements with distinct keys are all kept, in their order. -/
theorem values_ofList {Element : Type} {keyOf : Element → Key} {elements : List Element}
    (distinct : (elements.map keyOf).Nodup) : (ofList keyOf elements).values = elements := by
  have rows : (ofList keyOf elements).rows = elements.map fun element => (keyOf element,element) := by
    unfold ofList
    induction elements using List.reverseRecOn with
    | nil => rfl
    | append_singleton elements element ih =>
        rw [List.map_append,List.nodup_append] at distinct
        have kept := ih distinct.1
        rw [List.foldl_append,List.foldl_cons,List.foldl_nil]
        have absent : (elements.foldl (fun dict element => OrderedDict.set dict (keyOf element)
            element) (Table.empty : OrderedDict Key Element)).find? (keyOf element) = none := by
          rw [Table.find?_eq_none_iff,kept]
          intro entry member same
          obtain ⟨other,place,rfl⟩ := List.mem_map.mp member
          exact distinct.2.2 _ (List.mem_map_of_mem place) (keyOf element) (by simp) same
        obtain ⟨extended,inserted⟩ := Table.insert_of_fresh _ (keyOf element,element) absent
        rw [set,Table.put,inserted]
        simp [(Table.insert_eq_some inserted).2,kept]
  simp [values,rows,Function.comp_def]

theorem get?_setDefault (dict : OrderedDict Key Value) (k other : Key) (value : Value) :
    (dict.setDefault k value).get? other =
      (dict.get? other).or (if k = other then some value else none) := by
  unfold setDefault contains
  by_cases same : k = other
  · subst same
    cases found : dict.find? k with
    | none =>
        have absent : dict.get? k = none := by rw [get?,found]; rfl
        rw [if_neg (by simp),get?_set,absent]
        rfl
    | some entry => simp [get?,found]
  · simp only [if_neg same,Option.or_none]
    split
    · rfl
    · rw [get?_set,if_neg same]

theorem get?_firstOf {Element : Type} (keyOf : Element → Key) (elements : List Element) (k : Key) :
    (firstOf keyOf elements).get? k = elements.find? fun element => keyOf element = k := by
  unfold firstOf
  induction elements using List.reverseRecOn with
  | nil => rfl
  | append_singleton elements element ih =>
      rw [List.foldl_append,List.foldl_cons,List.foldl_nil,get?_setDefault,ih,List.find?_append]
      by_cases same : keyOf element = k <;> simp [same]

theorem mem_firstOf {Element : Type} {keyOf : Element → Key} {elements : List Element}
    {entry : Key × Element} (member : entry ∈ (firstOf keyOf elements).rows) :
    entry.1 = keyOf entry.2 ∧ entry.2 ∈ elements := by
  have found := (get?_eq_some_iff _ entry.1 entry.2).mpr member
  rw [get?_firstOf] at found
  refine ⟨?_,List.mem_of_find?_eq_some found⟩
  simpa [eq_comm] using List.find?_some found

/-- Every element's key has an entry. -/
theorem exists_firstOf {Element : Type} {keyOf : Element → Key} {elements : List Element}
    {element : Element} (member : element ∈ elements) :
    ∃ first, (keyOf element,first) ∈ (firstOf keyOf elements).rows := by
  cases found : (firstOf keyOf elements).get? (keyOf element) with
  | some first => exact ⟨first,(get?_eq_some_iff _ _ _).mp found⟩
  | none =>
      rw [get?_firstOf] at found
      have absent := List.find?_eq_none.mp found element member
      simp at absent

theorem exists_ofList {Element : Type} {keyOf : Element → Key} {elements : List Element}
    {element : Element} (member : element ∈ elements) :
    ∃ last, (keyOf element,last) ∈ (ofList keyOf elements).rows := by
  cases found : (ofList keyOf elements).get? (keyOf element) with
  | some last => exact ⟨last,(get?_eq_some_iff _ _ _).mp found⟩
  | none =>
      rw [get?_ofList] at found
      have absent := List.find?_eq_none.mp found element (List.mem_reverse.mpr member)
      simp at absent

theorem contains_iff (dict : OrderedDict Key Value) (k : Key) :
    dict.contains k = true ↔ ∃ value, (k,value) ∈ dict.rows := by
  rw [contains,Option.isSome_iff_exists]
  constructor
  · rintro ⟨entry,found⟩
    obtain ⟨member,rfl⟩ := (dict.find?_eq_some_iff k entry).mp found
    exact ⟨entry.2,member⟩
  · rintro ⟨value,member⟩
    exact ⟨(k,value),Table.find?_of_mem member⟩

theorem contains_firstOf {Element : Type} {keyOf : Element → Key} {elements : List Element}
    {k : Key} : (firstOf keyOf elements).contains k = true ↔
      ∃ element ∈ elements, keyOf element = k := by
  rw [contains_iff]
  constructor
  · rintro ⟨first,member⟩
    obtain ⟨keyed,listed⟩ := mem_firstOf member
    exact ⟨first,listed,keyed.symm⟩
  · rintro ⟨element,member,rfl⟩
    exact exists_firstOf member

theorem contains_ofList {Element : Type} {keyOf : Element → Key} {elements : List Element}
    {k : Key} : (ofList keyOf elements).contains k = true ↔
      ∃ element ∈ elements, keyOf element = k := by
  rw [contains_iff]
  constructor
  · rintro ⟨last,member⟩
    obtain ⟨keyed,listed⟩ := mem_ofList member
    exact ⟨last,listed,keyed.symm⟩
  · rintro ⟨element,member,rfl⟩
    exact exists_ofList member

section MapValues

variable {Other : Type} {f : Value → Other} {dict : OrderedDict Key Value}
  {mapped : OrderedDict Key Other}

/-- The second dictionary has the same keys in the same order, with the mapped values. -/
def Maps (f : Value → Other) (dict : OrderedDict Key Value) (mapped : OrderedDict Key Other) :
    Prop :=
  mapped.rows = dict.rows.map fun entry => (entry.1,f entry.2)

theorem Maps.contains (maps : Maps f dict mapped) (k : Key) :
    mapped.contains k = dict.contains k := by
  rw [Bool.eq_iff_iff,contains_iff,contains_iff,maps]
  constructor
  · rintro ⟨value,member⟩
    obtain ⟨entry,stored,same⟩ := List.mem_map.mp member
    cases same
    exact ⟨entry.2,stored⟩
  · rintro ⟨value,member⟩
    exact ⟨f value,List.mem_map.mpr ⟨_,member,rfl⟩⟩

theorem rows_set (dict : OrderedDict Key Value) (k : Key) (value : Value) :
    (dict.set k value).rows =
      if dict.contains k then
        dict.rows.map fun entry => if entry.1 = k then (k,value) else entry
      else dict.rows ++ [(k,value)] := by
  unfold contains
  cases found : dict.find? k with
  | none =>
      rw [if_neg (by simp)]
      exact Table.rows_put_of_fresh found
  | some entry =>
      rw [set,Table.put]
      cases inserted : dict.insert (k,value) with
      | some extended =>
          have fresh := (Table.insert_eq_some inserted).1
          rw [found] at fresh
          cases fresh
      | none => rfl

theorem Maps.set (maps : Maps f dict mapped) (k : Key) (value : Value) :
    Maps f (dict.set k value) (mapped.set k (f value)) := by
  unfold Maps
  rw [rows_set,rows_set,maps.contains,maps]
  split
  · rw [List.map_map,List.map_map]
    apply List.map_congr_left
    intro entry _
    by_cases same : entry.1 = k <;> simp [same]
  · simp

theorem Maps.setDefault (maps : Maps f dict mapped) (k : Key) (value : Value) :
    Maps f (dict.setDefault k value) (mapped.setDefault k (f value)) := by
  unfold OrderedDict.setDefault
  rw [maps.contains]
  split
  · exact maps
  · exact maps.set k value

variable {Element Image : Type} {keyOf : Element → Key} {keyOfImage : Image → Key}
  {g : Element → Image}

theorem maps_firstOf (keeps : ∀ element, keyOfImage (g element) = keyOf element)
    (elements : List Element) :
    Maps g (firstOf keyOf elements) (firstOf keyOfImage (elements.map g)) := by
  unfold firstOf
  induction elements using List.reverseRecOn with
  | nil => rfl
  | append_singleton elements element ih =>
      rw [List.map_append,List.foldl_append,List.foldl_append,List.map_singleton]
      simp only [List.foldl_cons,List.foldl_nil,keeps]
      exact ih.setDefault (keyOf element) element

theorem maps_ofList (keeps : ∀ element, keyOfImage (g element) = keyOf element)
    (elements : List Element) :
    Maps g (ofList keyOf elements) (ofList keyOfImage (elements.map g)) := by
  unfold ofList
  induction elements using List.reverseRecOn with
  | nil => rfl
  | append_singleton elements element ih =>
      rw [List.map_append,List.foldl_append,List.foldl_append,List.map_singleton]
      simp only [List.foldl_cons,List.foldl_nil,keeps]
      exact ih.set (keyOf element) element

end MapValues

/-- Only the entry of a key weighs under that key. -/
theorem total_at {M : Type} [AddCommMonoid M] (dict : OrderedDict Key Value) (k : Key)
    (weight : Value → M) :
    (dict.total fun entry => if entry.1 = k then weight entry.2 else 0) =
      (dict.get? k).elim 0 weight := by
  cases found : dict.find? k with
  | none =>
      have absent := (dict.find?_eq_none_iff k).mp found
      rw [Table.total_eq_zero fun entry member => if_neg (absent entry member)]
      simp [get?,found]
  | some entry =>
      rw [Table.total_eq_except found,Table.total_eq_zero]
      · simp [get?,found,Table.key_of_find? found]
      · intro other _
        by_cases same : other.1 = k <;> simp [same]

theorem get?_erase (dict : OrderedDict Key Value) (k other : Key) :
    (dict.erase k).get? other = if k = other then none else dict.get? other := by
  simp only [get?,erase,Table.find?_deleteWhere]
  cases found : dict.find? other with
  | none => simp
  | some entry =>
      have keyed : entry.1 = other := Table.key_of_find? found
      subst keyed
      by_cases same : k = entry.1
      · simp [same]
      · simp [same,Option.filter_some,Ne.symm same]

@[simp] theorem get?_moveToEnd (dict : OrderedDict Key Value) (k other : Key) :
    (dict.moveToEnd k).get? other = dict.get? other :=
  get?_of_perm (partition_perm dict.rows k) other

@[simp] theorem get?_moveToFront (dict : OrderedDict Key Value) (k other : Key) :
    (dict.moveToFront k).get? other = dict.get? other :=
  get?_of_perm (List.perm_append_comm.trans (partition_perm dict.rows k)) other

/-- Dropping the front entry loses a key or nothing. -/
theorem get?_of_popFirst {dict : OrderedDict Key Value} {k : Key} {value : Value}
    (found : dict.popFirst.get? k = some value) : dict.get? k = some value := by
  rw [get?_eq_some_iff] at found ⊢
  exact List.mem_of_mem_tail found

theorem get?_first {dict : OrderedDict Key Value} {k : Key} {value : Value}
    (front : dict.first? = some (k,value)) : dict.get? k = some value := by
  rw [get?_eq_some_iff]
  exact List.mem_of_head? front

end OrderedDict

end Relational
