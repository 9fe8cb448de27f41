import Mathlib.Data.List.Sort
import Mathlib.Data.List.Lex
import Mathlib.Algebra.Order.Ring.Rat
import Abacus.Library.Text

/-! JSON documents as the values that Python decodes them to.
Numbers keep the form they have in Python, since `json.dumps` writes the forms apart.
Three ways to compare two documents differ in the scalars they identify, and each of them
ignores the order of the keys of an object.
-/
set_option autoImplicit false

namespace Python

/-- What `json.loads` makes of a number: an `int`, a finite `float`, or the `float` -0.0. -/
inductive NumberForm where
  | integer
  | float
  | negativeZero
deriving DecidableEq, Repr

inductive Scalar where
  | null
  | bool (value : Bool)
  | number (form : NumberForm) (value : ℚ)
  | infinity (negative : Bool)
  | string (value : Text)
deriving DecidableEq

namespace Scalar

/-- The scalar as JSON has it: a number has no form. -/
def asJson : Scalar → Scalar
  | number _ value => number .integer value
  | other => other

/-- The scalar as `==` has it: `True` is 1 and `False` is 0. -/
def asPython : Scalar → Scalar
  | bool value => number .integer (if value then 1 else 0)
  | number _ value => number .integer value
  | other => other

theorem asPython_asJson (scalar : Scalar) : scalar.asJson.asPython = scalar.asPython := by
  cases scalar <;> rfl

end Scalar

inductive Json where
  | scalar (value : Scalar)
  | array (elements : List Json)
  | object (members : List (Text × Json))

abbrev Member := Text × Json

/-- A `dict` of JSON values. -/
abbrev JsonObject := List Member

namespace Json

mutual

def decEq : (left right : Json) → Decidable (left = right)
  | scalar left, scalar right => decidable_of_iff (left = right) (by simp)
  | array left, array right => @decidable_of_iff _ (left = right) (by simp) (decEqElements left right)
  | object left, object right =>
      @decidable_of_iff _ (left = right) (by simp) (decEqMembers left right)
  | scalar _, array _ => isFalse nofun
  | scalar _, object _ => isFalse nofun
  | array _, scalar _ => isFalse nofun
  | array _, object _ => isFalse nofun
  | object _, scalar _ => isFalse nofun
  | object _, array _ => isFalse nofun

def decEqElements : (left right : List Json) → Decidable (left = right)
  | [], [] => isTrue rfl
  | [], _ :: _ => isFalse nofun
  | _ :: _, [] => isFalse nofun
  | left :: lefts, right :: rights =>
      @decidable_of_iff _ (left = right ∧ lefts = rights) (by simp)
        (@instDecidableAnd _ _ (decEq left right) (decEqElements lefts rights))

def decEqMembers : (left right : List (Text × Json)) → Decidable (left = right)
  | [], [] => isTrue rfl
  | [], _ :: _ => isFalse nofun
  | _ :: _, [] => isFalse nofun
  | (name,left) :: lefts, (other,right) :: rights =>
      @decidable_of_iff _ (name = other ∧ left = right ∧ lefts = rights) (by simp [and_assoc])
        (@instDecidableAnd _ _ inferInstance
          (@instDecidableAnd _ _ (decEq left right) (decEqMembers lefts rights)))

end

instance : DecidableEq Json := decEq

def sortMembers (members : JsonObject) : JsonObject :=
  members.insertionSort fun left right => left.1 ≤ right.1

mutual

/-- Rewrite every scalar, and sort the members of every object. -/
def normal (rewrite : Scalar → Scalar) : Json → Json
  | scalar value => scalar (rewrite value)
  | array elements => array (normalElements rewrite elements)
  | object members => object (sortMembers (normalMembers rewrite members))

def normalElements (rewrite : Scalar → Scalar) : List Json → List Json
  | [] => []
  | element :: elements => normal rewrite element :: normalElements rewrite elements

def normalMembers (rewrite : Scalar → Scalar) : List (Text × Json) → List (Text × Json)
  | [] => []
  | (name,value) :: members => (name,normal rewrite value) :: normalMembers rewrite members

end

/-- Documents with the same `json.dumps(…, sort_keys=True)`. -/
def dumps (document : Json) : Json := document.normal id

def asJson (document : Json) : Json := document.normal Scalar.asJson

/-- The document as `==` compares it. -/
def asPython (document : Json) : Json := document.normal Scalar.asPython

theorem normalMembers_eq_map (rewrite : Scalar → Scalar) (members : JsonObject) :
    normalMembers rewrite members =
      members.map fun member => (member.1,member.2.normal rewrite) := by
  induction members with
  | nil => simp [normalMembers]
  | cons member members ih => simp [normalMembers,ih]

private theorem byName_total : Std.Total fun left right : Member => left.1 ≤ right.1 :=
  ⟨fun left right => le_total left.1 right.1⟩

private theorem byName_trans : IsTrans Member fun left right => left.1 ≤ right.1 :=
  ⟨fun _ _ _ first second => le_trans first second⟩

theorem sortMembers_idem (members : JsonObject) :
    sortMembers (sortMembers members) = sortMembers members := by
  have := byName_total
  have := byName_trans
  exact List.Pairwise.insertionSort_eq (List.pairwise_insertionSort _ members)

theorem normalMembers_sortMembers (rewrite : Scalar → Scalar) (members : JsonObject) :
    normalMembers rewrite (sortMembers members) = sortMembers (normalMembers rewrite members) := by
  rw [normalMembers_eq_map,normalMembers_eq_map]
  exact List.map_insertionSort _ _ _ _ fun _ _ _ _ => Iff.rfl

mutual

/-- Normal forms compose. -/
theorem normal_normal (first second : Scalar → Scalar) : (document : Json) →
    (document.normal first).normal second = document.normal (second ∘ first)
  | scalar value => by simp [normal]
  | array elements => by simp [normal,normalElements_normalElements first second elements]
  | object members => by
      simp only [normal,normalMembers_sortMembers,sortMembers_idem,
        normalMembers_normalMembers first second members]

theorem normalElements_normalElements (first second : Scalar → Scalar) :
    (elements : List Json) → normalElements second (normalElements first elements) =
      normalElements (second ∘ first) elements
  | [] => by simp [normalElements]
  | element :: elements => by
      simp [normalElements,normal_normal first second element,
        normalElements_normalElements first second elements]

theorem normalMembers_normalMembers (first second : Scalar → Scalar) :
    (members : List (Text × Json)) → normalMembers second (normalMembers first members) =
      normalMembers (second ∘ first) members
  | [] => by simp [normalMembers]
  | (name,value) :: members => by
      simp [normalMembers,normal_normal first second value,
        normalMembers_normalMembers first second members]

end

theorem asJson_of_dumps {left right : Json} (same : left.dumps = right.dumps) :
    left.asJson = right.asJson := by
  have normal := congrArg (normal Scalar.asJson) same
  rw [dumps,dumps,normal_normal,normal_normal] at normal
  exact normal

theorem asPython_of_asJson {left right : Json} (same : left.asJson = right.asJson) :
    left.asPython = right.asPython := by
  have rewrites : Scalar.asPython ∘ Scalar.asJson = Scalar.asPython :=
    funext Scalar.asPython_asJson
  have normal := congrArg (normal Scalar.asPython) same
  rw [asJson,asJson,normal_normal,normal_normal,rewrites] at normal
  exact normal

theorem asPython_of_dumps {left right : Json} (same : left.dumps = right.dumps) :
    left.asPython = right.asPython := asPython_of_asJson (asJson_of_dumps same)

section Names

/-- Members that are the same in any order are the same if their names are, and are told apart. -/
theorem members_eq_of_perm {left right : JsonObject} (perm : left.Perm right)
    (names : left.map Prod.fst = right.map Prod.fst) (distinct : (left.map Prod.fst).Nodup) :
    left = right := by
  induction left generalizing right with
  | nil => exact (List.nil_perm.mp perm).symm
  | cons member left ih =>
      cases right with
      | nil => cases names
      | cons other right =>
          obtain ⟨same,others⟩ := List.cons.inj names
          obtain ⟨absent,apart⟩ := List.nodup_cons.mp distinct
          have equal : member = other := by
            rcases List.mem_cons.mp (perm.mem_iff.mp List.mem_cons_self) with first | later
            · exact first
            · exact absurd (by rw [others]; exact List.mem_map_of_mem later) absent
          subst equal
          rw [ih ((List.perm_cons member).mp perm) others apart]

theorem sortMembers_perm (members : JsonObject) : (sortMembers members).Perm members :=
  List.perm_insertionSort _ members

theorem dumps_array (elements : List Json) :
    (array elements).dumps = array (elements.map dumps) := by
  have each : normalElements id elements = elements.map dumps := by
    induction elements with
    | nil => rfl
    | cons element elements ih => rw [normalElements,ih,List.map_cons,dumps]
  rw [dumps,normal,each]

theorem dumps_array_iff {left right : List Json} :
    (array left).dumps = (array right).dumps ↔
      List.Forall₂ (fun one other => one.dumps = other.dumps) left right := by
  rw [dumps_array,dumps_array,array.injEq,← List.forall₂_eq_eq_eq,List.forall₂_map_left_iff,
    List.forall₂_map_right_iff]

/-- Objects with the same names in the same order have one text when their values have. -/
theorem dumps_object_iff {left right : JsonObject} (names : left.map Prod.fst = right.map Prod.fst)
    (distinct : (left.map Prod.fst).Nodup) : (object left).dumps = (object right).dumps ↔
      List.Forall₂ (fun one other => one.2.dumps = other.2.dumps) left right := by
  have keeps (members : JsonObject) : (normalMembers id members).map Prod.fst =
      members.map Prod.fst := by
    rw [normalMembers_eq_map,List.map_map]
    rfl
  have sorted : (object left).dumps = (object right).dumps ↔
      normalMembers id left = normalMembers id right := by
    rw [dumps,dumps,normal,normal,object.injEq]
    constructor
    · intro same
      have first := sortMembers_perm (normalMembers id left)
      rw [same] at first
      exact members_eq_of_perm (first.symm.trans (sortMembers_perm _))
        (by rw [keeps,keeps,names]) (by rw [keeps]; exact distinct)
    · exact congrArg sortMembers
  rw [sorted,normalMembers_eq_map,normalMembers_eq_map]
  constructor
  · intro same
    rw [← List.forall₂_eq_eq_eq,List.forall₂_map_left_iff,List.forall₂_map_right_iff] at same
    exact same.imp fun _ _ equal => (Prod.mk.inj equal).2
  · intro texts
    clear sorted keeps
    induction texts with
    | nil => rfl
    | @cons one other left right same texts ih =>
        obtain ⟨name,names⟩ := List.cons.inj names
        have rest := ih names (List.nodup_cons.mp distinct).2
        rw [List.map_cons,List.map_cons,rest,name,← dumps,same,dumps]

end Names

/-- `bool(value)`. -/
def truthy : Json → Bool
  | scalar .null => false
  | scalar (.bool value) => value
  | scalar (.number _ value) => value ≠ 0
  | scalar (.infinity _) => true
  | scalar (.string value) => value ≠ []
  | array elements => !elements.isEmpty
  | object members => !members.isEmpty

section Nodes

def children : Json → List Json
  | scalar _ => []
  | array elements => elements
  | object members => members.map Prod.snd

/-- A node of a document with the levels that lie above it. -/
inductive At (document : Json) : ℕ → Json → Prop where
  | root : At document 0 document
  | child {depth : ℕ} {parent node : Json} :
      At document depth parent → node ∈ parent.children → At document (depth + 1) node

theorem at_of_child {document child node : Json} {depth : ℕ} (member : child ∈ document.children)
    (inside : child.At depth node) : document.At (depth + 1) node := by
  induction inside with
  | root => exact At.root.child member
  | child inside lower ih => exact ih.child lower

/-- A node is the document itself, or lies in one of its children. -/
theorem at_cases {document node : Json} {depth : ℕ} (inside : document.At depth node) :
    (depth = 0 ∧ node = document) ∨
      ∃ child ∈ document.children, ∃ lower, depth = lower + 1 ∧ child.At lower node := by
  induction inside with
  | root => exact .inl ⟨rfl,rfl⟩
  | @child depth parent node inside member ih =>
      rcases ih with ⟨rfl,rfl⟩ | ⟨child,listed,lower,rfl,below⟩
      · exact .inr ⟨node,member,0,rfl,.root⟩
      · exact .inr ⟨child,listed,lower + 1,rfl,below.child member⟩

/-- Not a `float` that `math.isfinite` is false for. -/
def finite : Json → Bool
  | scalar (.infinity _) => false
  | _ => true

mutual

def size : Json → ℕ
  | scalar _ => 1
  | array elements => 1 + elementsSize elements
  | object members => 1 + membersSize members

def elementsSize : List Json → ℕ
  | [] => 0
  | element :: elements => size element + elementsSize elements

def membersSize : List (Text × Json) → ℕ
  | [] => 0
  | (_,value) :: members => size value + membersSize members

end

end Nodes

mutual

/-- A JSONB column holds neither U+0000 nor an unpaired surrogate. -/
def storable : Json → Bool
  | scalar (.string value) => storableText value
  | scalar _ => true
  | array elements => storableElements elements
  | object members => storableMembers members

def storableText (value : Text) : Bool :=
  value.all fun character => character ≠ 0 && !(0xD800 ≤ character && character ≤ 0xDFFF)

def storableElements : List Json → Bool
  | [] => true
  | element :: elements => storable element && storableElements elements

def storableMembers : List (Text × Json) → Bool
  | [] => true
  | (name,value) :: members => storableText name && storable value && storableMembers members

end

theorem storableMembers_eq_all (members : JsonObject) : storableMembers members =
    members.all fun member => storableText member.1 && member.2.storable := by
  induction members with
  | nil => simp [storableMembers]
  | cons member members ih => simp [storableMembers,ih]

/-- The scalars that a rewriting writes are held if those before it were. -/
def KeepsStorable (rewrite : Scalar → Scalar) : Prop :=
  ∀ value, (scalar (rewrite value)).storable = (scalar value).storable

mutual

/-- A column holds a document in whatever form and order its scalars and members are. -/
theorem storable_normal {rewrite : Scalar → Scalar} (keeps : KeepsStorable rewrite) :
    (document : Json) → (document.normal rewrite).storable = document.storable
  | scalar value => keeps value
  | array elements => by simp [normal,storable,storable_normalElements keeps elements]
  | object members => by
      rw [normal,storable,storable,storableMembers_eq_all,(sortMembers_perm _).all_eq,
        ← storableMembers_eq_all]
      exact storable_normalMembers keeps members

theorem storable_normalElements {rewrite : Scalar → Scalar} (keeps : KeepsStorable rewrite) :
    (elements : List Json) →
      storableElements (normalElements rewrite elements) = storableElements elements
  | [] => rfl
  | element :: elements => by
      simp [normalElements,storableElements,storable_normal keeps element,
        storable_normalElements keeps elements]

theorem storable_normalMembers {rewrite : Scalar → Scalar} (keeps : KeepsStorable rewrite) :
    (members : List (Text × Json)) →
      storableMembers (normalMembers rewrite members) = storableMembers members
  | [] => rfl
  | (name,value) :: members => by
      simp [normalMembers,storableMembers,storable_normal keeps value,
        storable_normalMembers keeps members]

end

theorem storable_of_asPython {left right : Json} (same : left.asPython = right.asPython) :
    left.storable = right.storable := by
  have keeps : KeepsStorable Scalar.asPython := by
    intro value
    cases value <;> rfl
  rw [← storable_normal keeps left,← storable_normal keeps right]
  exact congrArg storable same

end Json

end Python
