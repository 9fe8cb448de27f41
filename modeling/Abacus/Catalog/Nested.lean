import Abacus.Library.Worklist
import Abacus.Model.CatalogCsv

/-! The loop of `_validate_json_value` over its own stack, and the documents that it accepts.
The loop is compared with the recursion over the document, and with the nodes of the document
themselves, whatever node a turn of the loop takes.
-/
set_option autoImplicit false

namespace Abacus.Catalog

open Python (Text text Json)

def visitItem (fieldName : Text) (pending : Json × ℕ) : Except Text (List (Json × ℕ)) :=
  if maxAttributeJsonDepth < pending.2 then .error (tooDeep fieldName)
  else if pending.1.finite then .ok (pending.1.children.map fun child => (child,pending.2 + 1))
  else .error (text "non-finite JSON number is not allowed")

theorem visitItem_ok {fieldName : Text} {pending : Json × ℕ} {added : List (Json × ℕ)}
    (visited : visitItem fieldName pending = .ok added) :
    pending.2 ≤ maxAttributeJsonDepth ∧ pending.1.finite = true ∧
      added = pending.1.children.map fun child => (child,pending.2 + 1) := by
  unfold visitItem at visited
  split at visited
  · cases visited
  · next shallow =>
      split at visited
      · next finite =>
          cases visited
          exact ⟨Nat.le_of_not_lt shallow,finite,rfl⟩
      · cases visited

theorem visitItem_of_fine (fieldName : Text) {document : Json} {depth : ℕ}
    (shallow : depth ≤ maxAttributeJsonDepth) (finite : document.finite = true) :
    visitItem fieldName (document,depth) =
      .ok (document.children.map fun child => (child,depth + 1)) := by
  rw [visitItem,if_neg (Nat.not_lt.mpr shallow),if_pos finite]

theorem elementsSize_eq (elements : List Json) :
    Json.elementsSize elements = totalSize Json.size elements := by
  induction elements with
  | nil => rfl
  | cons element elements ih => simp [Json.elementsSize,totalSize,ih]

theorem membersSize_eq (members : List (Text × Json)) :
    Json.membersSize members = totalSize (fun member => member.2.size) members := by
  induction members with
  | nil => rfl
  | cons member members ih => simp [Json.membersSize,totalSize,ih]

/-- The children together have a node less than their parent. -/
theorem size_eq_children (document : Json) :
    document.size = 1 + totalSize Json.size document.children := by
  cases document with
  | scalar value => rfl
  | array elements => rw [Json.size,Json.children,elementsSize_eq]
  | object members => rw [Json.size,Json.children,membersSize_eq,totalSize_map]

theorem visitItem_shrinks {fieldName : Text} {pending : Json × ℕ} {added : List (Json × ℕ)}
    (visited : visitItem fieldName pending = .ok added) :
    totalSize (fun child => child.1.size) added < pending.1.size := by
  obtain ⟨-,-,rfl⟩ := visitItem_ok visited
  rw [totalSize_map,size_eq_children pending.1]
  exact Nat.lt_add_of_pos_left Nat.one_pos

def pendingItems (fieldName : Text) : Worklist (Json × ℕ) Text where
  visit := visitItem fieldName
  size := fun pending => pending.1.size
  shrinks := visitItem_shrinks

/-- `_validate_json_value`: the last item of `pending` is popped, its children are extended. -/
def validateIteratively (fieldName : Text) (value : Json) : Except Text Unit :=
  (pendingItems fieldName).run [(value,0)]

section Recursion

variable (fieldName : Text)

/-- A scalar puts nothing on the stack. -/
theorem visit_scalar (value : Python.Scalar) (depth : ℕ) :
    (pendingItems fieldName).visit (.scalar value,depth) =
      (validateJsonValue fieldName depth (.scalar value)).map fun _ => [] := by
  simp only [pendingItems,visitItem,validateJsonValue]
  split
  · rfl
  · cases value <;> rfl

mutual

/-- The loop goes through the item on top before what lies under it. -/
theorem run_item (under : List (Json × ℕ)) (depth : ℕ) : (value : Json) →
    (pendingItems fieldName).run (under ++ [(value,depth)]) =
      (validateJsonValue fieldName depth value).bind fun _ =>
        (pendingItems fieldName).run under
  | .scalar value => by
      rw [Worklist.run_append_singleton,visit_scalar]
      cases validateJsonValue fieldName depth (.scalar value) with
      | error message => rfl
      | ok checked => simp [Except.map,Except.bind]
  | .array elements => by
      rw [Worklist.run_append_singleton]
      simp only [pendingItems,visitItem,validateJsonValue]
      split
      · rfl
      · simpa [Json.finite,Json.children,Except.bind,pendingItems] using
          run_elements under (depth + 1) elements
  | .object members => by
      rw [Worklist.run_append_singleton]
      simp only [pendingItems,visitItem,validateJsonValue]
      split
      · rfl
      · simpa [Json.finite,Json.children,Except.bind,pendingItems,Function.comp_def] using
          run_members under (depth + 1) members

theorem run_elements (under : List (Json × ℕ)) (depth : ℕ) : (elements : List Json) →
    (pendingItems fieldName).run (under ++ elements.map fun element => (element,depth)) =
      (validateElements fieldName depth elements).bind fun _ =>
        (pendingItems fieldName).run under
  | [] => by simp [validateElements,Except.bind]
  | element :: elements => by
      have above := run_elements (under ++ [(element,depth)]) depth elements
      rw [List.append_assoc] at above
      rw [List.map_cons,← List.singleton_append,above,validateElements]
      cases validateElements fieldName depth elements with
      | error message => rfl
      | ok checked => exact run_item under depth element

theorem run_members (under : List (Json × ℕ)) (depth : ℕ) : (members : List (Text × Json)) →
    (pendingItems fieldName).run (under ++ members.map fun member => (member.2,depth)) =
      (validateMembers fieldName depth members).bind fun _ =>
        (pendingItems fieldName).run under
  | [] => by simp [validateMembers,Except.bind]
  | (name,value) :: members => by
      have above := run_members (under ++ [(value,depth)]) depth members
      rw [List.append_assoc] at above
      rw [List.map_cons,← List.singleton_append,above,validateMembers]
      cases validateMembers fieldName depth members with
      | error message => rfl
      | ok checked => exact run_item under depth value

end

/-- The loop and the recursion agree, also on the message. -/
theorem validateIteratively_eq (value : Json) :
    validateIteratively fieldName value = validateJsonValue fieldName 0 value := by
  have item := run_item fieldName [] 0 value
  rw [List.nil_append,Worklist.run_nil] at item
  rw [validateIteratively,item]
  cases validateJsonValue fieldName 0 value <;> rfl

end Recursion

section Nodes

variable {fieldName : Text} {document : Json}

/-- Every node lies within the limit and is a finite number, if it is a number at all. -/
def Fine (document : Json) : Prop :=
  ∀ depth node, document.At depth node → depth ≤ maxAttributeJsonDepth ∧ node.finite = true

theorem At.reached (clear : (pendingItems fieldName).Clear (document,0)) {depth : ℕ}
    {node : Json} (inside : document.At depth node) :
    Relation.ReflTransGen (pendingItems fieldName).Adds (document,0) (node,depth) := by
  induction inside with
  | root => exact .refl
  | @child depth parent node inside member ih =>
      obtain ⟨added,visited⟩ := clear (parent,depth) ih
      obtain ⟨-,-,rfl⟩ := visitItem_ok visited
      exact ih.tail ⟨_,visited,List.mem_map.mpr ⟨node,member,rfl⟩⟩

theorem at_of_reached {reached : Json × ℕ}
    (reaches : Relation.ReflTransGen (pendingItems fieldName).Adds (document,0) reached) :
    document.At reached.2 reached.1 := by
  induction reaches with
  | refl => exact .root
  | tail reaches adds ih =>
      obtain ⟨added,visited,member⟩ := adds
      obtain ⟨-,-,rfl⟩ := visitItem_ok visited
      obtain ⟨child,inside,rfl⟩ := List.mem_map.mp member
      exact ih.child inside

theorem clear_iff_fine (fieldName : Text) : (pendingItems fieldName).Clear (document,0) ↔ Fine document := by
  constructor
  · intro clear depth node inside
    obtain ⟨added,visited⟩ := clear (node,depth) (At.reached clear inside)
    obtain ⟨shallow,finite,-⟩ := visitItem_ok visited
    exact ⟨shallow,finite⟩
  · intro fine reached reaches
    obtain ⟨shallow,finite⟩ := fine _ _ (at_of_reached reaches)
    exact ⟨_,visitItem_of_fine fieldName shallow finite⟩

end Nodes

/-- The loop comes to an end in every order of its visits, and accepts a document in any of
them when all its nodes are fine. -/
theorem iterative_validation (fieldName : Text) (value : Json) :
    WellFounded (fun after before => (pendingItems fieldName).Turn before after) ∧
      (pendingItems fieldName).Ends [(value,0)] (validateIteratively fieldName value) ∧
      validateIteratively fieldName value = validateJsonValue fieldName 0 value ∧
      ∀ outcome, (pendingItems fieldName).Ends [(value,0)] outcome →
        (outcome = .ok () ↔ ∀ depth node, value.At depth node →
          depth ≤ maxAttributeJsonDepth ∧ node.finite = true) := by
  refine ⟨Worklist.turn_wellFounded _,Worklist.run_ends _ _,validateIteratively_eq fieldName value,
    fun outcome ends => ?_⟩
  rw [ends.ok_iff,← Fine,← clear_iff_fine fieldName]
  simp

end Abacus.Catalog
