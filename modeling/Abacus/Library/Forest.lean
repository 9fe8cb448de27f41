import Mathlib.Data.List.Nodup

/-! Forests that grow by nodes under a parent that is there already.
Every node is then at the end of one line of nodes that begins with a root.
-/
set_option autoImplicit false

namespace Forest

variable {Node Key : Type} (key : Node → Key) (parent : Node → Option Key)

inductive Grown : List Node → Prop
  | nil : Grown []
  | snoc {nodes : List Node} {node : Node} : Grown nodes →
      (∀ above, parent node = some above → ∃ up ∈ nodes, key up = above) → Grown (nodes ++ [node])

inductive Line (nodes : List Node) : Node → List Node → Prop
  | root {node : Node} : node ∈ nodes → parent node = none → Line nodes node [node]
  | child {node up : Node} {line : List Node} : node ∈ nodes → parent node = some (key up) →
      Line nodes up line → Line nodes node (line ++ [node])

variable {key parent} {nodes : List Node} {node other : Node} {line others : List Node}

namespace Line

theorem mem (found : Line key parent nodes node line) : node ∈ nodes := by
  cases found with
  | root member => exact member
  | child member => exact member

/-- A line ends in its node. -/
theorem ends (found : Line key parent nodes node line) : ∃ above, line = above ++ [node] := by
  cases found with
  | root => exact ⟨[],rfl⟩
  | child => exact ⟨_,rfl⟩

/-- The end of a line has a parent if it is not alone on it. -/
theorem parent_eq (found : Line key parent nodes node (line ++ [node])) :
    (line = [] ∧ parent node = none) ∨
      ∃ up, Line key parent nodes up line ∧ parent node = some (key up) := by
  generalize same : line ++ [node] = whole at found
  cases found with
  | root member top =>
      rw [← List.nil_append [node]] at same
      exact .inl ⟨(List.append_inj' same rfl).1,top⟩
  | child member above upper =>
      rw [(List.append_inj' same rfl).1]
      exact .inr ⟨_,upper,above⟩

theorem mono {further : List Node} (found : Line key parent nodes node line)
    (kept : ∀ node ∈ nodes, node ∈ further) : Line key parent further node line := by
  induction found with
  | root member top => exact .root (kept _ member) top
  | child member above _ ih => exact .child (kept _ member) above ih

theorem subset (found : Line key parent nodes node line) : ∀ up ∈ line, up ∈ nodes := by
  induction found with
  | root member => simpa using member
  | child member _ _ ih =>
      intro up listed
      rcases List.mem_append.mp listed with earlier | last
      · exact ih up earlier
      · rw [List.mem_singleton.mp last]
        exact member

/-- The line down to a node is the only one. -/
theorem unique (keys : (nodes.map key).Nodup) (found : Line key parent nodes node line)
    (again : Line key parent nodes node others) : line = others := by
  induction found generalizing others with
  | root member top =>
      cases again with
      | root => rfl
      | child _ above _ =>
          rw [top] at above
          cases above
  | child member above upper ih =>
      cases again with
      | root _ top =>
          rw [top] at above
          cases above
      | child _ higher further =>
          have same := List.inj_on_of_nodup_map keys upper.mem further.mem
            (Option.some.inj (above.symm.trans higher))
          subst same
          rw [ih further]

/-- A line down to a node passes through the lines down to those above it. -/
theorem through {before after : List Node} (found : Line key parent nodes node line)
    (split : line = before ++ other :: after) : Line key parent nodes other (before ++ [other]) := by
  induction found generalizing after with
  | root member top =>
      cases before with
      | nil =>
          obtain ⟨rfl,-⟩ := List.cons.inj split
          exact .root member top
      | cons first before => simp at split
  | child member above upper ih =>
      rcases List.eq_nil_or_concat after with rfl | ⟨rest,last,rfl⟩
      · obtain ⟨rfl,same⟩ := List.append_inj' split rfl
        rw [← (List.cons.inj same).1]
        exact .child member above upper
      · rw [List.concat_eq_append,← List.cons_append,← List.append_assoc] at split
        exact ih (List.append_inj' split rfl).1

/-- No node is above itself. -/
theorem nodup (keys : (nodes.map key).Nodup) (found : Line key parent nodes node line) :
    line.Nodup := by
  induction found with
  | root => exact List.nodup_singleton _
  | @child node up line member above upper ih =>
      refine List.nodup_append.mpr ⟨ih,List.nodup_singleton _,?_⟩
      intro other earlier last final same
      rw [List.mem_singleton.mp final] at same
      subst same
      obtain ⟨before,after,rfl⟩ := List.append_of_mem earlier
      have shorter := (upper.through rfl).unique keys (.child member above upper)
      simpa using congrArg List.length shorter

end Line

/-- Every node of a grown forest is at the end of a line from a root. -/
theorem Grown.exists_line (grown : Grown key parent nodes) :
    ∀ node ∈ nodes, ∃ line, Line key parent nodes node line := by
  induction grown with
  | nil => simp
  | @snoc nodes fresh grown above ih =>
      have kept : ∀ node ∈ nodes, node ∈ nodes ++ [fresh] := by simp +contextual
      intro node member
      rcases List.mem_append.mp member with earlier | last
      · obtain ⟨line,found⟩ := ih node earlier
        exact ⟨line,found.mono kept⟩
      · rw [List.mem_singleton.mp last]
        cases top : parent fresh with
        | none => exact ⟨[fresh],.root (by simp) top⟩
        | some higher =>
            obtain ⟨up,place,rfl⟩ := above higher top
            obtain ⟨line,found⟩ := ih up place
            exact ⟨line ++ [fresh],.child (by simp) top (found.mono kept)⟩

end Forest
