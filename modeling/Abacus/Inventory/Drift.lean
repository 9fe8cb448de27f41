import Abacus.Inventory.Pipeline

/-! What the outbox keeps while deltas are not being applied. Rows are only appended, and the only
status that changes is that of a transition whose attempts are exhausted.
-/
set_option autoImplicit false

namespace Abacus

open Relational (Table)

section Entries

/-- The columns of an outbox row that no later write touches. -/
structure TransitionEntry where
  transitionId : Uuid
  epc : Epc
  stateVersion : ℕ
  deltas : List DeltaPayload

def InventoryTransitionOutbox.entry (transition : InventoryTransitionOutbox) : TransitionEntry :=
  ⟨transition.transitionId,transition.epc,transition.stateVersion,transition.deltas⟩

def Inventory.entries (inventory : Inventory) : List TransitionEntry :=
  inventory.transitions.rows.map InventoryTransitionOutbox.entry

variable {left right : InventoryTransitionOutbox}

theorem events_of_entry (same : left.entry = right.entry) : left.events = right.events := by
  have deltas : left.deltas = right.deltas := congrArg TransitionEntry.deltas same
  rw [InventoryTransitionOutbox.events,InventoryTransitionOutbox.events,deltas]

theorem change_of_entry (same : left.entry = right.entry) (bucket : Bucket) :
    left.change bucket = right.change bucket := by
  rw [InventoryTransitionOutbox.change,InventoryTransitionOutbox.change,events_of_entry same]

/-- A function that respects another one maps equal images to equal images. -/
theorem map_eq_of_map_eq {α β γ : Type} {f : α → β} {g : α → γ}
    (respects : ∀ x y, f x = f y → g x = g y) {first second : List α}
    (same : first.map f = second.map f) : first.map g = second.map g := by
  induction first generalizing second with
  | nil =>
      have nothing : second = [] := List.map_eq_nil_iff.mp same.symm
      rw [nothing]
  | cons x first ih =>
      obtain ⟨y,rest,rfl,head,tail⟩ := List.map_eq_cons_iff.mp same.symm
      rw [List.map_cons,List.map_cons,respects x y head.symm,ih tail.symm]

theorem modify_entries (inventory : Inventory) (p : InventoryTransitionOutbox → Bool)
    {f : InventoryTransitionOutbox → InventoryTransitionOutbox} (restamps : Restamps f) :
    (inventory.transitions.updateWhere p f restamps.key).rows.map InventoryTransitionOutbox.entry =
      inventory.entries := by
  rw [Inventory.entries,Table.updateWhere,List.map_map]
  apply List.map_congr_left
  intro row _
  simp only [Function.comp_apply]
  split
  · simp only [InventoryTransitionOutbox.entry,restamps.key,restamps.epc,restamps.version,
      restamps.deltas]
  · rfl

end Entries

section Drifting

/-- From one inventory to a later one, with no delta applied in between. -/
structure Inventory.Drifts (inventory after : Inventory)
    (quarantined : Option InventoryTransitionOutbox) : Prop where
  entries : inventory.entries <+: after.entries
  finished : ∀ row ∈ after.transitions.rows, row.pending = false →
    row ∈ inventory.transitions.rows ∨
      ∃ old ∈ quarantined, row.entry = old.entry ∧ row.unreconciled = true
  waiting : ∀ row ∈ after.transitions.rows, row.pending = true →
    (∃ old ∈ inventory.transitions.rows, old.entry = row.entry ∧ old.pending = true) ∨
    (inventory.transitions.find? row.transitionId = none ∧
      inventory.version row.epc < row.stateVersion)

variable {registry : Registry} {inventory after : Inventory}

theorem Inventory.Drifts.refl (inventory : Inventory) : inventory.Drifts inventory none where
  entries := List.prefix_refl _
  finished _ member _ := .inl member
  waiting row member pending := .inl ⟨row,member,rfl,pending⟩

theorem Inventory.Advance.drifts (advance : inventory.Advance registry after) :
    inventory.Drifts after none := by
  cases advance with
  | unchanged => exact .refl inventory
  | refreshed old new found epc sku location version =>
      obtain ⟨entries,finished,waiting⟩ := Inventory.Drifts.refl inventory
      exact ⟨entries,finished,waiting⟩
  | recorded next transitionId confidence observedAt createdAt middle businessEvents written version
      moved =>
      have spec := recordTransition_spec written
      obtain ⟨fresh,rows⟩ := Table.insert_eq_some spec.inserted
      refine ⟨?_,?_,?_⟩
      · change inventory.entries <+: middle.transitions.rows.map InventoryTransitionOutbox.entry
        rw [rows,List.map_append]
        exact List.prefix_append ..
      · intro row member finished
        rcases (Table.mem_insert spec.inserted).mp member with stored | rfl
        · exact .inl stored
        · simp [InventoryTransitionOutbox.pending] at finished
      · intro row member pending
        rcases (Table.mem_insert spec.inserted).mp member with stored | rfl
        · exact .inl ⟨row,stored,rfl,pending⟩
        · refine .inr ⟨fresh,?_⟩
          simp only
          omega

def exhaustedTransition (settings : Settings) (inventory : Inventory) (transitionId : Uuid) :
    Option InventoryTransitionOutbox :=
  (pendingTransition inventory transitionId).filter fun transition =>
    decide (settings.workerMaxAttempts ≤ transition.publishAttempts + 1)

theorem failTransition_drifts (settings : Settings) (connectivity : Connectivity)
    (transitionId : Uuid) (error : String) (now : Time) :
    inventory.Drifts (failTransition settings connectivity inventory transitionId error now).1
      (exhaustedTransition settings inventory transitionId) := by
  unfold failTransition
  split
  · rename_i missing
    rw [exhaustedTransition,missing]
    exact .refl inventory
  · rename_i transition found
    obtain ⟨stored,pending⟩ := pendingTransition_spec found
    have keyed : transition.transitionId = transitionId := Table.key_of_find? stored
    have owner : ∀ row ∈ inventory.transitions.rows, row.transitionId = transitionId →
        row = transition := fun row member same =>
      inventory.transitions.eq_of_key member (Table.mem_of_find? stored) (same.trans keyed.symm)
    have entries := modify_entries inventory (fun row => row.transitionId = transitionId)
      (countFailure_restamps error)
    dsimp only
    split
    · rename_i exhausted
      have chosen : exhaustedTransition settings inventory transitionId = some transition := by
        simp [exhaustedTransition,found,exhausted]
      rw [chosen]
      refine ⟨?_,?_,?_⟩
      · have again := modify_entries
          { inventory with
            transitions := inventory.transitions.modify transitionId
              (fun row => row.countFailure error) (countFailure_restamps error).key }
          (fun row => row.transitionId = transition.transitionId) (quarantine_restamps error now)
        change inventory.entries <+: List.map InventoryTransitionOutbox.entry _
        rw [← entries]
        exact (again.symm ▸ List.prefix_refl _)
      · intro row member finished
        obtain ⟨counted,place,rfl⟩ := List.mem_map.mp member
        obtain ⟨old,here,rfl⟩ := List.mem_map.mp place
        by_cases same : old.transitionId = transitionId
        · have equal := owner old here same
          subst equal
          exact .inr ⟨old,rfl,by simp [keyed]; rfl,by simp [keyed]; rfl⟩
        · simp only [same,decide_false,Bool.false_eq_true,if_false,keyed] at finished ⊢
          exact .inl here
      · intro row member waiting
        obtain ⟨counted,place,rfl⟩ := List.mem_map.mp member
        obtain ⟨old,here,rfl⟩ := List.mem_map.mp place
        by_cases same : old.transitionId = transitionId
        · simp [same,keyed,InventoryTransitionOutbox.countFailure,
            InventoryTransitionOutbox.quarantine,InventoryTransitionOutbox.pending] at waiting
        · simp only [same,decide_false,Bool.false_eq_true,if_false,keyed] at waiting ⊢
          exact .inl ⟨old,here,rfl,waiting⟩
    · refine ⟨?_,?_,?_⟩
      · change inventory.entries <+: List.map InventoryTransitionOutbox.entry _
        exact (entries.symm ▸ List.prefix_refl _)
      · intro row member finished
        obtain ⟨old,here,rfl⟩ := List.mem_map.mp member
        by_cases same : old.transitionId = transitionId
        · have equal := owner old here same
          subst equal
          simp only [keyed,decide_true,if_true] at finished
          exact absurd (pending.symm.trans finished) (by simp)
        · simp only [same,decide_false,Bool.false_eq_true,if_false] at finished ⊢
          exact .inl here
      · intro row member waiting
        obtain ⟨old,here,rfl⟩ := List.mem_map.mp member
        refine .inl ⟨old,here,?_,?_⟩
        · split <;> rfl
        · split at waiting <;> exact waiting

end Drifting

section Transactions

/-- The transactions that take the advisory lock themselves. -/
def PipelineEvent.takesProjectionLock : PipelineEvent → Bool
  | .apply _ _ | .redeliver _ | .rebuild _ => true
  | _ => false

def PipelineState.quarantines (settings : Settings) (state : PipelineState) :
    PipelineEvent → Option InventoryTransitionOutbox
  | .applyFails transitionId _ _ =>
      exhaustedTransition settings state.database.inventory transitionId
  | _ => none

variable {platform : Platform} {settings : Settings}

theorem PipelineState.next_drifts (platform : Platform) (settings : Settings)
    (state : PipelineState) (event : PipelineEvent)
    (free : event.takesProjectionLock = false) :
    state.database.inventory.Drifts (state.next platform settings event).database.inventory
      (state.quarantines settings event) := by
  cases event with
  | observe event clock quarantineId evidenceId =>
      simp only [PipelineState.next,PipelineState.commit]
      split
      · rename_i processed
        exact (processObservation_observed processed).inventory.drifts
      · exact .refl _
  | remove storeId request clock eventId =>
      simp only [PipelineState.next,PipelineState.commit]
      split
      · rename_i accepted
        exact (acceptAuthoritativeRemoval_advance accepted).drifts
      · exact .refl _
  | apply transitionId now => cases free
  | applyFails transitionId error now =>
      exact failTransition_drifts settings state.database.connectivity transitionId error now
  | redeliver transitionId => cases free
  | rebuild now => cases free
  | elsewhere surroundings => exact .refl _

theorem PipelineState.quarantines_pending {state : PipelineState} {event : PipelineEvent}
    {transition : InventoryTransitionOutbox}
    (chosen : transition ∈ state.quarantines settings event) :
    transition ∈ state.database.inventory.transitions.rows ∧ transition.pending = true := by
  cases event with
  | applyFails transitionId error now =>
      obtain ⟨found,-⟩ := Option.filter_eq_some_iff.mp chosen
      obtain ⟨stored,pending⟩ := pendingTransition_spec found
      exact ⟨Table.mem_of_find? stored,pending⟩
  | _ => cases chosen

end Transactions

end Abacus
