import Abacus.Replenishment.Lifecycle
import Abacus.Tenant.EventTime

/-! The verified units of a task are its evidence rows, and every evidence row is backed by a recorded
move of the task's SKU from a backroom to a sales floor of its store.
-/
set_option autoImplicit false

namespace Abacus

open Relational (Table)
open Transition (Machine)

section Accounting

def Replenishment.evidenceOf (replenishment : Replenishment) (taskId : Uuid) :
    List ReplenishmentTaskEvidence :=
  replenishment.evidence.select fun row => decide (row.taskId = taskId)

/-- The recorded transition moves an item of the task's SKU, within the task's store, from a backroom
to a sales floor. -/
def ReplenishmentTaskEvidence.Proves (zones : Table Zone.id) (entries : List TransitionEntry)
    (task : ReplenishmentTask) (evidence : ReplenishmentTaskEvidence) : Prop :=
  ∃ entry ∈ entries, ∃ source ∈ zones.rows, ∃ target ∈ zones.rows, ∃ confidence,
    entry.transitionId = evidence.transitionId ∧ entry.epc = evidence.epc ∧
    source.storeId = task.storeId ∧ source.kind = .backroom ∧
    target.storeId = task.storeId ∧ target.kind = .salesFloor ∧
    entry.deltas = (moveDeltas evidence.transitionId evidence.epc
      (some ⟨task.storeId,task.skuId,source.id⟩) (some ⟨task.storeId,task.skuId,target.id⟩)
      confidence evidence.observedAt).map DeltaPayload.event

structure Replenishment.Verified (zones : Table Zone.id) (entries : List TransitionEntry)
    (replenishment : Replenishment) : Prop where
  counted : ∀ task ∈ replenishment.tasks.rows,
    task.verifiedQuantity = ((replenishment.evidenceOf task.id).length : ℤ)
  proven : ∀ row ∈ replenishment.evidence.rows, ∃ task,
    replenishment.tasks.find? row.taskId = some task ∧ row.Proves zones entries task ∧
      ∃ started, task.startedAt = some started ∧ started ≤ row.observedAt
  idle : ∀ task ∈ replenishment.tasks.rows, task.status = .open ∨ task.status = .claimed →
    task.startedAt = none

/-- From one state of the tasks to a later one: nothing is lost, completed tasks keep their deadline,
and what they gain is in time. -/
structure Replenishment.Follows (replenishment after : Replenishment) : Prop where
  evidence : ∀ row ∈ replenishment.evidence.rows, row ∈ after.evidence.rows
  completed : ∀ taskId task, replenishment.tasks.find? taskId = some task →
    task.status = .completed → ∃ later, after.tasks.find? taskId = some later ∧
      later.status = .completed ∧ later.verificationDeadline = task.verificationDeadline
  punctual : ∀ row ∈ after.evidence.rows, row ∉ replenishment.evidence.rows → ∀ task,
    replenishment.tasks.find? row.taskId = some task → task.status = .completed →
      ∃ deadline, task.verificationDeadline = some deadline ∧ row.observedAt ≤ deadline

theorem Replenishment.Follows.refl (replenishment : Replenishment) :
    replenishment.Follows replenishment where
  evidence _ member := member
  completed _ task found completed := ⟨task,found,completed,rfl⟩
  punctual _ member absent := absurd member absent

theorem Replenishment.Follows.trans {first second third : Replenishment}
    (left : first.Follows second) (right : second.Follows third) : first.Follows third where
  evidence row member := right.evidence row (left.evidence row member)
  completed taskId task found completed := by
    obtain ⟨middle,there,still,deadline⟩ := left.completed taskId task found completed
    obtain ⟨last,here,done,deadline'⟩ := right.completed taskId middle there still
    exact ⟨last,here,done,deadline'.trans deadline⟩
  punctual row member absent task found completed := by
    by_cases between : row ∈ second.evidence.rows
    · exact left.punctual row between absent task found completed
    · obtain ⟨middle,there,still,deadline⟩ := left.completed row.taskId task found completed
      obtain ⟨instant,known,behind⟩ := right.punctual row member between middle there still
      exact ⟨instant,deadline.symm.trans known,behind⟩

variable {zones : Table Zone.id} {entries : List TransitionEntry}
  {replenishment after : Replenishment}

theorem Replenishment.Verified.extend (verified : replenishment.Verified zones entries)
    {later : List TransitionEntry} (extends_ : entries <+: later) :
    replenishment.Verified zones later := by
  refine ⟨verified.counted,?_,verified.idle⟩
  intro row member
  obtain ⟨task,found,⟨entry,stored,rest⟩,started⟩ := verified.proven row member
  exact ⟨task,found,⟨entry,extends_.subset stored,rest⟩,started⟩

/-- A change of one task that touches neither its evidence nor what the evidence relies on. -/
theorem Replenishment.Verified.change (verified : replenishment.Verified zones entries)
    {taskId : Uuid} {task : ReplenishmentTask} {change : ReplenishmentTask → ReplenishmentTask}
    (keeps : ∀ task, (change task).id = task.id)
    (found : replenishment.tasks.find? taskId = some task)
    (tasks : after.tasks = replenishment.tasks.modify taskId change keeps)
    (evidence : after.evidence = replenishment.evidence)
    (place : (change task).storeId = task.storeId ∧ (change task).skuId = task.skuId)
    (quantity : (change task).verifiedQuantity = task.verifiedQuantity)
    (started : ∀ instant, task.startedAt = some instant → (change task).startedAt = some instant)
    (idle : (change task).status = .open ∨ (change task).status = .claimed →
      (change task).startedAt = none)
    (completed : task.status = .completed → (change task).status = .completed ∧
      (change task).verificationDeadline = task.verificationDeadline) :
    after.Verified zones entries ∧ replenishment.Follows after := by
  have at_ : ∀ other, after.tasks.find? other = if other = taskId then some (change task)
      else replenishment.tasks.find? other := by
    intro other
    rw [tasks,Table.find?_modify,found]
    rfl
  have row_of : ∀ row ∈ after.tasks.rows, row = change task ∨ row ∈ replenishment.tasks.rows := by
    intro row member
    have located := Table.find?_of_mem member
    rw [at_] at located
    split at located
    · cases located
      exact .inl rfl
    · exact .inr (Table.mem_of_find? located)
  have keyed : task.id = taskId := Table.key_of_find? found
  have stored := Table.mem_of_find? found
  refine ⟨⟨?_,?_,?_⟩,?_,?_,?_⟩
  · intro row member
    unfold evidenceOf
    rw [evidence]
    rcases row_of row member with rfl | old
    · rw [quantity,keeps]
      exact verified.counted task stored
    · exact verified.counted row old
  · intro row member
    rw [evidence] at member
    obtain ⟨owner,located,proves,instant,begun,behind⟩ := verified.proven row member
    by_cases own : row.taskId = taskId
    · rw [own,found] at located
      cases located
      refine ⟨change task,by rw [at_,if_pos own],?_,instant,started instant begun,behind⟩
      unfold ReplenishmentTaskEvidence.Proves
      rw [place.1,place.2]
      exact proves
    · exact ⟨owner,by rw [at_,if_neg own]; exact located,proves,instant,begun,behind⟩
  · intro row member
    rcases row_of row member with rfl | old
    · exact idle
    · exact verified.idle row old
  · intro row member
    rw [evidence]
    exact member
  · intro other row located done
    by_cases own : other = taskId
    · rw [own,found] at located
      cases located
      exact ⟨change task,by rw [at_,if_pos own],completed done⟩
    · exact ⟨row,by rw [at_,if_neg own]; exact located,done,rfl⟩
  · intro row member absent
    rw [evidence] at member
    exact absurd member absent

/-- A new task has no evidence. -/
theorem Replenishment.Verified.insert (verified : replenishment.Verified zones entries)
    {task : ReplenishmentTask} (tasks : replenishment.tasks.insert task = some after.tasks)
    (evidence : after.evidence = replenishment.evidence) (unverified : task.verifiedQuantity = 0)
    (unstarted : task.startedAt = none) :
    after.Verified zones entries ∧ replenishment.Follows after := by
  have absent := (Table.insert_eq_some tasks).1
  have kept : ∀ taskId row, replenishment.tasks.find? taskId = some row →
      after.tasks.find? taskId = some row := by
    intro taskId row found
    rw [Table.find?_insert tasks,if_neg ?_]
    · exact found
    · intro same
      rw [same,found] at absent
      cases absent
  refine ⟨⟨?_,?_,?_⟩,?_,?_,?_⟩
  · intro row member
    unfold evidenceOf
    rw [evidence]
    rcases (Table.mem_insert tasks).mp member with old | rfl
    · exact verified.counted row old
    · have none_yet : (replenishment.evidence.select fun other =>
          decide (other.taskId = row.id)) = [] := by
        rw [Table.select,List.filter_eq_nil_iff]
        intro other stored own
        obtain ⟨owner,found,-⟩ := verified.proven other stored
        rw [of_decide_eq_true own,absent] at found
        cases found
      rw [none_yet,unverified]
      rfl
  · intro row member
    rw [evidence] at member
    obtain ⟨owner,found,rest⟩ := verified.proven row member
    exact ⟨owner,kept _ owner found,rest⟩
  · intro row member idle
    rcases (Table.mem_insert tasks).mp member with old | rfl
    · exact verified.idle row old idle
    · exact unstarted
  · intro row member
    rw [evidence]
    exact member
  · exact fun taskId row found completed => ⟨row,kept taskId row found,completed,rfl⟩
  · intro row member absent
    rw [evidence] at member
    exact absurd member absent

end Accounting

section Evaluating

variable {zones : Table Zone.id} {entries : List TransitionEntry}
  {replenishment after : Replenishment}

def EvaluationOutcome.Fresh : EvaluationOutcome → Prop
  | .created task => task.verifiedQuantity = 0 ∧ task.startedAt = none
  | _ => True

theorem Replenishment.Verified.record (verified : replenishment.Verified zones entries)
    {outcome : EvaluationOutcome} (fresh : outcome.Fresh)
    (recorded : replenishment.record outcome = some after) :
    after.Verified zones entries ∧ replenishment.Follows after := by
  cases outcome with
  | created task =>
      obtain ⟨-,tasks,evidence⟩ := Replenishment.insertTask_spec recorded
      exact verified.insert tasks evidence fresh.1 fresh.2
  | grown taskId quantity positive rule =>
      cases recorded
      cases found : replenishment.tasks.find? taskId with
      | none =>
          have same : replenishment.modifyTask taskId (ReplenishmentTask.grow quantity positive rule)
              (ReplenishmentTask.grow_id quantity positive rule) (fun _ => ⟨id,rfl,rfl⟩) =
                replenishment := by
            have rows := Table.modify_of_absent found (ReplenishmentTask.grow quantity positive rule)
              (ReplenishmentTask.grow_id quantity positive rule)
            cases replenishment
            simp only [Replenishment.modifyTask] at rows ⊢
            congr 1
          rw [same]
          exact ⟨verified,.refl _⟩
      | some task =>
          refine verified.change (ReplenishmentTask.grow_id quantity positive rule) found rfl rfl
            ⟨rfl,rfl⟩ rfl (fun _ => id) ?_ fun done => ⟨done,rfl⟩
          exact verified.idle task (Table.mem_of_find? found)
  | lowConfidence | unmatched | covered | deferred =>
      cases recorded
      exact ⟨verified,.refl _⟩

theorem Replenishment.Verified.recordAll (verified : replenishment.Verified zones entries)
    {outcomes : List EvaluationOutcome} (fresh : ∀ outcome ∈ outcomes, outcome.Fresh)
    (recorded : replenishment.recordAll outcomes = some after) :
    after.Verified zones entries ∧ replenishment.Follows after := by
  induction outcomes generalizing replenishment with
  | nil =>
      cases recorded
      exact ⟨verified,.refl _⟩
  | cons outcome outcomes ih =>
      obtain ⟨middle,first,rest⟩ := Option.bind_eq_some_iff.mp recorded
      obtain ⟨still,follows⟩ := verified.record (fresh outcome (List.mem_cons_self ..)) first
      obtain ⟨final,later⟩ := ih still
        (fun outcome member => fresh outcome (List.mem_cons_of_mem _ member)) rest
      exact ⟨final,follows.trans later⟩

theorem evaluateSnapshot_fresh {platform : Platform} {rules : List PolicyRule} {storeId : Uuid}
    {minimumConfidence : ℚ} {active : Option ReplenishmentTask} {taskId : Uuid}
    {snapshot : InventorySnapshot} {outcome : EvaluationOutcome}
    (evaluated : evaluateSnapshot platform rules storeId minimumConfidence active taskId snapshot =
      .ok outcome) : outcome.Fresh := by
  unfold evaluateSnapshot at evaluated
  split at evaluated
  · cases evaluated
    trivial
  · split at evaluated
    · cases evaluated
    · cases evaluated
      trivial
    · cases evaluated
      unfold decideTask
      dsimp only
      split
      · split
        · split <;> trivial
        · exact ⟨rfl,rfl⟩
      · trivial

theorem evaluateReplenishment_verified {platform : Platform} {settings : Settings} {db : Database}
    {principal : Principal} {request : ReplenishmentEvaluationCreate} {minimumConfidence : ℚ}
    {evaluatedAt : Time} {taskId : Uuid → Uuid} {result : EvaluationResult}
    (verified : db.replenishment.Verified zones entries)
    (accepted : evaluateReplenishment platform settings db principal request minimumConfidence
      evaluatedAt taskId = .ok (result,after)) :
    after.Verified zones entries ∧ db.replenishment.Follows after := by
  by_cases opens : EvaluationOpens settings db principal request evaluatedAt
  · cases ruled : (activeRules db.policies).isEmpty with
    | true =>
        obtain ⟨-,-,same⟩ := evaluateReplenishment_closed (.inr ruled) accepted
        rw [same]
        exact ⟨verified,.refl _⟩
    | false =>
        obtain ⟨outcomes,decided,recorded⟩ := evaluateReplenishment_accepted opens ruled accepted
        refine verified.recordAll ?_ recorded
        intro outcome member
        obtain ⟨decisions,-,listed,all⟩ := decisions_of_outcomes (mapM_eq_ok.mp decided)
        rw [← listed] at member
        obtain ⟨decision,place,rfl⟩ := List.mem_map.mp member
        exact evaluateSnapshot_fresh (all decision place)
  · obtain ⟨-,-,same⟩ := evaluateReplenishment_closed (.inl opens) accepted
    rw [same]
    exact ⟨verified,.refl _⟩

theorem patchReplenishmentTask_verified {principal : Principal} {taskId : Uuid}
    {request : ReplenishmentTaskPatch} {now : Time} {window : ℕ}
    (verified : replenishment.Verified zones entries)
    (patched : patchReplenishmentTask replenishment principal taskId request now window = .ok after) :
    after.Verified zones entries ∧ replenishment.Follows after := by
  obtain ⟨task,read,patched⟩ := bind_eq_ok.mp patched
  split at patched
  · cases patched
  · have written := orIntegrityError_eq_ok.mp patched
    unfold readTaskToPatch at read
    split at read
    · cases read
    · rename_i row found
      obtain ⟨_,checked,same⟩ := bind_eq_ok.mp read
      cases same
      obtain ⟨-,edge,-⟩ := checkTaskPatch_eq_ok.mp checked
      have keyed : task.id = taskId := Table.key_of_find? found
      rw [keyed] at written
      unfold Replenishment.patchTask at written
      dsimp only at written
      split at written
      · cases written
        -- A task is started only from CLAIMED, where it has no start yet, and nothing leaves COMPLETED.
        have allowed : task.status ≠ .completed ∧ (request.status = .inProgress →
            task.status = .claimed) ∧ (request.status = .claimed → task.status = .open) ∧
              request.status ≠ .open := by
          revert edge
          cases task.status <;> cases request.status <;>
            simp [ReplenishmentTaskStatus.closing,allowedTransitions,ReplenishmentTaskStatus.active]
        obtain ⟨unfinished,starts,claims,reopens⟩ := allowed
        have stored := Table.mem_of_find? found
        refine verified.change (ReplenishmentTask.patch_id principal request now window) found rfl
          rfl ⟨rfl,rfl⟩ rfl ?_ ?_
          (fun done => absurd done unfinished)
        · intro instant begun
          change (if request.status = .inProgress then some now else task.startedAt) = some instant
          rw [if_neg ?_]
          · exact begun
          · intro starting
            rw [verified.idle task stored (.inr (starts starting))] at begun
            cases begun
        · intro idle
          change (if request.status = .inProgress then some now else task.startedAt) = none
          change request.status = .open ∨ request.status = .claimed at idle
          rcases idle with opened | claimed
          · exact absurd opened reopens
          · rw [claimed,if_neg (by simp)]
            exact verified.idle task stored (.inl (claims claimed))
      · cases written

end Evaluating

section Attributing

variable {zones : Table Zone.id} {entries : List TransitionEntry}
  {replenishment after : Replenishment}

theorem ReplenishmentTask.verifiable_iff {task : ReplenishmentTask} {storeId skuId : Uuid}
    {observedAt : Time} : task.verifiable storeId skuId observedAt = true ↔
      task.storeId = storeId ∧ task.skuId = skuId ∧
      (∃ started, task.startedAt = some started ∧ started ≤ observedAt) ∧
      task.verifiedQuantity < task.quantity ∧
      (task.status = .inProgress ∨ (task.status = .completed ∧
        ∃ deadline, task.verificationDeadline = some deadline ∧ observedAt ≤ deadline)) := by
  simp [verifiable,and_assoc,Option.any_eq_true]

/-- One unit of a verifiable task is attributed. -/
theorem Replenishment.Verified.verify (verified : replenishment.Verified zones entries)
    {task : ReplenishmentTask} {evidence : ReplenishmentTaskEvidence} {storeId skuId : Uuid}
    (stored : task ∈ replenishment.tasks.rows)
    (verifiable : task.verifiable storeId skuId evidence.observedAt = true)
    (own : evidence.taskId = task.id) (proves : evidence.Proves zones entries task)
    (tasks : after.tasks = replenishment.tasks.modify task.id ReplenishmentTask.verify
      ReplenishmentTask.verify_id)
    (inserted : replenishment.evidence.insert evidence = some after.evidence) :
    after.Verified zones entries ∧ replenishment.Follows after := by
  obtain ⟨-,-,⟨started,begun,reached⟩,lacking,open_⟩ := ReplenishmentTask.verifiable_iff.mp verifiable
  have rows := (Table.insert_eq_some inserted).2
  have at_ : ∀ other, after.tasks.find? other = if other = task.id then some task.verify
      else replenishment.tasks.find? other := by
    intro other
    rw [tasks,Table.find?_modify,Table.find?_of_mem stored]
    rfl
  have kept : ∀ taskId row, replenishment.tasks.find? taskId = some row →
      after.tasks.find? taskId = some (if taskId = task.id then row.verify else row) := by
    intro taskId row found
    rw [at_]
    by_cases same : taskId = task.id
    · rw [same,Table.find?_of_mem stored] at found
      cases found
      rw [if_pos same,if_pos same]
    · rw [if_neg same,if_neg same]
      exact found
  refine ⟨⟨?_,?_,?_⟩,?_,?_,?_⟩
  · intro row member
    unfold evidenceOf
    rw [Table.select,rows,List.filter_append]
    have located := Table.find?_of_mem member
    rw [at_] at located
    split at located
    · rename_i same
      cases located
      have counted : task.verifiedQuantity = ((replenishment.evidence.rows.filter fun other =>
          decide (other.taskId = task.verify.id)).length : ℤ) := verified.counted task stored
      have one : ([evidence].filter fun other => decide (other.taskId = task.verify.id)) =
          [evidence] := by
        simp [own]
      rw [one,List.length_append,List.length_singleton,Nat.cast_add,← counted]
      exact min_eq_right (Int.add_one_le_iff.mpr lacking)
    · rename_i apart
      have none_new : ([evidence].filter fun other => decide (other.taskId = row.id)) = [] := by
        simp [own,Ne.symm apart]
      rw [none_new,List.append_nil]
      exact verified.counted row (Table.mem_of_find? located)
  · intro row member
    rcases (Table.mem_insert inserted).mp member with old | rfl
    · obtain ⟨owner,found,proven,instant,began,behind⟩ := verified.proven row old
      refine ⟨_,kept _ owner found,?_,instant,?_,behind⟩
      · split <;> exact proven
      · split <;> exact began
    · refine ⟨task.verify,?_,proves,started,begun,reached⟩
      rw [at_,if_pos own]
  · intro row member idle
    have located := Table.find?_of_mem member
    rw [at_] at located
    split at located
    · cases located
      exact verified.idle task stored idle
    · exact verified.idle row (Table.mem_of_find? located) idle
  · exact fun row member => (Table.mem_insert inserted).mpr (.inl member)
  · intro taskId row found completed
    refine ⟨_,kept taskId row found,?_,?_⟩
    · split <;> exact completed
    · split <;> rfl
  · intro row member absent owner found completed
    rcases (Table.mem_insert inserted).mp member with old | rfl
    · exact absurd old absent
    · rw [own,Table.find?_of_mem stored] at found
      cases found
      rcases open_ with working | ⟨-,deadline,known,behind⟩
      · rw [completed] at working
        cases working
      · exact ⟨deadline,known,behind⟩

theorem attributeReplenishmentMove_verified {transitionId : Uuid} {epc : Epc}
    {skuId storeId previousZoneId nextZoneId : Uuid} {observedAt : Time} {evidenceId : Uuid}
    (confidence : Confidence) {entry : TransitionEntry}
    (verified : replenishment.Verified zones entries) (recorded : entry ∈ entries)
    (identified : entry.transitionId = transitionId ∧ entry.epc = epc)
    (deltas : entry.deltas = (moveDeltas transitionId epc (some ⟨storeId,skuId,previousZoneId⟩)
      (some ⟨storeId,skuId,nextZoneId⟩) confidence observedAt).map DeltaPayload.event)
    (attributed : attributeReplenishmentMove zones replenishment transitionId epc skuId storeId
      previousZoneId nextZoneId observedAt evidenceId = .ok after) :
    after.Verified zones entries ∧ replenishment.Follows after := by
  have zone_of : ∀ {zoneId : Uuid} {kind : ZoneKind}, ((zones.find? zoneId).filter fun zone =>
      decide (zone.storeId = storeId)).map Zone.kind = some kind →
      ∃ zone ∈ zones.rows, zone.id = zoneId ∧ zone.storeId = storeId ∧ zone.kind = kind := by
    intro zoneId kind known
    obtain ⟨zone,found,same⟩ := Option.map_eq_some_iff.mp known
    obtain ⟨located,own⟩ := Option.filter_eq_some_iff.mp found
    exact ⟨zone,Table.mem_of_find? located,Table.key_of_find? located,of_decide_eq_true own,same⟩
  unfold attributeReplenishmentMove at attributed
  dsimp only at attributed
  split at attributed
  · cases attributed
    exact ⟨verified,.refl _⟩
  · rename_i kinds
    obtain ⟨fromBackroom,toFloor⟩ := not_or.mp kinds
    obtain ⟨source,sourceStored,sourceId,sourceStore,sourceKind⟩ := zone_of (not_not.mp fromBackroom)
    obtain ⟨target,targetStored,targetId,targetStore,targetKind⟩ := zone_of (not_not.mp toFloor)
    split at attributed
    · cases attributed
      exact ⟨verified,.refl _⟩
    · rename_i task chosen
      obtain ⟨evidence,inserted,done⟩ := bind_eq_ok.mp attributed
      cases done
      have sorted := List.mem_of_head? chosen
      obtain ⟨stored,verifiable⟩ :=
        Table.mem_select.mp ((List.perm_insertionSort _ _).mem_iff.mp sorted)
      obtain ⟨store,sku,-⟩ := ReplenishmentTask.verifiable_iff.mp verifiable
      refine verified.verify stored verifiable rfl ?_ rfl (orIntegrityError_eq_ok.mp inserted)
      refine ⟨entry,recorded,source,sourceStored,target,targetStored,confidence,identified.1,
        identified.2,sourceStore.trans store.symm,sourceKind,targetStore.trans store.symm,targetKind,
        ?_⟩
      rw [deltas,store,sku,sourceId,targetId]

/-- The move of an item and its attribution. -/
theorem moveItem_verified {platform : Platform} {registry : Registry}
    {inventory finished : Inventory} {item : Option CurrentItemState} {event : RfidObservationEvent}
    {skuId : Uuid} {decision : StableZoneDecision} {createdAt : Time} {evidenceId : Uuid}
    (verified : replenishment.Verified registry.zones inventory.entries)
    (moved : moveItem platform registry inventory replenishment item event skuId decision createdAt
      evidenceId = .ok (finished,after)) :
    after.Verified registry.zones finished.entries ∧ replenishment.Follows after := by
  have recorded := recordTransition_spec (moveItem_recorded moved)
  have extended := verified.extend recorded.entries
  have listed : ∀ row, inventory.transitions.insert row = some finished.transitions →
      row.entry ∈ finished.entries := by
    intro row inserted
    exact List.mem_map_of_mem ((Table.mem_insert inserted).mpr (.inr rfl))
  have entered := listed _ recorded.inserted
  obtain ⟨middle,written,rest⟩ := bind_eq_ok.mp moved
  split at rest
  · rename_i previousSku previous standing
    split at rest
    · rename_i within
      obtain ⟨attributed,attribution,done⟩ := bind_eq_ok.mp rest
      cases done
      obtain ⟨old,known,pair⟩ := Option.bind_eq_some_iff.mp standing
      obtain ⟨location,here,same⟩ := Option.map_eq_some_iff.mp pair
      cases same
      refine attributeReplenishmentMove_verified decision.confidence extended entered ⟨rfl,rfl⟩ ?_
        attribution
      change List.map DeltaPayload.event (moveDeltas _ event.epc
        (item.bind CurrentItemState.bucket?) (some (decision.location.bucket skuId)) _ _) = _
      rw [known,Option.bind_some,CurrentItemState.bucket?,here,Option.map_some,Location.bucket,
        Location.bucket,within.1,within.2]
      rfl
    · cases rest
      exact ⟨extended,.refl _⟩
  · cases rest
    exact ⟨extended,.refl _⟩

end Attributing

section Runs

variable {platform : Platform} {settings : Settings} {state : TenantState}

def TenantState.Verified (state : TenantState) : Prop :=
  state.database.replenishment.Verified state.database.registry.zones
    state.database.inventory.entries

theorem TenantState.Attempts.verified {event : RfidObservationEvent} {clock : Clock}
    {quarantineId evidenceId : Uuid} {middle : Database} {memory : RecentObservationState}
    (attempts : state.Attempts platform settings event clock quarantineId evidenceId middle memory)
    (verified : state.Verified) :
    middle.replenishment.Verified state.database.registry.zones middle.inventory.entries ∧
      state.database.replenishment.Follows middle.replenishment := by
  cases attempts.attempted with
  | duplicate | rejected => exact ⟨verified,.refl _⟩
  | located assignment connectivity binding evidenceStart effect ingress heard bound verdict
      finalized =>
      cases verdict with
      | ignored | unseen | refreshed => exact ⟨verified,.refl _⟩
      | moved decision inventory replenishment counts inferred timely apart performed =>
          exact moveItem_verified verified performed

theorem TenantState.next_verified (reachable : (tenant platform settings).Reachable state)
    (verified : state.Verified) (event : TenantEvent) :
    (state.next platform settings event).Verified ∧
      state.database.replenishment.Follows
        (state.next platform settings event).database.replenishment := by
  have same : ∀ {after : TenantState},
      after.database.replenishment = state.database.replenishment →
      after.database.registry.zones = state.database.registry.zones →
      after.database.inventory.entries = state.database.inventory.entries →
      after.Verified ∧ state.database.replenishment.Follows after.database.replenishment := by
    intro after tasks zones entries
    rw [Verified,tasks,zones,entries]
    exact ⟨verified,.refl _⟩
  have settled : ∀ event : PipelineEvent, event.settling = true →
      (state.inPipeline platform settings event).Verified ∧
        state.database.replenishment.Follows
          (state.inPipeline platform settings event).database.replenishment := by
    intro event settling
    obtain ⟨inventory,connectivity,equal,settles⟩ :=
      state.settle_database platform settings event settling
    rw [equal]
    exact same rfl rfl settles.entries
  have tasks : ∀ attempt : Attempt Replenishment, (∀ replenishment, attempt = .ok replenishment →
      replenishment.Verified state.database.registry.zones state.database.inventory.entries ∧
        state.database.replenishment.Follows replenishment) →
      (state.withTasks attempt).Verified ∧ state.database.replenishment.Follows
        (state.withTasks attempt).database.replenishment := by
    intro attempt holds
    unfold withTasks
    split
    · exact holds _ rfl
    · exact ⟨verified,.refl _⟩
  cases event with
  | accept device request receivedAt batchId =>
      obtain ⟨ingress,connectivity,accepted,equal⟩ := state.toRawState.accept_database platform device
        request receivedAt batchId
      simp only [next,equal]
      exact same rfl rfl rfl
  | handle eventId clock quarantineId evidenceId =>
      rcases RawState.handle_attempts platform settings (tenant_sound reachable) eventId clock
        quarantineId evidenceId with equal | ⟨event,middle,memory,addressed,attempts,equal⟩
      · simp only [next,handle,equal]
        exact same rfl rfl rfl
      · obtain ⟨result,processed⟩ := attempts.processed
        have registry := (processObservation_observed processed).registry
        simp only [next,handle,equal,Verified,Database.publishRaw,registry]
        exact attempts.verified verified
  | fail eventId error progress quarantineId now =>
      obtain ⟨ingress,recent,equal⟩ := state.toRawState.fail_database settings eventId error progress
        quarantineId now
      simp only [next,equal]
      exact same rfl rfl rfl
  | replay quarantineId =>
      obtain ⟨ingress,equal⟩ := state.toRawState.replay_database quarantineId
      simp only [next,equal]
      exact same rfl rfl rfl
  | restart | foreign | register | publish => exact same rfl rfl rfl
  | remove storeId request clock eventId =>
      obtain ⟨inventory,equal,-⟩ := state.remove_database platform settings storeId request clock
        eventId
      have ages := (TenantState.next_items reachable (.remove storeId request clock eventId)).ages
      simp only [next,equal,withDatabase] at ages ⊢
      exact ⟨verified.extend ages.entries,.refl _⟩
  | apply | applyFails | redeliver | rebuild => exact settled _ rfl
  | evaluate principal request minimumConfidence evaluatedAt taskId =>
      refine tasks _ fun replenishment evaluated => ?_
      cases accepted : evaluateReplenishment platform settings state.database principal request
          minimumConfidence evaluatedAt taskId with
      | error _ =>
          rw [accepted] at evaluated
          cases evaluated
      | ok decided =>
          rw [accepted] at evaluated
          cases evaluated
          exact evaluateReplenishment_verified verified accepted
  | patch principal taskId request now =>
      exact tasks _ fun replenishment patched => patchReplenishmentTask_verified verified patched

theorem tenant_verified (reachable : (tenant platform settings).Reachable state) :
    state.Verified := by
  have started : ∀ state : TenantState, state.Starts → state.Verified := by
    intro state starts
    refine ⟨?_,?_,?_⟩
    · rw [starts.tasks]
      intro task member
      cases member
    · rw [starts.evidence]
      intro row member
      cases member
    · rw [starts.tasks]
      intro task member
      cases member
  refine reachable.induct started ?_
  intro state event after reached verified taken
  cases taken
  exact (TenantState.next_verified reached verified event).1

/-- Verification accounting. The last part speaks of any later state: what a completed task gained
since is in time. -/
theorem verification_accounted (platform : Platform) (settings : Settings)
    {state finish : TenantState} {events : List TenantEvent}
    (reachable : (tenant platform settings).Reachable state)
    (reached : (tenant platform settings).run state events = some finish) :
    (∀ task ∈ finish.database.replenishment.tasks.rows,
      task.verifiedQuantity = ((finish.database.replenishment.evidenceOf task.id).length : ℤ) ∧
        task.verifiedQuantity ≤ task.quantity) ∧
    (∀ first ∈ finish.database.replenishment.evidence.rows,
      ∀ second ∈ finish.database.replenishment.evidence.rows,
        first.transitionId = second.transitionId → first = second) ∧
    (∀ row ∈ finish.database.replenishment.evidence.rows, ∃ task,
      finish.database.replenishment.tasks.find? row.taskId = some task ∧
      row.Proves finish.database.registry.zones finish.database.inventory.entries task ∧
      ∃ started, task.startedAt = some started ∧ started ≤ row.observedAt) ∧
    ∀ row ∈ finish.database.replenishment.evidence.rows,
      row ∉ state.database.replenishment.evidence.rows → ∀ task,
      state.database.replenishment.tasks.find? row.taskId = some task → task.status = .completed →
      ∃ deadline, task.verificationDeadline = some deadline ∧ row.observedAt ≤ deadline := by
  have verified := tenant_verified (reachable.after reached)
  refine ⟨fun task member => ⟨verified.counted task member,task.verifiedInRange.2⟩,
    fun first member second other => Table.eq_of_key _ member other,verified.proven,?_⟩
  have follows := reachable.run_relation (fun state after =>
    state.database.replenishment.Follows after.database.replenishment) (fun _ => .refl _)
    (fun _ _ _ => .trans) (fun state event after reachable taken => by
      cases taken
      exact (TenantState.next_verified reachable (tenant_verified reachable) event).2) reached
  exact follows.punctual

end Runs

namespace Sample

theorem thirdVersion : 1 ≤ 3 := by decide

/-- A tag in the backroom is asked for on the floor, and the task is started and completed. -/
def completedTask : List TenantEvent :=
  sees backroomReader "a" 1000000 100 ++
  [.publish policies,
   .apply (platform.transitionId registry.tenantId tag 1) 3000000,
   .evaluate manager ⟨storeId,[]⟩ 0 3000000 taskId,
   .patch manager (taskId skuId) ⟨.claimed,1,none,firstVersion⟩ 4000000,
   .patch manager (taskId skuId) ⟨.inProgress,2,none,secondVersion⟩ 5000000,
   .patch manager (taskId skuId) ⟨.completed,3,none,thirdVersion⟩ 6000000]

def verifiedMove : List TenantEvent := sees floorReader "b" 600000000 103

end Sample

theorem verification_accounted_sample :
    ((Sample.tenantRun (Sample.completedTask ++ Sample.verifiedMove)).database.replenishment.tasks.rows.map
      ReplenishmentTask.verifiedQuantity) = [1] ∧
    ∀ task ∈ (Sample.tenantRun
      (Sample.completedTask ++ Sample.verifiedMove)).database.replenishment.tasks.rows,
      task.verifiedQuantity = (((Sample.tenantRun
        (Sample.completedTask ++ Sample.verifiedMove)).database.replenishment.evidenceOf
          task.id).length : ℤ) ∧ task.verifiedQuantity ≤ task.quantity :=
  ⟨by decide +kernel,(verification_accounted Sample.platform Sample.settings
    (Sample.tenantStart_reachable.after (Sample.tenantRun_reached Sample.completedTask))
    (Sample.tenantRun_continues Sample.completedTask Sample.verifiedMove)).1⟩

end Abacus
