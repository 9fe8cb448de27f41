import Abacus.Model.Sample
import Abacus.Replenishment.TaskSessions

/-! The lifecycle of a task under concurrent patches, evaluations and verifications.
Versions only grow, so a patch whose version is not ahead of the row it read updates that
very row. One that is ahead may meet a row that it never checked.
-/
set_option autoImplicit false

namespace Abacus

open Relational (Table)
open Transition (Machine)

section Rows

/-- A change of status that the code permits to a principal. -/
structure LegalChange (principal : Principal) (task after : ReplenishmentTask) : Prop where
  edge : after.status ∈ allowedTransitions task.status ∨
    (after.status.closing = true ∧ task.status.active = true ∧ principal.manages task = true)
  claimant : task.status = .claimed ∨ task.status = .inProgress →
    task.claimedByUserId = some principal.userId ∨ principal.manages task = true
  claim : task.claimedByUserId ≠ after.claimedByUserId →
    task.status = .open ∧ after.status = .claimed ∧ after.claimedByUserId = some principal.userId

structure RowChange (patcher : Option Principal) (task after : ReplenishmentTask) : Prop where
  store : after.storeId = task.storeId
  version : task.version < after.version
  status : (after.status = task.status ∧ after.claimedByUserId = task.claimedByUserId) ∨
    ∃ principal ∈ patcher, LegalChange principal task after

variable {principal : Principal} {request : ReplenishmentTaskPatch} {task after : ReplenishmentTask}
  {now : Time} {window : ℕ}

theorem checkTaskPatch_eq_ok : checkTaskPatch principal task request = .ok () ↔
    principal.canAccessStore .replenishmentExecute task.storeId = true ∧
      (if request.status.closing = true then
        principal.manages task = true ∧ task.status.active = true
      else request.status ∈ allowedTransitions task.status) ∧
      (task.status = .claimed ∨ task.status = .inProgress →
        task.claimedByUserId = some principal.userId ∨ principal.manages task = true) := by
  have claimant : checkTaskClaimant principal task = .ok () ↔
      (task.status = .claimed ∨ task.status = .inProgress →
        task.claimedByUserId = some principal.userId ∨ principal.manages task = true) := by
    unfold checkTaskClaimant
    split
    · rename_i denied
      refine ⟨fun accepted => (by cases accepted),fun allowed => ?_⟩
      rcases allowed denied.1 with own | manages
      · exact absurd own denied.2.1
      · exact absurd manages denied.2.2
    · rename_i allowed
      refine ⟨fun _ claimed => ?_,fun _ => rfl⟩
      by_contra denied
      rw [not_or] at denied
      exact allowed ⟨claimed,denied.1,denied.2⟩
  have transition : checkTaskTransition principal task request.status = .ok () ↔
      if request.status.closing = true then
        principal.manages task = true ∧ task.status.active = true
      else request.status ∈ allowedTransitions task.status := by
    unfold checkTaskTransition
    by_cases closing : request.status.closing = true
    · rw [if_pos closing,if_pos closing]
      by_cases manages : principal.manages task = true
      · by_cases active : task.status.active = true
        · simp [manages,active]
        · simp [manages,active]
      · simp [manages]
    · rw [if_neg closing,if_neg closing]
      by_cases listed : request.status ∈ allowedTransitions task.status
      · simp [listed]
      · simp [listed]
  unfold checkTaskPatch ensureStoreScope
  rw [← claimant,← transition]
  constructor
  · intro accepted
    obtain ⟨_,access,accepted⟩ := bind_eq_ok.mp accepted
    obtain ⟨_,passed,accepted⟩ := bind_eq_ok.mp accepted
    refine ⟨?_,passed,accepted⟩
    split at access
    · assumption
    · cases access
  · rintro ⟨access,passed,accepted⟩
    rw [if_pos access]
    exact bind_eq_ok.mpr ⟨(),rfl,bind_eq_ok.mpr ⟨(),passed,accepted⟩⟩

/-- Only an open task is claimed. -/
theorem open_of_claimed (listed : ReplenishmentTaskStatus.claimed ∈ allowedTransitions task.status) :
    task.status = .open := by
  cases status : task.status <;> rw [status] at listed <;> simp [allowedTransitions] at listed

/-- A patch that passes the checks on the row it updates is legal. -/
theorem patch_rowChange (checked : checkTaskPatch principal task request = .ok ())
    (version : task.version = request.version) :
    RowChange (some principal) task (task.patch principal request now window) := by
  obtain ⟨-,edge,claimant⟩ := checkTaskPatch_eq_ok.mp checked
  refine ⟨rfl,?_,.inr ⟨principal,rfl,?_,claimant,?_⟩⟩
  · change task.version < request.version + 1
    omega
  · change request.status ∈ _ ∨ _
    split at edge
    · rename_i closing
      exact .inr ⟨closing,edge.2,edge.1⟩
    · exact .inl edge
  · change task.claimedByUserId ≠ (if _ then _ else _) → _
    split
    · rename_i claims
      intro _
      rw [claims] at edge
      exact ⟨open_of_claimed edge,claims,if_pos claims⟩
    · exact fun differ => absurd rfl differ

/-- No legal change opens a task. -/
theorem LegalChange.not_open (change : LegalChange principal task after) : after.status ≠ .open := by
  intro opened
  rcases change.edge with listed | ⟨closing,-⟩
  · rw [opened] at listed
    cases status : task.status <;> rw [status] at listed <;> simp [allowedTransitions] at listed
  · rw [opened] at closing
    cases closing

/-- A legal change leaves an active status. -/
theorem LegalChange.active (change : LegalChange principal task after) :
    task.status.active = true := by
  rcases change.edge with listed | ⟨-,active,-⟩
  · cases status : task.status <;> rw [status] at listed <;>
      simp [allowedTransitions] at listed <;> rfl
  · exact active

end Rows

section Writes

variable {replenishment after : Replenishment} {task : ReplenishmentTask} {window : ℕ}

/-- Growth and verification raise the version and keep status and claimant. -/
structure Bumped (task after : ReplenishmentTask) : Prop where
  store : after.storeId = task.storeId
  version : task.version < after.version
  status : after.status = task.status
  claimant : after.claimedByUserId = task.claimedByUserId

theorem Bumped.trans {first second third : ReplenishmentTask} (left : Bumped first second)
    (right : Bumped second third) : Bumped first third where
  store := right.store.trans left.store
  version := left.version.trans right.version
  status := right.status.trans left.status
  claimant := right.claimant.trans left.claimant

theorem Replenishment.record_rows {outcome : EvaluationOutcome}
    (recorded : replenishment.record outcome = some after) {taskId : Uuid}
    (found : replenishment.tasks.find? taskId = some task) :
    ∃ row, after.tasks.find? taskId = some row ∧
      (row = task ∨ outcome.grownId? = some taskId ∧ Bumped task row) := by
  cases outcome with
  | created created =>
      obtain ⟨-,written,-⟩ := Replenishment.insertTask_spec recorded
      have fresh := (Table.insert_eq_some written).1
      refine ⟨task,?_,.inl rfl⟩
      rw [Table.find?_insert written,if_neg ?_]
      · exact found
      · intro same
        rw [same,found] at fresh
        cases fresh
  | grown grownId quantity positive rule =>
      cases recorded
      have kept := Table.find?_modify replenishment.tasks grownId taskId
        (ReplenishmentTask.grow quantity positive rule)
        (ReplenishmentTask.grow_id quantity positive rule)
      by_cases same : taskId = grownId
      · subst same
        rw [if_pos rfl,found] at kept
        exact ⟨task.grow quantity positive rule,kept,
          .inr ⟨rfl,rfl,Nat.lt_succ_self task.version,rfl,rfl⟩⟩
      · rw [if_neg same,found] at kept
        exact ⟨task,kept,.inl rfl⟩
  | _ =>
      cases recorded
      exact ⟨task,found,.inl rfl⟩

theorem Replenishment.recordAll_rows {outcomes : List EvaluationOutcome}
    (recorded : replenishment.recordAll outcomes = some after) {taskId : Uuid}
    (found : replenishment.tasks.find? taskId = some task) :
    ∃ row, after.tasks.find? taskId = some row ∧
      (row = task ∨ (∃ outcome ∈ outcomes, outcome.grownId? = some taskId) ∧ Bumped task row) := by
  induction outcomes generalizing replenishment task with
  | nil =>
      cases recorded
      exact ⟨task,found,.inl rfl⟩
  | cons outcome outcomes ih =>
      obtain ⟨middle,first,rest⟩ := Option.bind_eq_some_iff.mp recorded
      obtain ⟨between,located,change⟩ := Replenishment.record_rows first found
      obtain ⟨row,final,later⟩ := ih rest located
      refine ⟨row,final,?_⟩
      rcases change with rfl | ⟨grown,bumped⟩
      · rcases later with same | ⟨⟨other,member,grown⟩,bumped⟩
        · exact .inl same
        · exact .inr ⟨⟨other,List.mem_cons_of_mem _ member,grown⟩,bumped⟩
      · rcases later with rfl | ⟨-,again⟩
        · exact .inr ⟨⟨outcome,List.mem_cons_self ..,grown⟩,bumped⟩
        · exact .inr ⟨⟨outcome,List.mem_cons_self ..,grown⟩,bumped.trans again⟩

theorem Replenishment.patchTask_rows {taskId : Uuid} {principal : Principal}
    {request : ReplenishmentTaskPatch} {now : Time}
    (patched : replenishment.patchTask taskId principal request now window = some after) (other : Uuid) :
    after.tasks.find? other = if other = taskId then
        (replenishment.tasks.find? taskId).map (ReplenishmentTask.patch principal request now window)
      else replenishment.tasks.find? other := by
  unfold Replenishment.patchTask at patched
  dsimp only at patched
  split at patched
  · cases patched
    exact Table.find?_modify replenishment.tasks taskId other
      (ReplenishmentTask.patch principal request now window)
      (ReplenishmentTask.patch_id principal request now window)
  · cases patched

def TaskWork.Sound (replenishment : Replenishment) : TaskWork → Prop
  | .patching principal request read =>
      checkTaskPatch principal read request = .ok () ∧
        ∃ task, replenishment.tasks.find? read.id = some task ∧ task.storeId = read.storeId ∧
          (task = read ∨ read.version < task.version) ∧
          (read.status ≠ .open → task.status ≠ .open ∧
            task.claimedByUserId = read.claimedByUserId)
  | .patched principal request taskId _ =>
      ∃ task, replenishment.tasks.find? taskId = some task ∧ task.version = request.version ∧
        checkTaskPatch principal task request = .ok ()
  | .evaluating _ outcomes locked =>
      ∀ outcome ∈ outcomes, ∀ taskId, outcome.grownId? = some taskId → taskId ∈ locked
  | .verifying _ => True

def TaskWork.patcher : TaskWork → Option Principal
  | .patched principal _ _ _ => some principal
  | _ => none

/-- A commit changes only rows that its session has locked, each of them legally. -/
theorem TaskWork.write_rows {work : TaskWork} (sound : work.Sound replenishment)
    (written : work.write window replenishment = some after) {taskId : Uuid}
    (found : replenishment.tasks.find? taskId = some task) :
    ∃ row, after.tasks.find? taskId = some row ∧
      (row = task ∨ taskId ∈ work.locks ∧ RowChange work.patcher task row) := by
  cases work with
  | patching principal request read =>
      cases written
      exact ⟨task,found,.inl rfl⟩
  | patched principal request patchedId now =>
      have located := Replenishment.patchTask_rows written taskId
      by_cases same : taskId = patchedId
      · subst same
        obtain ⟨current,here,version,checked⟩ := sound
        rw [found] at here
        cases here
        rw [if_pos rfl,found] at located
        exact ⟨_,located,.inr ⟨List.mem_singleton_self _,patch_rowChange checked version⟩⟩
      · rw [if_neg same,found] at located
        exact ⟨task,located,.inl rfl⟩
  | evaluating storeId outcomes locked =>
      obtain ⟨row,located,change⟩ := Replenishment.recordAll_rows written found
      refine ⟨row,located,change.imp_right ?_⟩
      rintro ⟨⟨outcome,member,grown⟩,bumped⟩
      exact ⟨sound outcome member taskId grown,bumped.store,bumped.version,
        .inl ⟨bumped.status,bumped.claimant⟩⟩
  | verifying evidence =>
      obtain ⟨rows,-,rfl⟩ := Option.map_eq_some_iff.mp written
      have kept := Table.find?_modify replenishment.tasks evidence.taskId taskId
        ReplenishmentTask.verify ReplenishmentTask.verify_id
      by_cases same : taskId = evidence.taskId
      · subst same
        rw [if_pos rfl,found] at kept
        exact ⟨task.verify,kept,.inr ⟨List.mem_singleton_self _,rfl,Nat.lt_succ_self task.version,
          .inl ⟨rfl,rfl⟩⟩⟩
      · rw [if_neg same,found] at kept
        exact ⟨task,kept,.inl rfl⟩

end Writes

section Invariant

structure TaskState.Sound (state : TaskState) : Prop where
  exclusive : ∀ first ∈ state.sessions.rows, ∀ second ∈ state.sessions.rows, ∀ taskId,
    taskId ∈ first.work.locks → taskId ∈ second.work.locks → first = second
  works : ∀ session ∈ state.sessions.rows, session.work.Sound state.replenishment

variable {state after : TaskState}

theorem TaskState.Sound.begin (sound : state.Sound) {sessionId : Uuid} {work : TaskWork}
    (started : state.begin sessionId work = some after)
    (free : ∀ taskId ∈ work.locks, state.isLocked taskId = false)
    (works : work.Sound state.replenishment) : after.Sound := by
  obtain ⟨sessions,inserted,rfl⟩ := Option.map_eq_some_iff.mp started
  have apart : ∀ session ∈ state.sessions.rows, ∀ taskId ∈ session.work.locks,
      taskId ∉ work.locks := by
    intro session member taskId held wanted
    have unlocked := free taskId wanted
    rw [TaskState.isLocked,List.any_eq_false] at unlocked
    exact unlocked session member (decide_eq_true held)
  refine ⟨?_,?_⟩
  · intro first firstMember second secondMember taskId left right
    rcases (Table.mem_insert inserted).mp firstMember with firstOld | rfl
    · rcases (Table.mem_insert inserted).mp secondMember with secondOld | rfl
      · exact sound.exclusive first firstOld second secondOld taskId left right
      · exact absurd right (apart first firstOld taskId left)
    · rcases (Table.mem_insert inserted).mp secondMember with secondOld | rfl
      · exact absurd left (apart second secondOld taskId right)
      · rfl
  · intro session member
    rcases (Table.mem_insert inserted).mp member with old | rfl
    · exact sound.works session old
    · exact works

theorem TaskState.mem_finish {sessionId : Uuid} {session : TaskSession} :
    session ∈ (state.finish sessionId).sessions.rows ↔
      session ∈ state.sessions.rows ∧ session.id ≠ sessionId := by
  simp [TaskState.finish,Table.deleteWhere]

theorem TaskState.mem_proceed {sessionId : Uuid} {work : TaskWork} {session : TaskSession}
    (member : session ∈ (state.proceed sessionId work).sessions.rows) :
    session ∈ state.sessions.rows ∨ session = ⟨sessionId,work⟩ := by
  obtain ⟨old,place,rfl⟩ := List.mem_map.mp member
  by_cases same : old.id = sessionId
  · subst same
    rw [if_pos (decide_eq_true rfl)]
    exact .inr rfl
  · rw [if_neg (by simpa using same)]
    exact .inl place

theorem TaskState.Sound.finish (sound : state.Sound) (sessionId : Uuid) :
    (state.finish sessionId).Sound where
  exclusive first firstMember second secondMember :=
    sound.exclusive first (TaskState.mem_finish.mp firstMember).1 second
      (TaskState.mem_finish.mp secondMember).1
  works session member := sound.works session (TaskState.mem_finish.mp member).1

/-- A patch that was not ahead of its row, or whose row still has the status it read, passes the
checks on the row that it updates. -/
theorem checked_of_read {replenishment : Replenishment} {principal : Principal}
    {request : ReplenishmentTaskPatch} {read task : ReplenishmentTask}
    (sound : (TaskWork.patching principal request read).Sound replenishment)
    (found : replenishment.tasks.find? read.id = some task)
    (version : task.version = request.version)
    (current : read.version < request.version → task.status = read.status ∨
      (request.status.closing = true ∧ task.status.active = true)) :
    checkTaskPatch principal task request = .ok () := by
  obtain ⟨checked,other,located,store,newer,claim⟩ := sound
  rw [found] at located
  cases located
  rcases newer with rfl | newer
  · exact checked
  · rw [version] at newer
    obtain ⟨access,edge,claimant⟩ := checkTaskPatch_eq_ok.mp checked
    have manages : principal.manages task = principal.manages read := by
      rw [Principal.manages,Principal.manages,store]
    refine checkTaskPatch_eq_ok.mpr ⟨by rw [store]; exact access,?_,?_⟩
    · split at edge
      · rename_i closing
        rw [if_pos closing]
        refine ⟨manages.trans edge.1,?_⟩
        rcases current newer with same | ⟨-,active⟩
        · rw [same]
          exact edge.2
        · exact active
      · rename_i advancing
        rw [if_neg advancing]
        rcases current newer with same | ⟨closing,-⟩
        · rw [same]
          exact edge
        · exact absurd closing advancing
    · intro claimed
      rw [manages]
      by_cases opened : read.status = .open
      · split at edge
        · exact .inr edge.1
        · rename_i advancing
          rcases current newer with same | ⟨closing,-⟩
          · rw [same,opened] at claimed
            rcases claimed with claimed | claimed <;> cases claimed
          · exact absurd closing advancing
      · obtain ⟨-,same⟩ := claim opened
        rw [same]
        split at edge
        · exact .inr edge.1
        · rename_i advancing
          rcases current newer with sameStatus | ⟨closing,-⟩
          · rw [sameStatus] at claimed
            exact claimant claimed
          · exact absurd closing advancing

/-- The rows that other sessions rely on survive a commit. -/
theorem TaskWork.Sound.of_write {work : TaskWork} {replenishment written : Replenishment}
    (sound : work.Sound replenishment) (patcher : Option Principal)
    (rows : ∀ taskId task, replenishment.tasks.find? taskId = some task →
      ∃ row, written.tasks.find? taskId = some row ∧
        (row = task ∨ taskId ∉ work.locks ∧ RowChange patcher task row)) : work.Sound written := by
  cases work with
  | patching principal request read =>
      obtain ⟨checked,task,found,store,newer,claim⟩ := sound
      obtain ⟨row,located,change⟩ := rows read.id task found
      refine ⟨checked,row,located,?_⟩
      rcases change with rfl | ⟨-,change⟩
      · exact ⟨store,newer,claim⟩
      · refine ⟨change.store.trans store,.inr ?_,fun claimed => ?_⟩
        · rcases newer with rfl | newer
          · exact change.version
          · exact newer.trans change.version
        · obtain ⟨notOpen,same⟩ := claim claimed
          rcases change.status with ⟨status,claimant⟩ | ⟨other,-,legal⟩
          · exact ⟨by rw [status]; exact notOpen,claimant.trans same⟩
          · refine ⟨legal.not_open,?_⟩
            by_contra differ
            exact notOpen (legal.claim fun kept => differ (kept.symm.trans same)).1
  | patched principal request taskId now =>
      obtain ⟨task,found,version,checked⟩ := sound
      obtain ⟨row,located,change⟩ := rows taskId task found
      rcases change with rfl | ⟨unlocked,-⟩
      · exact ⟨row,located,version,checked⟩
      · exact absurd (List.mem_singleton_self taskId) unlocked
  | evaluating storeId outcomes locked => exact sound
  | verifying evidence => trivial

theorem TaskState.Sound.write (sound : state.Sound) {session : TaskSession} {window : ℕ}
    {written : Replenishment} (mine : session ∈ state.sessions.rows)
    (wrote : session.work.write window state.replenishment = some written) :
    TaskState.Sound { state.finish session.id with replenishment := written } where
  exclusive := (sound.finish session.id).exclusive
  works other member := by
    obtain ⟨stored,differ⟩ := TaskState.mem_finish.mp member
    refine (sound.works other stored).of_write session.work.patcher fun taskId task located => ?_
    obtain ⟨row,after,change⟩ := TaskWork.write_rows (sound.works session mine) wrote located
    refine ⟨row,after,change.imp_right ?_⟩
    rintro ⟨locked,legal⟩
    refine ⟨fun held => ?_,legal⟩
    exact differ (congrArg TaskSession.id
      (sound.exclusive other stored session mine taskId held locked))

/-- No update meets a version ahead of the row that its patch read, with another status than it
read, unless it cancels or expires a task that is still active. -/
def TaskState.patchesWhatItChecked (state : TaskState) : TaskEvent → Bool
  | .patchUpdate sessionId _ =>
      match (state.sessions.find? sessionId).map TaskSession.work with
      | some (.patching _ request read) =>
          (state.replenishment.tasks.find? read.id).all fun task =>
            decide (task.version = request.version → read.version < request.version →
              task.status = read.status ∨
                (request.status.closing = true ∧ task.status.active = true))
      | _ => true
  | _ => true

theorem TaskState.Sound.update (sound : state.Sound) {sessionId : Uuid} {principal : Principal}
    {request : ReplenishmentTaskPatch} {read : ReplenishmentTask} {now : Time}
    (found : (state.sessions.find? sessionId).map TaskSession.work =
      some (.patching principal request read))
    (free : state.isLocked read.id = false) (matched : state.matchesVersion read.id request = true)
    (current : state.patchesWhatItChecked (.patchUpdate sessionId now) = true) :
    (state.proceed sessionId (.patched principal request read.id now)).Sound := by
  obtain ⟨session,located,work⟩ := Option.map_eq_some_iff.mp found
  obtain ⟨task,stored,same⟩ := (Option.any_eq_true _ _).mp matched
  have version := of_decide_eq_true same
  have held : ∀ other ∈ state.sessions.rows, read.id ∉ other.work.locks := by
    intro other member locked
    rw [TaskState.isLocked,List.any_eq_false] at free
    exact free other member (decide_eq_true locked)
  have checked : checkTaskPatch principal task request = .ok () := by
    have patching := sound.works session (Table.mem_of_find? located)
    rw [work] at patching
    refine checked_of_read patching stored version ?_
    rw [TaskState.patchesWhatItChecked,found] at current
    dsimp only at current
    rw [stored,Option.all_some,decide_eq_true_eq] at current
    exact current version
  refine ⟨?_,?_⟩
  · intro first firstMember second secondMember taskId left right
    rcases TaskState.mem_proceed firstMember with firstOld | rfl
    · rcases TaskState.mem_proceed secondMember with secondOld | rfl
      · exact sound.exclusive first firstOld second secondOld taskId left right
      · rw [List.mem_singleton.mp right] at left
        exact absurd left (held first firstOld)
    · rcases TaskState.mem_proceed secondMember with secondOld | rfl
      · rw [List.mem_singleton.mp left] at right
        exact absurd right (held second secondOld)
      · rfl
  · intro other member
    rcases TaskState.mem_proceed member with old | rfl
    · exact sound.works other old
    · exact ⟨task,stored,version,checked⟩

variable {platform : Platform} {settings : Settings} {window : ℕ}

/-- An evaluation locks every task that it grows. -/
theorem evaluation_grows_locked {db : Database} {request : ReplenishmentEvaluationCreate}
    {minimumConfidence : ℚ} {evaluatedAt : Time} {newId : Uuid → Uuid}
    {outcomes : List EvaluationOutcome}
    (decided : evaluationOutcomes platform settings db request minimumConfidence evaluatedAt newId =
      .ok outcomes) {outcome : EvaluationOutcome} (member : outcome ∈ outcomes) {taskId : Uuid}
    (grown : outcome.grownId? = some taskId) :
    taskId ∈ activeTaskIds db.replenishment request.storeId := by
  obtain ⟨keyed,rfl,-,targets,-,-⟩ := keyed_decisions decided
  obtain ⟨decision,place,rfl⟩ := List.mem_map.mp member
  have target := (targets decision place).1
  cases outcome : decision.2 with
  | grown grownId quantity positive rule =>
      rw [outcome] at target grown
      cases grown
      obtain ⟨task,active,same⟩ := target
      obtain ⟨stored,store,-,live⟩ := Replenishment.activeTask_eq_some_iff.mp active
      exact List.mem_map.mpr ⟨task,Table.mem_select.mpr ⟨stored,by simp [store,live]⟩,same⟩
  | _ =>
      rw [outcome] at grown
      cases grown

/-- What one statement does to the sessions and the tasks. -/
inductive TaskState.Step (state : TaskState) : TaskEvent → TaskState → Prop
  | idle (event : TaskEvent) : Step state event state
  | finish (event : TaskEvent) (sessionId : Uuid) : Step state event (state.finish sessionId)
  | begin {event : TaskEvent} {sessionId : Uuid} {work : TaskWork} {after : TaskState}
      (started : state.begin sessionId work = some after)
      (free : ∀ taskId ∈ work.locks, state.isLocked taskId = false)
      (works : work.Sound state.replenishment) : Step state event after
  | update {sessionId : Uuid} {now : Time} {principal : Principal}
      {request : ReplenishmentTaskPatch} {read : ReplenishmentTask}
      (found : (state.sessions.find? sessionId).map TaskSession.work =
        some (.patching principal request read))
      (free : state.isLocked read.id = false)
      (matched : state.matchesVersion read.id request = true) :
      Step state (.patchUpdate sessionId now)
        (state.proceed sessionId (.patched principal request read.id now))
  | write {session : TaskSession} {window : ℕ} {written : Replenishment}
      (found : state.sessions.find? session.id = some session)
      (wrote : session.work.write window state.replenishment = some written) :
      Step state (.commit session.id) { state.finish session.id with replenishment := written }

theorem TaskState.patchRead_step {sessionId taskId : Uuid} {principal : Principal}
    {request : ReplenishmentTaskPatch}
    (taken : state.patchRead sessionId taskId principal request = some after) :
    state.Step (.patchRead sessionId taskId principal request) after := by
  unfold TaskState.patchRead at taken
  split at taken
  · cases taken
    exact .idle _
  · rename_i task read
    refine .begin taken (fun _ member => (by cases member)) ?_
    unfold readTaskToPatch at read
    split at read
    · cases read
    · rename_i found
      obtain ⟨_,checked,same⟩ := bind_eq_ok.mp read
      cases same
      have keyed : task.id = taskId := Table.key_of_find? found
      exact ⟨checked,task,by rw [keyed]; exact found,rfl,.inl rfl,fun claimed => ⟨claimed,rfl⟩⟩

theorem TaskState.patchUpdate_step {sessionId : Uuid} {now : Time}
    (taken : state.patchUpdate sessionId now = some after) :
    state.Step (.patchUpdate sessionId now) after := by
  unfold TaskState.patchUpdate at taken
  split at taken
  · rename_i principal request read found
    split at taken
    · cases taken
    · rename_i free
      split at taken
      · rename_i matched
        cases taken
        exact .update found (by simpa using free) matched
      · cases taken
        exact .finish _ sessionId
  · cases taken

theorem TaskState.evaluationLock_step {sessionId : Uuid} {environment : Database}
    {principal : Principal} {request : ReplenishmentEvaluationCreate} {minimumConfidence : ℚ}
    {evaluatedAt : Time} {newId : Uuid → Uuid}
    (taken : state.evaluationLock platform settings sessionId environment principal request
      minimumConfidence evaluatedAt newId = some after) :
    state.Step (.evaluationLock sessionId environment principal request minimumConfidence evaluatedAt
      newId) after := by
  unfold TaskState.evaluationLock at taken
  split at taken
  · cases taken
  · rename_i free
    split at taken
    · split at taken
      · cases taken
        exact .idle _
      · rename_i outcomes decided
        refine .begin taken ?_ fun outcome member taskId grown =>
          evaluation_grows_locked decided member grown
        intro taskId member
        rw [Bool.or_eq_true,not_or,List.any_eq_true] at free
        by_contra locked
        exact free.2 ⟨taskId,member,by simpa using locked⟩
    · cases taken
      exact .idle _

theorem TaskState.verificationLock_step {sessionId storeId skuId : Uuid}
    {evidence : ReplenishmentTaskEvidence}
    (taken : state.verificationLock sessionId storeId skuId evidence = some after) :
    state.Step (.verificationLock sessionId storeId skuId evidence) after := by
  unfold TaskState.verificationLock at taken
  split at taken
  · split at taken
    · cases taken
    · rename_i free
      refine .begin taken (fun taskId member => ?_) trivial
      rw [List.mem_singleton.mp member]
      simpa using free
  · cases taken
    exact .idle _

theorem TaskState.next_step {event : TaskEvent}
    (taken : state.next platform settings window event = some after) : state.Step event after := by
  cases event with
  | patchRead sessionId taskId principal request => exact TaskState.patchRead_step taken
  | patchUpdate sessionId now => exact TaskState.patchUpdate_step taken
  | evaluationLock sessionId environment principal request minimumConfidence evaluatedAt newId =>
      exact TaskState.evaluationLock_step taken
  | verificationLock sessionId storeId skuId evidence =>
      exact TaskState.verificationLock_step taken
  | commit sessionId =>
      obtain ⟨session,found,rfl⟩ := Option.map_eq_some_iff.mp taken
      have keyed : session.id = sessionId := Table.key_of_find? found
      subst keyed
      unfold TaskState.commitSession
      split
      · exact .finish _ session.id
      · rename_i written wrote
        exact .write found wrote
  | rollback sessionId =>
      cases taken
      exact .finish _ sessionId

theorem TaskState.Sound.step {event : TaskEvent} (sound : state.Sound)
    (current : state.patchesWhatItChecked event = true) (step : state.Step event after) :
    after.Sound := by
  cases step with
  | idle => exact sound
  | finish _ sessionId => exact sound.finish sessionId
  | begin started free works => exact sound.begin started free works
  | update found free matched => exact sound.update found free matched current
  | write found wrote => exact sound.write (Table.mem_of_find? found) wrote

end Invariant

section Lifecycle

variable (platform : Platform) (settings : Settings) (window : ℕ)

def TaskState.committer (state : TaskState) : TaskEvent → Option Principal
  | .commit sessionId => (state.sessions.find? sessionId).bind fun session => session.work.patcher
  | _ => none

/-- Whatever is committed next leaves every task's status and claimant as they are, or changes them
legally. -/
def TaskState.ChangesLegally (state : TaskState) : Prop :=
  ∀ event after, state.next platform settings window event = some after →
    ∀ task ∈ state.replenishment.tasks.rows, ∃ row,
      after.replenishment.tasks.find? task.id = some row ∧
        ((row.status = task.status ∧ row.claimedByUserId = task.claimedByUserId) ∨
          ∃ principal ∈ state.committer event, LegalChange principal task row)

variable {platform settings window} {state : TaskState}

theorem TaskState.Sound.changesLegally (sound : state.Sound) :
    state.ChangesLegally platform settings window := by
  intro event after taken task member
  have found := Table.find?_of_mem member
  have kept : ∀ other : TaskState, other.replenishment = state.replenishment → ∃ row,
      other.replenishment.tasks.find? task.id = some row ∧
        ((row.status = task.status ∧ row.claimedByUserId = task.claimedByUserId) ∨
          ∃ principal ∈ state.committer event, LegalChange principal task row) :=
    fun other same => ⟨task,by rw [same]; exact found,.inl ⟨rfl,rfl⟩⟩
  cases TaskState.next_step taken with
  | idle => exact kept _ rfl
  | finish _ sessionId => exact kept _ rfl
  | begin started _ _ =>
      obtain ⟨sessions,-,rfl⟩ := Option.map_eq_some_iff.mp started
      exact kept _ rfl
  | update _ _ _ => exact kept _ rfl
  | @write session _ written located wrote =>
      obtain ⟨row,stored,change⟩ :=
        TaskWork.write_rows (sound.works session (Table.mem_of_find? located)) wrote found
      refine ⟨row,stored,?_⟩
      rcases change with rfl | ⟨-,change⟩
      · exact .inl ⟨rfl,rfl⟩
      · refine change.status.imp_right ?_
        rintro ⟨principal,mine,legal⟩
        refine ⟨principal,?_,legal⟩
        rw [TaskState.committer,located]
        exact mine

theorem taskSessions_sound (reachable : (taskSessions platform settings window).ReachableWithin
    (fun state event => state.patchesWhatItChecked event = true) state) : state.Sound := by
  refine Machine.ReachableWithin.invariant ?_ ?_ reachable
  · intro start empty
    have none_in : ∀ session, session ∉ start.sessions.rows := by
      intro session member
      rw [show start.sessions.rows = [] from empty] at member
      cases member
    exact ⟨fun first member => absurd member (none_in first),
      fun session member => absurd member (none_in session)⟩
  · intro before event after sound current taken
    exact sound.step current (TaskState.next_step taken)

def TaskState.Retains (state : TaskState) (task : ReplenishmentTask) : Prop :=
  ∃ row, state.replenishment.tasks.find? task.id = some row ∧ row.status = task.status

/-- A row keeps a terminal status over every guarded run. -/
theorem terminal_kept {start finish : TaskState} {events : List TaskEvent} (sound : start.Sound)
    (respects : (taskSessions platform settings window).Respects
      (fun state event => state.patchesWhatItChecked event = true) start events)
    (ran : (taskSessions platform settings window).run start events = some finish)
    {task : ReplenishmentTask} (member : task ∈ start.replenishment.tasks.rows)
    (terminal : task.status.active = false) :
    finish.Retains task := by
  have first : start.Sound ∧ start.Retains task :=
    ⟨sound,task,Table.find?_of_mem member,rfl⟩
  have kept : finish.Sound ∧ finish.Retains task := by
    refine @Machine.run_guarded _ _ _ _ (fun state => state.Sound ∧ state.Retains task) ?_ _ _ _
      first respects ran
    rintro state event after ⟨sound,row,found,status⟩ current taken
    refine ⟨sound.step current (TaskState.next_step taken),?_⟩
    obtain ⟨later,located,change⟩ :=
      sound.changesLegally event after taken row (Table.mem_of_find? found)
    rw [Table.key_of_find? found] at located
    refine ⟨later,located,?_⟩
    rcases change with ⟨same,-⟩ | ⟨principal,-,legal⟩
    · exact same.trans status
    · have active := legal.active
      rw [status,terminal] at active
      cases active
  exact kept.2

theorem source_unique {left right target : ReplenishmentTaskStatus}
    (first : target ∈ allowedTransitions left) (second : target ∈ allowedTransitions right) :
    left = right := by
  cases left <;> cases right <;> simp [allowedTransitions] at first second ⊢ <;>
    rw [first] at second <;> cases second

/-- An update that meets another status than its patch checked is not legal. -/
theorem moved_patch_illegal {principal : Principal} {request : ReplenishmentTaskPatch}
    {read task : ReplenishmentTask} {now : Time}
    (checked : checkTaskPatch principal read request = .ok ())
    (moved : ¬(task.status = read.status ∨
      (request.status.closing = true ∧ task.status.active = true))) :
    ¬LegalChange principal task (task.patch principal request now window) := by
  intro legal
  obtain ⟨-,edge,-⟩ := checkTaskPatch_eq_ok.mp checked
  rcases legal.edge with listed | ⟨closing,active,-⟩
  · change request.status ∈ allowedTransitions task.status at listed
    split at edge
    · exact moved (.inr ⟨‹_›,legal.active⟩)
    · exact moved (.inl (source_unique listed edge))
  · exact moved (.inr ⟨closing,active⟩)

/-- An update that does not meet what its patch checked writes an illegal change. -/
theorem TaskState.Sound.illegal_update (sound : state.Sound) {sessionId : Uuid} {now : Time}
    (moved : state.patchesWhatItChecked (.patchUpdate sessionId now) = false) :
    ∃ principal request read task,
      (state.sessions.find? sessionId).map TaskSession.work =
        some (.patching principal request read) ∧
      state.replenishment.tasks.find? read.id = some task ∧ task.version = request.version ∧
        ¬LegalChange principal task (task.patch principal request now window) := by
  unfold TaskState.patchesWhatItChecked at moved
  dsimp only at moved
  split at moved
  · next principal request read patching =>
      obtain ⟨task,stored,differs⟩ : ∃ task, state.replenishment.tasks.find? read.id = some task ∧
          ¬(task.version = request.version → read.version < request.version →
            task.status = read.status ∨
              (request.status.closing = true ∧ task.status.active = true)) := by
        cases stored : state.replenishment.tasks.find? read.id with
        | none => simp [stored] at moved
        | some task =>
            rw [stored,Option.all_some] at moved
            exact ⟨task,rfl,of_decide_eq_false moved⟩
      rw [Classical.not_imp,Classical.not_imp] at differs
      obtain ⟨session,located,work⟩ := Option.map_eq_some_iff.mp patching
      have checked := sound.works session (Table.mem_of_find? located)
      rw [work] at checked
      exact ⟨principal,request,read,task,patching,stored,differs.1,
        moved_patch_illegal checked.1 differs.2.2⟩
  · cases moved

/-- In runs whose updates meet the status that their patches checked, every committed change is
legal, and no task leaves a terminal status. An update that does not writes an illegal change. -/
theorem task_lifecycle_safe (platform : Platform) (settings : Settings) (window : ℕ)
    {state : TaskState} (reachable : (taskSessions platform settings window).ReachableWithin
      (fun state event => state.patchesWhatItChecked event = true) state) :
    state.ChangesLegally platform settings window ∧
      (∀ events finish, (taskSessions platform settings window).Respects
          (fun state event => state.patchesWhatItChecked event = true) state events →
        (taskSessions platform settings window).run state events = some finish →
        ∀ task ∈ state.replenishment.tasks.rows, task.status.active = false →
          finish.Retains task) ∧
      ∀ sessionId now, state.patchesWhatItChecked (.patchUpdate sessionId now) = false →
        ∃ principal request read task,
          (state.sessions.find? sessionId).map TaskSession.work =
            some (.patching principal request read) ∧
          state.replenishment.tasks.find? read.id = some task ∧ task.version = request.version ∧
            ¬LegalChange principal task (task.patch principal request now window) :=
  ⟨(taskSessions_sound reachable).changesLegally,fun _ _ respects ran _ member terminal =>
    terminal_kept (taskSessions_sound reachable) respects ran member terminal,
    fun _ _ moved => (taskSessions_sound reachable).illegal_update moved⟩


end Lifecycle

namespace Sample

def associate (userId : Uuid) : Principal where
  userId := userId
  tenantId := registry.tenantId
  roleScopes := [⟨.canonical .storeAssociate,some storeId⟩]

def openTask : ReplenishmentTask :=
  newTask 80 storeId skuId rule 3 (by decide)

def oneTask : TaskState where
  replenishment :=
    { tasks := ⟨[openTask],by decide⟩
      evidence := Table.empty
      oneActive := by
        intro first member second other _ _ _ _
        rw [List.mem_singleton.mp member,List.mem_singleton.mp other] }
  sessions := Table.empty

def claim (version : ℕ) (positive : 1 ≤ version) : ReplenishmentTaskPatch where
  status := .claimed
  version := version
  positiveVersion := positive

def taskRun (events : List TaskEvent) : TaskState :=
  ((taskSessions platform settings 900).run oneTask events).getD oneTask

/-- An associate claims the open task. -/
theorem secondVersion : 1 ≤ 2 := by decide

def claimed : List TaskEvent :=
  [.patchRead 1 80 (associate 61) (claim 1 firstVersion),.patchUpdate 1 5,.commit 1]

/-- Another associate, whose request is one version ahead, read the task before it was claimed. -/
def claimedTwice : List TaskEvent :=
  [.patchRead 2 80 (associate 62) (claim 2 secondVersion),
   .patchRead 1 80 (associate 61) (claim 1 firstVersion),.patchUpdate 1 5,.commit 1,
   .patchUpdate 2 6]

end Sample

theorem task_lifecycle_safe_sample :
    (Sample.taskRun Sample.claimed).replenishment.tasks.rows.map
        ReplenishmentTask.claimedByUserId = [some 61] ∧
      (Sample.taskRun Sample.claimed).ChangesLegally Sample.platform Sample.settings 900 ∧
      ∀ events finish, (taskSessions Sample.platform Sample.settings 900).Respects
          (fun state event => state.patchesWhatItChecked event = true)
          (Sample.taskRun Sample.claimed) events →
        (taskSessions Sample.platform Sample.settings 900).run (Sample.taskRun Sample.claimed)
          events = some finish →
        ∀ task ∈ (Sample.taskRun Sample.claimed).replenishment.tasks.rows,
          task.status.active = false → finish.Retains task := by
  obtain ⟨legal,terminal,-⟩ := task_lifecycle_safe Sample.platform Sample.settings 900
    ⟨Sample.oneTask,Sample.claimed,rfl,by decide +kernel,Machine.run_getD (by decide +kernel)⟩
  exact ⟨by decide +kernel,legal,terminal⟩

/-- The second claim takes the task from its claimant. -/
theorem claim_taken_over :
    ¬∀ state, (taskSessions Sample.platform Sample.settings 900).Reachable state →
      state.ChangesLegally Sample.platform Sample.settings 900 := by
  intro legally
  have reached : (taskSessions Sample.platform Sample.settings 900).Reachable
      (Sample.taskRun Sample.claimedTwice) :=
    ⟨Sample.oneTask,Sample.claimedTwice,rfl,Machine.run_getD (by decide +kernel)⟩
  have rows : (Sample.taskRun Sample.claimedTwice).replenishment.tasks.rows.map
      (fun task => (task.id,task.claimedByUserId)) = [(80,some 61)] := by decide +kernel
  obtain ⟨task,member,shape⟩ : ∃ task ∈
      (Sample.taskRun Sample.claimedTwice).replenishment.tasks.rows,
        (task.id,task.claimedByUserId) = (80,some 61) := by
    have listed : (80,some 61) ∈ (Sample.taskRun Sample.claimedTwice).replenishment.tasks.rows.map
        (fun task => (task.id,task.claimedByUserId)) := by
      rw [rows]
      exact List.mem_singleton_self _
    exact List.mem_map.mp listed
  obtain ⟨keyed,claimant⟩ := Prod.mk.inj shape
  have after : (((Sample.taskRun Sample.claimedTwice).next Sample.platform Sample.settings 900
      (.commit 2)).bind fun after => after.replenishment.tasks.find? 80).map
        ReplenishmentTask.claimedByUserId = some (some 62) := by decide +kernel
  cases taken : (Sample.taskRun Sample.claimedTwice).next Sample.platform Sample.settings 900
      (.commit 2) with
  | none =>
      rw [taken] at after
      cases after
  | some finish =>
      rw [taken,Option.bind_some] at after
      obtain ⟨row,found,change⟩ := legally _ reached _ finish taken task member
      rw [keyed] at found
      rw [found,Option.map_some] at after
      have differ : row.claimedByUserId ≠ task.claimedByUserId := by
        rw [Option.some.inj after,claimant]
        decide
      rcases change with ⟨-,same⟩ | ⟨principal,-,legal⟩
      · exact differ same
      · have opened := (legal.claim (Ne.symm differ)).1
        have statuses : (Sample.taskRun Sample.claimedTwice).replenishment.tasks.rows.all
            (fun task => decide (task.status = .claimed)) = true := by decide +kernel
        have status := of_decide_eq_true (List.all_eq_true.mp statuses task member)
        rw [opened] at status
        cases status

end Abacus
