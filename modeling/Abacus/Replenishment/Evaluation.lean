import Abacus.Model.Replenishment

/-! What one evaluation does to the active task of every SKU. -/
set_option autoImplicit false

namespace Abacus

open Relational (Table OrderedDict)

section ActiveTasks

variable {replenishment after : Replenishment} {storeId skuId : Uuid}

theorem Replenishment.activeTask_eq_some_iff {task : ReplenishmentTask} :
    replenishment.activeTask storeId skuId = some task ↔
      task ∈ replenishment.tasks.rows ∧ task.storeId = storeId ∧ task.skuId = skuId ∧
        task.status.active = true := by
  constructor
  · intro found
    have member := List.mem_of_find?_eq_some found
    have matched := List.find?_some found
    simp only [Bool.and_eq_true,decide_eq_true_eq] at matched
    exact ⟨member,matched.1.1,matched.1.2,matched.2⟩
  · rintro ⟨member,store,sku,active⟩
    cases found : replenishment.activeTask storeId skuId with
    | none =>
        have missing := List.find?_eq_none.mp found task member
        simp [store,sku,active] at missing
    | some other =>
        have stored := List.mem_of_find?_eq_some found
        have matched := List.find?_some found
        simp only [Bool.and_eq_true,decide_eq_true_eq] at matched
        rw [replenishment.oneActive other stored task member matched.2 active
          (matched.1.1.trans store.symm) (matched.1.2.trans sku.symm)]

theorem Replenishment.insertTask_spec {task : ReplenishmentTask}
    (inserted : replenishment.insertTask task = some after) :
    replenishment.activeTask task.storeId task.skuId = none ∧
      replenishment.tasks.insert task = some after.tasks ∧
      after.evidence = replenishment.evidence := by
  unfold Replenishment.insertTask at inserted
  split at inserted
  · cases inserted
  · rename_i free
    split at inserted
    · cases inserted
    · rename_i tasks written
      cases inserted
      exact ⟨by simpa using free,written,rfl⟩

theorem Replenishment.insertTask_of_fresh {task : ReplenishmentTask}
    (free : replenishment.activeTask task.storeId task.skuId = none)
    (fresh : replenishment.tasks.find? task.id = none) :
    (replenishment.insertTask task).isSome = true := by
  obtain ⟨tasks,written⟩ := replenishment.tasks.insert_of_fresh task fresh
  unfold Replenishment.insertTask
  rw [dif_neg (by simp [free])]
  split
  · rename_i refused
    rw [written] at refused
    cases refused
  · rfl

/-- A task that an outcome may write for a SKU: a new open one, or the active one. -/
def Replenishment.Targets (replenishment : Replenishment) (storeId skuId : Uuid) :
    EvaluationOutcome → Prop
  | .created task => task.storeId = storeId ∧ task.skuId = skuId ∧ task.status = .open
  | .grown taskId _ _ _ => ∃ task, replenishment.activeTask storeId skuId = some task ∧
      task.id = taskId
  | _ => True

def EvaluationOutcome.activeAfter (outcome : EvaluationOutcome) (active : Option ReplenishmentTask) :
    Option ReplenishmentTask :=
  match outcome with
  | .created task => some task
  | .grown _ quantity positive rule => active.map (ReplenishmentTask.grow quantity positive rule)
  | _ => active

theorem Replenishment.insertTask_activeTask {task : ReplenishmentTask}
    (inserted : replenishment.insertTask task = some after) (opened : task.status = .open)
    (otherStore otherSku : Uuid) : after.activeTask otherStore otherSku =
      if task.storeId = otherStore ∧ task.skuId = otherSku then some task
      else replenishment.activeTask otherStore otherSku := by
  obtain ⟨-,written,-⟩ := Replenishment.insertTask_spec inserted
  have active : task.status.active = true := by rw [opened]; rfl
  split
  · rename_i same
    exact Replenishment.activeTask_eq_some_iff.mpr
      ⟨(Table.mem_insert written).mpr (.inr rfl),same.1,same.2,active⟩
  · rename_i apart
    apply Option.ext
    intro other
    rw [Replenishment.activeTask_eq_some_iff,Replenishment.activeTask_eq_some_iff,
      Table.mem_insert written]
    constructor
    · rintro ⟨stored | rfl,store,sku,rest⟩
      · exact ⟨stored,store,sku,rest⟩
      · exact absurd ⟨store,sku⟩ apart
    · rintro ⟨stored,rest⟩
      exact ⟨.inl stored,rest⟩

theorem Replenishment.modifyTask_activeTask {task : ReplenishmentTask}
    (found : replenishment.activeTask storeId skuId = some task)
    {change : ReplenishmentTask → ReplenishmentTask} (keepsKey : ∀ task, (change task).id = task.id)
    (keepsIndex : ∀ task, ((change task).status.active → task.status.active) ∧
      (change task).storeId = task.storeId ∧ (change task).skuId = task.skuId)
    (stays : (change task).status.active = true) (otherStore otherSku : Uuid) :
    (replenishment.modifyTask task.id change keepsKey keepsIndex).activeTask otherStore otherSku =
      if storeId = otherStore ∧ skuId = otherSku then some (change task)
      else replenishment.activeTask otherStore otherSku := by
  obtain ⟨member,store,sku,active⟩ := Replenishment.activeTask_eq_some_iff.mp found
  split
  · rename_i same
    refine Replenishment.activeTask_eq_some_iff.mpr ⟨?_,?_,?_,stays⟩
    · exact List.mem_map.mpr ⟨task,member,by simp⟩
    · exact (keepsIndex task).2.1.trans (store.trans same.1)
    · exact (keepsIndex task).2.2.trans (sku.trans same.2)
  · rename_i apart
    apply Option.ext
    intro other
    rw [Replenishment.activeTask_eq_some_iff,Replenishment.activeTask_eq_some_iff]
    constructor
    · rintro ⟨stored,otherStoreEq,otherSkuEq,otherActive⟩
      obtain ⟨old,place,rfl⟩ := List.mem_map.mp stored
      by_cases same : old.id = task.id
      · have equal := replenishment.tasks.eq_of_key place member same
        subst equal
        simp only [decide_true,if_true] at otherStoreEq otherSkuEq
        exact absurd ⟨store.symm.trans ((keepsIndex old).2.1.symm.trans otherStoreEq),
          sku.symm.trans ((keepsIndex old).2.2.symm.trans otherSkuEq)⟩ apart
      · simp only [same,decide_false,Bool.false_eq_true,if_false]
          at otherStoreEq otherSkuEq otherActive ⊢
        exact ⟨place,otherStoreEq,otherSkuEq,otherActive⟩
    · rintro ⟨stored,otherStoreEq,otherSkuEq,otherActive⟩
      have differ : other.id ≠ task.id := by
        intro same
        have equal := replenishment.tasks.eq_of_key stored member same
        subst equal
        exact apart ⟨store.symm.trans otherStoreEq,sku.symm.trans otherSkuEq⟩
      exact ⟨List.mem_map.mpr ⟨other,stored,by simp [differ]⟩,otherStoreEq,otherSkuEq,otherActive⟩

/-- One outcome changes the active task of its own SKU only. -/
theorem Replenishment.record_activeTask {outcome : EvaluationOutcome}
    (targets : replenishment.Targets storeId skuId outcome)
    (recorded : replenishment.record outcome = some after) (otherStore otherSku : Uuid) :
    after.activeTask otherStore otherSku = if storeId = otherStore ∧ skuId = otherSku then
        outcome.activeAfter (replenishment.activeTask storeId skuId)
      else replenishment.activeTask otherStore otherSku := by
  have unchanged : after = replenishment →
      after.activeTask otherStore otherSku = if storeId = otherStore ∧ skuId = otherSku then
          replenishment.activeTask storeId skuId
        else replenishment.activeTask otherStore otherSku := by
    rintro rfl
    split
    · rename_i same
      rw [same.1,same.2]
    · rfl
  cases outcome with
  | created task =>
      obtain ⟨store,sku,opened⟩ := targets
      rw [Replenishment.insertTask_activeTask recorded opened otherStore otherSku]
      simp only [store,sku,EvaluationOutcome.activeAfter]
  | grown taskId quantity positive rule =>
      obtain ⟨task,found,rfl⟩ := targets
      cases recorded
      have active := (Replenishment.activeTask_eq_some_iff.mp found).2.2.2
      rw [Replenishment.modifyTask_activeTask found _ _ active]
      simp only [found,EvaluationOutcome.activeAfter,Option.map_some]
  | lowConfidence => cases recorded; exact unchanged rfl
  | unmatched => cases recorded; exact unchanged rfl
  | covered => cases recorded; exact unchanged rfl
  | deferred quantity => cases recorded; exact unchanged rfl

/-- Outcomes for different SKUs do not meet, and no outcome reaches another store. -/
theorem Replenishment.recordAll_activeTask {decisions : List (Uuid × EvaluationOutcome)}
    (distinct : (decisions.map Prod.fst).Nodup)
    (targets : ∀ decision ∈ decisions, replenishment.Targets storeId decision.1 decision.2)
    (recorded : replenishment.recordAll (decisions.map Prod.snd) = some after) :
    (∀ decision ∈ decisions, after.activeTask storeId decision.1 =
      decision.2.activeAfter (replenishment.activeTask storeId decision.1)) ∧
    ∀ otherStore skuId, ¬(storeId = otherStore ∧ skuId ∈ decisions.map Prod.fst) →
      after.activeTask otherStore skuId = replenishment.activeTask otherStore skuId := by
  induction decisions generalizing replenishment with
  | nil =>
      cases recorded
      exact ⟨fun _ member => (by cases member),fun _ _ _ => rfl⟩
  | cons decision decisions ih =>
      obtain ⟨absent,distinct⟩ := List.nodup_cons.mp distinct
      obtain ⟨middle,first,rest⟩ := Option.bind_eq_some_iff.mp recorded
      have step := Replenishment.record_activeTask (targets decision (List.mem_cons_self ..)) first
      have kept : ∀ other ∈ decisions,
          middle.activeTask storeId other.1 = replenishment.activeTask storeId other.1 := by
        intro other member
        rw [step,if_neg]
        rintro ⟨-,same⟩
        exact absent (same ▸ List.mem_map_of_mem member)
      have later : ∀ other ∈ decisions, middle.Targets storeId other.1 other.2 := by
        intro other member
        have target := targets other (List.mem_cons_of_mem _ member)
        cases outcome : other.2 with
        | grown taskId quantity positive rule =>
            rw [outcome] at target
            obtain ⟨task,found,same⟩ := target
            exact ⟨task,(kept other member).trans found,same⟩
        | created task =>
            rw [outcome] at target
            exact target
        | _ => trivial
      obtain ⟨inside,outside⟩ := ih distinct later rest
      constructor
      · intro other member
        rcases List.mem_cons.mp member with rfl | member
        · rw [outside storeId other.1 fun both => absent both.2,step,if_pos ⟨rfl,rfl⟩]
        · rw [inside other member,kept other member]
      · intro otherStore skuId missing
        rw [List.map_cons,List.mem_cons] at missing
        rw [outside otherStore skuId fun both => missing ⟨both.1,.inr both.2⟩,step,
          if_neg fun both => missing ⟨both.1,.inl both.2.symm⟩]

/-- New ids never collide, so the writes of an evaluation succeed. -/
theorem Replenishment.recordAll_of_fresh {decisions : List (Uuid × EvaluationOutcome)}
    {taskId : Uuid → Uuid} (apart : Function.Injective taskId)
    (distinct : (decisions.map Prod.fst).Nodup)
    (fresh : ∀ decision ∈ decisions, replenishment.tasks.find? (taskId decision.1) = none)
    (free : ∀ decision ∈ decisions, ∀ task, decision.2 = .created task →
      task.id = taskId decision.1 ∧ replenishment.activeTask task.storeId task.skuId = none ∧
        task.storeId = storeId ∧ task.skuId = decision.1 ∧ task.status = .open)
    (targets : ∀ decision ∈ decisions, replenishment.Targets storeId decision.1 decision.2) :
    (replenishment.recordAll (decisions.map Prod.snd)).isSome = true := by
  induction decisions generalizing replenishment with
  | nil => rfl
  | cons decision decisions ih =>
      obtain ⟨absent,distinct⟩ := List.nodup_cons.mp distinct
      have here := fresh decision (List.mem_cons_self ..)
      have succeeds : (replenishment.record decision.2).isSome = true := by
        cases outcome : decision.2 with
        | created task =>
            obtain ⟨id,none_active,-⟩ := free decision (List.mem_cons_self ..) task outcome
            exact Replenishment.insertTask_of_fresh none_active (by rw [id]; exact here)
        | _ => rfl
      obtain ⟨middle,first⟩ := Option.isSome_iff_exists.mp succeeds
      have step := Replenishment.record_activeTask (targets decision (List.mem_cons_self ..)) first
      have differ : ∀ other ∈ decisions, other.1 ≠ decision.1 := by
        intro other member same
        exact absent (same ▸ List.mem_map_of_mem member)
      rw [List.map_cons,Replenishment.recordAll,first,Option.bind_some]
      apply ih distinct
      · intro other member
        have unused := fresh other (List.mem_cons_of_mem _ member)
        have ids : taskId decision.1 ≠ taskId other.1 := fun same =>
          differ other member (apart same).symm
        cases outcome : decision.2 with
        | created task =>
            obtain ⟨id,-⟩ := free decision (List.mem_cons_self ..) task outcome
            rw [outcome] at first
            obtain ⟨-,written,-⟩ := Replenishment.insertTask_spec first
            rw [Table.find?_insert written,if_neg (by rw [id]; exact ids)]
            exact unused
        | grown grownId quantity positive rule =>
            rw [outcome] at first
            cases first
            have kept := Table.find?_modify replenishment.tasks grownId (taskId other.1)
              (ReplenishmentTask.grow quantity positive rule)
              (ReplenishmentTask.grow_id quantity positive rule)
            refine kept.trans ?_
            split
            · rename_i same
              rw [← same,unused]
              rfl
            · exact unused
        | _ =>
            rw [outcome] at first
            cases first
            exact unused
      · intro other member task outcome
        obtain ⟨id,none_active,store,sku,opened⟩ :=
          free other (List.mem_cons_of_mem _ member) task outcome
        refine ⟨id,?_,store,sku,opened⟩
        rw [store,sku] at none_active ⊢
        rw [step,if_neg fun both => differ other member both.2.symm]
        exact none_active
      · intro other member
        have target := targets other (List.mem_cons_of_mem _ member)
        cases outcome : other.2 with
        | grown taskId quantity positive rule =>
            rw [outcome] at target
            obtain ⟨task,found,same⟩ := target
            exact ⟨task,by rw [step,if_neg fun both => differ other member both.2.symm]; exact found,same⟩
        | created task =>
            rw [outcome] at target
            exact target
        | _ => trivial

end ActiveTasks

section Outcomes

variable {platform : Platform} {settings : Settings} {db : Database} {rules : List PolicyRule}
  {storeId : Uuid} {minimumConfidence : ℚ} {active : Option ReplenishmentTask} {taskId : Uuid}
  {snapshot : InventorySnapshot} {outcome : EvaluationOutcome}

/-- A SKU is refused exactly when it is confident enough to be asked for a rule that is ambiguous. -/
theorem evaluateSnapshot_error_iff :
    (∃ failure, evaluateSnapshot platform rules storeId minimumConfidence active taskId snapshot =
        .error failure) ↔
      minimumConfidence ≤ snapshot.confidence ∧
        ∃ failure, selectPolicyRule platform rules storeId snapshot.item = .error failure := by
  unfold evaluateSnapshot
  by_cases low : snapshot.confidence < minimumConfidence
  · rw [if_pos low]
    constructor
    · rintro ⟨failure,nothing⟩
      cases nothing
    · rintro ⟨enough,-⟩
      exact absurd low (not_lt.mpr enough)
  · rw [if_neg low]
    cases selected : selectPolicyRule platform rules storeId snapshot.item with
    | error failure => exact ⟨fun _ => ⟨not_lt.mp low,failure,rfl⟩,fun _ => ⟨_,rfl⟩⟩
    | ok choice =>
        constructor
        · rintro ⟨failure,failed⟩
          cases choice <;> cases failed
        · rintro ⟨-,failure,nothing⟩
          cases nothing

section Decisions

variable {rule : PolicyRule} {task : ReplenishmentTask}

theorem decideTask_covered (satisfied : ¬0 < snapshot.shortage rule active) :
    decideTask storeId active taskId snapshot rule = .covered := by
  unfold decideTask
  exact dif_neg satisfied

theorem decideTask_created (positive : 0 < snapshot.shortage rule none) :
    decideTask storeId none taskId snapshot rule = .created
      (newTask taskId storeId snapshot.item.skuId rule (snapshot.shortage rule none) positive) := by
  unfold decideTask
  exact dif_pos positive

theorem decideTask_grown (positive : 0 < snapshot.shortage rule (some task))
    (opened : task.status = .open) :
    decideTask storeId (some task) taskId snapshot rule =
      .grown task.id (snapshot.shortage rule (some task)) positive rule := by
  unfold decideTask
  exact (dif_pos positive).trans (if_pos opened)

theorem decideTask_deferred (positive : 0 < snapshot.shortage rule (some task))
    (claimed : task.status ≠ .open) :
    decideTask storeId (some task) taskId snapshot rule =
      .deferred (snapshot.shortage rule (some task)) := by
  unfold decideTask
  exact (dif_pos positive).trans (if_neg claimed)

theorem decideTask_targets {replenishment : Replenishment} :
    replenishment.Targets storeId snapshot.item.skuId (decideTask storeId
      (replenishment.activeTask storeId snapshot.item.skuId) taskId snapshot rule) ∧
      ∀ task, decideTask storeId (replenishment.activeTask storeId snapshot.item.skuId) taskId
        snapshot rule = .created task → task.id = taskId ∧
          replenishment.activeTask task.storeId task.skuId = none ∧ task.storeId = storeId ∧
          task.skuId = snapshot.item.skuId ∧ task.status = .open := by
  cases found : replenishment.activeTask storeId snapshot.item.skuId with
  | none =>
      by_cases positive : 0 < snapshot.shortage rule none
      · rw [decideTask_created positive]
        refine ⟨⟨rfl,rfl,rfl⟩,?_⟩
        intro task same
        cases same
        exact ⟨rfl,found,rfl,rfl,rfl⟩
      · rw [decideTask_covered positive]
        exact ⟨trivial,fun _ same => (by cases same)⟩
  | some task =>
      by_cases positive : 0 < snapshot.shortage rule (some task)
      · by_cases opened : task.status = .open
        · rw [decideTask_grown positive opened]
          exact ⟨⟨task,found,rfl⟩,fun _ same => (by cases same)⟩
        · rw [decideTask_deferred positive opened]
          exact ⟨trivial,fun _ same => (by cases same)⟩
      · rw [decideTask_covered positive]
        exact ⟨trivial,fun _ same => (by cases same)⟩

end Decisions

/-- What an outcome for a SKU writes is its own. -/
theorem evaluateSnapshot_targets {replenishment : Replenishment}
    (evaluated : evaluateSnapshot platform rules storeId minimumConfidence
      (replenishment.activeTask storeId snapshot.item.skuId) taskId snapshot = .ok outcome) :
    replenishment.Targets storeId snapshot.item.skuId outcome ∧
      ∀ task, outcome = .created task → task.id = taskId ∧
        replenishment.activeTask task.storeId task.skuId = none ∧ task.storeId = storeId ∧
        task.skuId = snapshot.item.skuId ∧ task.status = .open := by
  unfold evaluateSnapshot at evaluated
  split at evaluated
  · cases evaluated
    exact ⟨trivial,fun _ same => (by cases same)⟩
  · split at evaluated
    · cases evaluated
    · cases evaluated
      exact ⟨trivial,fun _ same => (by cases same)⟩
    · cases evaluated
      exact decideTask_targets

theorem snapshotOf_item {readings : List BucketReading} (found : snapshotOf readings = some snapshot) :
    ∃ reading ∈ readings, snapshot.item = reading.item := by
  cases readings with
  | nil => cases found
  | cons reading readings =>
      cases found
      refine ⟨reading,List.mem_cons_self ..,?_⟩
      have kept : ∀ (rest : List BucketReading) (start : InventorySnapshot),
          (rest.foldl InventorySnapshot.absorb start).item = start.item := by
        intro rest
        induction rest with
        | nil => exact fun _ => rfl
        | cons other rest ih => exact fun start => ih (start.absorb other)
      exact kept _ _

/-- No two snapshots are of one SKU. -/
theorem inventorySnapshots_distinct (platform : Platform) (settings : Settings) (db : Database)
    (request : ReplenishmentEvaluationCreate) (evaluatedAt : Time) :
    ((inventorySnapshots platform settings db request evaluatedAt).map fun snapshot =>
      snapshot.item.skuId).Nodup := by
  set readings := bucketReadings platform settings db request evaluatedAt with readingsDef
  have grouped := (OrderedDict.groupBy (fun reading : BucketReading => reading.item.skuId) readings).unique
  have keyed : ∀ entry ∈ (OrderedDict.groupBy
      (fun reading : BucketReading => reading.item.skuId) readings).rows,
      ∀ snapshot, snapshotOf entry.2 = some snapshot → snapshot.item.skuId = entry.1 := by
    rintro ⟨skuId,group⟩ member snapshot found
    obtain ⟨same,-⟩ := OrderedDict.mem_groupBy member
    obtain ⟨reading,place,item⟩ := snapshotOf_item found
    rw [same] at place
    rw [item]
    simpa using (List.mem_filter.mp place).2
  rw [inventorySnapshots,OrderedDict.values,← readingsDef]
  generalize (OrderedDict.groupBy (fun reading : BucketReading => reading.item.skuId)
    readings).rows = entries at grouped keyed
  induction entries with
  | nil => exact List.nodup_nil
  | cons entry entries ih =>
      obtain ⟨absent,distinct⟩ := List.nodup_cons.mp grouped
      have tail := ih distinct fun other member => keyed other (List.mem_cons_of_mem _ member)
      rw [List.map_cons,List.filterMap_cons]
      cases found : snapshotOf entry.2 with
      | none => exact tail
      | some snapshot =>
          rw [List.map_cons,List.nodup_cons]
          refine ⟨?_,tail⟩
          intro inside
          obtain ⟨other,place,same⟩ := List.mem_map.mp inside
          obtain ⟨group,listed,foundOther⟩ := List.mem_filterMap.mp place
          obtain ⟨otherEntry,member,rfl⟩ := List.mem_map.mp listed
          apply absent
          rw [← keyed entry (List.mem_cons_self ..) snapshot found,← same,
            keyed otherEntry (List.mem_cons_of_mem _ member) other foundOther]
          exact List.mem_map_of_mem member

end Outcomes

section Evaluations

section Opening

variable (settings : Settings) (db : Database) (principal : Principal)
  (request : ReplenishmentEvaluationCreate) (evaluatedAt : Time)

/-- The evaluation is allowed, and the store is active and live. -/
def EvaluationOpens : Prop :=
  principal.canAccessStore .replenishmentManage request.storeId = true ∧
    (db.registry.stores.find? request.storeId).any (fun store => decide (store.status = .active)) =
      true ∧
    effectiveFreshness (db.connectivity.find? request.storeId) settings evaluatedAt = .live

end Opening

/-- No SKU of sufficient confidence has two best rules. -/
def RulesSelect (platform : Platform) (settings : Settings) (db : Database)
    (request : ReplenishmentEvaluationCreate) (minimumConfidence : ℚ) (evaluatedAt : Time) : Prop :=
  ∀ snapshot ∈ inventorySnapshots platform settings db request evaluatedAt,
    minimumConfidence ≤ snapshot.confidence → ∃ choice, selectPolicyRule platform
      (activeRules db.policies) request.storeId snapshot.item = .ok choice

variable {platform : Platform} {settings : Settings} {db : Database} {principal : Principal}
  {request : ReplenishmentEvaluationCreate} {minimumConfidence : ℚ} {evaluatedAt : Time}
  {taskId : Uuid → Uuid}

theorem evaluateReplenishment_closed
    (closed : ¬EvaluationOpens settings db principal request evaluatedAt ∨
      (activeRules db.policies).isEmpty = true)
    {result : EvaluationResult} {replenishment : Replenishment}
    (accepted : evaluateReplenishment platform settings db principal request minimumConfidence
      evaluatedAt taskId = .ok (result,replenishment)) :
    result.tasks = [] ∧ result.updatedTasks = [] ∧ replenishment = db.replenishment := by
  obtain ⟨_,permitted,accepted⟩ := bind_eq_ok.mp accepted
  split at accepted
  · cases accepted
  · rename_i active
    split at accepted
    · cases accepted
      exact ⟨rfl,rfl,rfl⟩
    · rename_i live
      split at accepted
      · cases accepted
        exact ⟨rfl,rfl,rfl⟩
      · rename_i ruled
        have allowed : principal.canAccessStore .replenishmentManage request.storeId = true := by
          unfold ensureStoreScope at permitted
          split at permitted
          · assumption
          · cases permitted
        rcases closed with closed | empty
        · exact absurd ⟨allowed,not_not.mp active,not_not.mp live⟩ closed
        · exact absurd empty ruled

theorem evaluateReplenishment_open
    (opens : EvaluationOpens settings db principal request evaluatedAt)
    (ruled : (activeRules db.policies).isEmpty = false) :
    evaluateReplenishment platform settings db principal request minimumConfidence evaluatedAt taskId =
      (evaluationOutcomes platform settings db request minimumConfidence evaluatedAt taskId >>=
        fun outcomes => match db.replenishment.recordAll outcomes with
          | none => .error evaluationConflict
          | some replenishment =>
              .ok (evaluationResult request.storeId outcomes replenishment,replenishment)) := by
  obtain ⟨allowed,active,live⟩ := opens
  unfold evaluateReplenishment ensureStoreScope
  rw [if_pos allowed]
  change (if _ then _ else _) = _
  rw [if_neg (not_not.mpr active),if_neg (not_not.mpr live),if_neg (by simp [ruled])]
  rfl

/-- The decisions of a loop that succeeded, beside their snapshots. -/
theorem decisions_of_outcomes {snapshots : List InventorySnapshot} {outcomes : List EvaluationOutcome}
    {decides : InventorySnapshot → EvaluationOutcome → Prop}
    (decided : List.Forall₂ decides snapshots outcomes) :
    ∃ decisions : List (InventorySnapshot × EvaluationOutcome),
      decisions.map Prod.fst = snapshots ∧ decisions.map Prod.snd = outcomes ∧
        ∀ decision ∈ decisions, decides decision.1 decision.2 := by
  induction decided with
  | nil => exact ⟨[],rfl,rfl,fun _ member => (by cases member)⟩
  | @cons snapshot outcome snapshots outcomes head tail ih =>
      obtain ⟨decisions,first,second,all⟩ := ih
      refine ⟨(snapshot,outcome) :: decisions,by simp [first],by simp [second],?_⟩
      intro decision member
      rcases List.mem_cons.mp member with rfl | member
      · exact head
      · exact all decision member

/-- The decisions are refused exactly if some policy is ambiguous. -/
theorem evaluationOutcomes_ok_iff (taskId : Uuid → Uuid) :
    (∃ outcomes, evaluationOutcomes platform settings db request minimumConfidence evaluatedAt taskId =
      .ok outcomes) ↔ RulesSelect platform settings db request minimumConfidence evaluatedAt := by
  constructor
  · rintro ⟨outcomes,decided⟩ snapshot member enough
    obtain ⟨decisions,snapshots,-,all⟩ := decisions_of_outcomes (mapM_eq_ok.mp decided)
    rw [← snapshots] at member
    obtain ⟨decision,place,rfl⟩ := List.mem_map.mp member
    cases selected : selectPolicyRule platform (activeRules db.policies) request.storeId
        decision.1.item with
    | ok choice => exact ⟨choice,rfl⟩
    | error failure =>
        obtain ⟨refusal,failed⟩ := evaluateSnapshot_error_iff.mpr ⟨enough,failure,selected⟩
        rw [all decision place] at failed
        cases failed
  · intro select
    cases decided : evaluationOutcomes platform settings db request minimumConfidence evaluatedAt
        taskId with
    | ok outcomes => exact ⟨outcomes,rfl⟩
    | error failure =>
        obtain ⟨snapshot,member,refused⟩ := mapM_error decided
        obtain ⟨enough,refusal,ambiguous⟩ := evaluateSnapshot_error_iff.mp ⟨failure,refused⟩
        obtain ⟨choice,selected⟩ := select snapshot member enough
        rw [ambiguous] at selected
        cases selected

/-- The decisions of an evaluation, keyed by SKU. -/
theorem keyed_decisions {outcomes : List EvaluationOutcome}
    (decided : evaluationOutcomes platform settings db request minimumConfidence evaluatedAt taskId =
      .ok outcomes) :
    ∃ keyed : List (Uuid × EvaluationOutcome), keyed.map Prod.snd = outcomes ∧
      (keyed.map Prod.fst).Nodup ∧
      (∀ decision ∈ keyed, db.replenishment.Targets request.storeId decision.1 decision.2 ∧
        ∀ task, decision.2 = .created task → task.id = taskId decision.1 ∧
          db.replenishment.activeTask task.storeId task.skuId = none ∧
          task.storeId = request.storeId ∧ task.skuId = decision.1 ∧ task.status = .open) ∧
      (∀ snapshot ∈ inventorySnapshots platform settings db request evaluatedAt, ∃ outcome,
        evaluateSnapshot platform (activeRules db.policies) request.storeId minimumConfidence
          (db.replenishment.activeTask request.storeId snapshot.item.skuId)
          (taskId snapshot.item.skuId) snapshot = .ok outcome ∧
        (snapshot.item.skuId,outcome) ∈ keyed) ∧
      ∀ decision ∈ keyed, ∃ snapshot ∈
        inventorySnapshots platform settings db request evaluatedAt,
          snapshot.item.skuId = decision.1 := by
  obtain ⟨decisions,snapshots,written,all⟩ := decisions_of_outcomes (mapM_eq_ok.mp decided)
  refine ⟨decisions.map fun decision => (decision.1.item.skuId,decision.2),?_,?_,?_,?_,?_⟩
  · rw [List.map_map,← written]
    rfl
  · have unique := inventorySnapshots_distinct platform settings db request evaluatedAt
    rw [← snapshots,List.map_map] at unique
    rw [List.map_map]
    exact unique
  · intro decision member
    obtain ⟨source,place,rfl⟩ := List.mem_map.mp member
    exact evaluateSnapshot_targets (all source place)
  · intro snapshot member
    rw [← snapshots] at member
    obtain ⟨decision,place,rfl⟩ := List.mem_map.mp member
    exact ⟨decision.2,all decision place,List.mem_map.mpr ⟨decision,place,rfl⟩⟩
  · intro decision member
    obtain ⟨source,place,rfl⟩ := List.mem_map.mp member
    rw [← snapshots]
    exact ⟨source.1,List.mem_map_of_mem place,rfl⟩

/-- What an accepted evaluation leaves of the active tasks. -/
theorem recordAll_decides {outcomes : List EvaluationOutcome} {replenishment : Replenishment}
    (decided : evaluationOutcomes platform settings db request minimumConfidence evaluatedAt taskId =
      .ok outcomes)
    (recorded : db.replenishment.recordAll outcomes = some replenishment) :
    (∀ snapshot ∈ inventorySnapshots platform settings db request evaluatedAt, ∃ outcome,
      evaluateSnapshot platform (activeRules db.policies) request.storeId minimumConfidence
        (db.replenishment.activeTask request.storeId snapshot.item.skuId)
        (taskId snapshot.item.skuId) snapshot = .ok outcome ∧
      replenishment.activeTask request.storeId snapshot.item.skuId =
        outcome.activeAfter (db.replenishment.activeTask request.storeId snapshot.item.skuId)) ∧
    ∀ storeId skuId, ¬(request.storeId = storeId ∧ ∃ snapshot ∈
        inventorySnapshots platform settings db request evaluatedAt, snapshot.item.skuId = skuId) →
      replenishment.activeTask storeId skuId = db.replenishment.activeTask storeId skuId := by
  obtain ⟨keyed,rfl,distinct,targets,listed,sources⟩ := keyed_decisions decided
  obtain ⟨inside,outside⟩ := Replenishment.recordAll_activeTask distinct
    (fun decision member => (targets decision member).1) recorded
  constructor
  · intro snapshot member
    obtain ⟨outcome,evaluated,place⟩ := listed snapshot member
    exact ⟨outcome,evaluated,inside _ place⟩
  · intro storeId skuId apart
    apply outside storeId skuId
    rintro ⟨store,place⟩
    obtain ⟨decision,member,rfl⟩ := List.mem_map.mp place
    exact apart ⟨store,sources decision member⟩

/-- With new ids, an evaluation whose decisions succeed is accepted. -/
theorem evaluateReplenishment_decides (apart : Function.Injective taskId)
    (fresh : ∀ skuId, db.replenishment.tasks.find? (taskId skuId) = none)
    (opens : EvaluationOpens settings db principal request evaluatedAt)
    (ruled : (activeRules db.policies).isEmpty = false) {outcomes : List EvaluationOutcome}
    (decided : evaluationOutcomes platform settings db request minimumConfidence evaluatedAt taskId =
      .ok outcomes) :
    ∃ replenishment, db.replenishment.recordAll outcomes = some replenishment ∧
      evaluateReplenishment platform settings db principal request minimumConfidence evaluatedAt
        taskId = .ok (evaluationResult request.storeId outcomes replenishment,replenishment) := by
  obtain ⟨keyed,rfl,distinct,targets,-,-⟩ := keyed_decisions decided
  have succeeds : (db.replenishment.recordAll (keyed.map Prod.snd)).isSome = true :=
    Replenishment.recordAll_of_fresh apart distinct (fun decision _ => fresh decision.1)
      (fun decision member => (targets decision member).2)
      (fun decision member => (targets decision member).1)
  obtain ⟨replenishment,recorded⟩ := Option.isSome_iff_exists.mp succeeds
  refine ⟨replenishment,recorded,?_⟩
  rw [evaluateReplenishment_open opens ruled,decided]
  simp only [bind,Except.bind,recorded]

/-- An accepted evaluation that was not closed made and recorded its decisions. -/
theorem evaluateReplenishment_accepted
    (opens : EvaluationOpens settings db principal request evaluatedAt)
    (ruled : (activeRules db.policies).isEmpty = false) {result : EvaluationResult}
    {replenishment : Replenishment}
    (accepted : evaluateReplenishment platform settings db principal request minimumConfidence
      evaluatedAt taskId = .ok (result,replenishment)) :
    ∃ outcomes, evaluationOutcomes platform settings db request minimumConfidence evaluatedAt taskId =
        .ok outcomes ∧ db.replenishment.recordAll outcomes = some replenishment := by
  rw [evaluateReplenishment_open opens ruled] at accepted
  obtain ⟨outcomes,decided,written⟩ := bind_eq_ok.mp accepted
  refine ⟨outcomes,decided,?_⟩
  split at written
  · cases written
  · rename_i after recorded
    cases written
    exact recorded

end Evaluations

end Abacus
