import Abacus.Catalog.Protocol
import Abacus.Model.CatalogSample
import Abacus.Model.Sample

/-! Any number of catalog workers.
No two of them have an import locked, so that what one locks the others cannot change. In every run
in which no promotion comes upon an import that was promoted or failed behind its back, each import
is promoted once, stays where it ends, and takes its job along.
-/
set_option autoImplicit false

namespace Abacus.Catalog

open Relational (Table)
open Python (Text text)
open Transition (Machine)

namespace ImportState

variable {deployment : Deployment} {state after : ImportState} {workerId other : String}
  {importId : Uuid}

theorem worker_id (state : ImportState) (workerId : String) :
    (state.worker workerId).id = workerId := by
  rw [worker]
  cases found : state.workers.find? workerId with
  | none => rfl
  | some worker => exact Table.key_of_find? found

theorem worker_put (state : ImportState) (store : ImportStore) (left : CatalogWorker)
    (workerId : String) : (ImportState.mk store (state.workers.put left)).worker workerId =
      if left.id = workerId then left else state.worker workerId := by
  rw [worker,Table.find?_put]
  split
  · rfl
  · rfl

theorem free_iff : state.free workerId importId = true ↔
    ∀ other, other ≠ workerId → importId ∉ (state.worker other).phase.locks := by
  rw [free,List.all_eq_true]
  simp only [Bool.or_eq_true,decide_eq_true_eq,Bool.not_eq_true',decide_eq_false_iff_not]
  constructor
  · intro others other different
    rw [worker]
    cases found : state.workers.find? other with
    | none => exact nofun
    | some stored =>
        rcases others stored (Table.mem_of_find? found) with same | apart
        · exact absurd ((Table.key_of_find? found).symm.trans same) different
        · exact apart
  · intro others stored member
    by_cases same : stored.id = workerId
    · exact .inl same
    · have apart := others stored.id same
      rw [worker,Table.find?_of_mem member] at apart
      exact .inr apart

theorem locked_of_mem (different : other ≠ workerId)
    (member : importId ∈ (state.worker other).phase.locks) :
    state.free workerId importId = false := by
  refine Bool.eq_false_iff.mpr fun isFree => ?_
  exact free_iff.mp isFree other different member

structure Sound (deployment : Deployment) (state : ImportState) : Prop where
  store : state.store.Sound deployment
  phases : ∀ workerId, (state.worker workerId).phase.Sound deployment state.store
  exclusive : ∀ workerId, ∀ importId ∈ (state.worker workerId).phase.locks,
    state.free workerId importId = true

end ImportState

def ImportEvent.free (state : ImportState) : ImportEvent → Uuid → Bool
  | .accept .. | .heartbeat .. => fun _ => false
  | .act workerId _ => state.free workerId

def ImportEvent.actor : ImportEvent → Option String
  | .accept .. | .heartbeat .. => none
  | .act workerId _ => some workerId

/-- What a table holds stays where it is when a row is inserted. -/
theorem find?_insert_old {Row Key : Type} {key : Row → Key} [DecidableEq Key] {t u : Table key}
    {row old : Row} {k : Key} (inserted : t.insert row = some u) (found : t.find? k = some old) :
    u.find? k = some old := by
  rw [Table.find?_insert inserted,if_neg]
  · exact found
  · intro same
    have fresh := (Table.insert_eq_some inserted).1
    rw [same,found] at fresh
    cases fresh

section Steps

variable {deployment : Deployment} {state after : ImportState} {event : ImportEvent}

theorem accept_spec {tenants : Tenants} {store left : ImportStore} {upload : Upload}
    {now createdAt : Time} (sound : store.Sound deployment)
    (accepted : acceptImport deployment tenants store upload now createdAt = some left) :
    store.Moves deployment (fun _ => false) left ∧ left.Sound deployment := by
  obtain ⟨imports,inserted,accepted⟩ := Option.bind_eq_some_iff.mp accepted
  obtain ⟨enqueued,queued,accepted⟩ := Option.bind_eq_some_iff.mp accepted
  cases accepted
  have listed := enqueueJob_inserts (toOption_eq_some.mp queued)
  have moves : store.Moves deployment (fun _ => false) { store with
      imports := imports
      jobs := enqueued.1
      sources := Function.update store.sources upload.importId (some upload.content) } := by
    refine ⟨fun importId stored found => ⟨stored,?_,.refl _,fun _ => rfl⟩,
      fun jobId job found => ⟨job,?_,.refl job⟩⟩
    · exact find?_insert_old inserted found
    · exact find?_insert_old listed found
  refine ⟨moves,?_,?_,sound.once,fun importId member => moves.promoted (sound.promoted importId member)⟩
  · intro jobId job found
    have inserted' := Table.find?_insert listed jobId
    rw [inserted'] at found
    split at found
    · cases found
      exact ⟨rfl,rfl,upload.importId,_,rfl,by rw [Table.find?_insert inserted,if_pos rfl]⟩
    · exact (sound.jobs jobId job found).moves moves (.refl job)
  · intro jobId job found completed importId reads
    have inserted' := Table.find?_insert listed jobId
    rw [inserted'] at found
    split at found
    · cases found
      cases completed
    · exact moves.terminal (sound.completed jobId job found completed importId reads)

/-- What an event does, as far as those can tell who take no part in it. -/
theorem next_spec (sound : state.Sound deployment) (undisturbed : state.undisturbed event = true)
    (taken : (importMachine deployment).next state event = some after) :
    state.store.Moves deployment (event.free state) after.store ∧ after.Sound deployment ∧
      ∀ workerId, event.actor ≠ some workerId →
        after.worker workerId = state.worker workerId := by
  cases event with
  | accept tenants upload now createdAt =>
      obtain ⟨store,accepted,rfl⟩ := Option.map_eq_some_iff.mp taken
      obtain ⟨moves,stored⟩ := accept_spec sound.store accepted
      exact ⟨moves,⟨stored,fun workerId => (sound.phases workerId).moves moves fun _ _ => rfl,
        sound.exclusive⟩,fun _ _ => rfl⟩
  | heartbeat workerId jobId now =>
      cases taken
      let call : JobCall := .renewLease jobId workerId deployment.settings.workerLeaseSeconds now
      have moves : state.store.Moves deployment (fun _ => false)
          { state.store with jobs := call.apply 0 state.store.jobs } := .of_call state.store call 0
      exact ⟨moves,⟨sound.store.call call 0 (fun _ _ _ _ same => JobCall.noConfusion same)
        (fun _ _ same => JobCall.noConfusion same),
        fun workerId => (sound.phases workerId).moves moves fun _ _ => rfl,sound.exclusive⟩,
        fun _ _ => rfl⟩
  | act workerId action =>
      obtain ⟨left,acted,rfl⟩ := Option.map_eq_some_iff.mp taken
      have leaves : Leaves deployment (state.free workerId) state.store (state.worker workerId)
          left := by
        refine CatalogWorker.act_leaves sound.store (sound.phases workerId)
          (sound.exclusive workerId) ?_ acted
        rintro now rfl job loaded locked phase stored found
        simp only [ImportState.undisturbed,phase,found,Option.all_some,decide_eq_true_eq]
          at undisturbed
        exact undisturbed
      have key : left.2.id = workerId := leaves.id.trans (state.worker_id workerId)
      have others (other : String) (different : other ≠ workerId) :
          (ImportState.mk left.1 (state.workers.put left.2)).worker other = state.worker other := by
        rw [ImportState.worker_put,if_neg]
        exact fun same => different (same.symm.trans key)
      refine ⟨leaves.moves,⟨leaves.sound,fun other => ?_,fun other importId member => ?_⟩,
        fun other apart => others other fun same => apart (same ▸ rfl)⟩
      · rw [ImportState.worker_put]
        split
        · exact leaves.phase
        · rename_i different
          refine (sound.phases other).moves leaves.moves fun importId member => ?_
          rw [key] at different
          exact ImportState.locked_of_mem (Ne.symm different) member
      · rw [ImportState.worker_put] at member
        refine ImportState.free_iff.mpr fun third apart => ?_
        rw [ImportState.worker_put]
        rw [key] at member ⊢
        by_cases own : workerId = other
        · subst own
          rw [if_pos rfl] at member
          rw [if_neg (Ne.symm apart)]
          exact ImportState.free_iff.mp (leaves.locks importId member) third apart
        · rw [if_neg own] at member
          split
          · intro again
            exact ImportState.free_iff.mp (leaves.locks importId again) other (Ne.symm own) member
          · exact ImportState.free_iff.mp (sound.exclusive other importId member) third apart

end Steps

/-- A reconciliation by one worker, from its selection to its commit, while the others go on. It
found no row locked, and less than its limit. -/
structure FullPass (deployment : Deployment) (guard : ImportState → ImportEvent → Prop)
    (before after : ImportState) where
  workerId : String
  locked : Stranded → Bool
  stranded : List Stranded
  selected : ImportState
  events : List ImportEvent
  last : ImportState
  selects : (importMachine deployment).next before (.act workerId (.select locked)) = some selected
  selection : (selected.worker workerId).phase = .reconciling stranded
  unlocked : ∀ pair ∈ strandedImports deployment before.store.jobs before.store.imports,
    locked pair = false ∧ before.free workerId pair.2.id = true
  limit : stranded.length < 100
  respects : (importMachine deployment).Respects
    (fun state event => guard state event ∧ event.actor ≠ some workerId) selected events
  ran : (importMachine deployment).run selected events = some last
  commits : (importMachine deployment).next last (.act workerId .reconcile) = some after

/-- What the workers promise of a state, and of what comes after it in runs that meet the guard. A
reconciliation answers for the jobs that were quarantined when it selected. -/
structure ImportProtocol (deployment : Deployment) (guard : ImportState → ImportEvent → Prop)
    (state : ImportState) : Prop where
  once : state.store.promotions.Nodup
  final : ∀ catalogImport ∈ state.store.imports.rows, catalogImport.status.terminal = true →
    ∀ events after, (importMachine deployment).Respects guard state events →
      (importMachine deployment).run state events = some after →
        ∃ later, after.store.imports.find? catalogImport.id = some later ∧
          later.status = catalogImport.status
  completed : ∀ job ∈ state.store.jobs.rows, job.status = .completed →
    ∃ catalogImport ∈ state.store.imports.rows,
      refersTo deployment job.payload catalogImport.id = true ∧
        catalogImport.status.terminal = true
  reconciled : ∀ after, FullPass deployment guard state after →
    ∀ job ∈ after.store.jobs.rows, job.status = .quarantined →
      (∃ earlier ∈ state.store.jobs.rows, earlier.id = job.id ∧ earlier.status = .quarantined) →
        ∀ catalogImport ∈ after.store.imports.rows,
          refersTo deployment job.payload catalogImport.id = true →
            catalogImport.status.terminal = true

section Runs

variable {deployment : Deployment} {state after : ImportState} {events : List ImportEvent}

theorem initial_sound : ({} : ImportState).Sound deployment where
  store := by
    refine ⟨?_,?_,List.nodup_nil,?_⟩
    · intro jobId job found
      cases found
    · intro jobId job found
      cases found
    · intro importId member
      cases member
  phases _ := trivial
  exclusive workerId importId member := by cases member

theorem sound_of_reachable (reachable : (importMachine deployment).ReachableWithin
    (fun state event => state.undisturbed event = true) state) : state.Sound deployment := by
  refine reachable.invariant ?_ ?_
  · rintro state rfl
    exact initial_sound
  · exact fun _ _ _ sound undisturbed taken => (next_spec sound undisturbed taken).2.1

/-- A status that an import ends in is its last one. -/
theorem run_terminal_status {importId : Uuid} {stored : CatalogImport}
    (sound : state.Sound deployment) (found : state.store.imports.find? importId = some stored)
    (terminal : stored.status.terminal = true)
    (respects : (importMachine deployment).Respects
      (fun state event => state.undisturbed event = true) state events)
    (ran : (importMachine deployment).run state events = some after) :
    ∃ later, after.store.imports.find? importId = some later ∧ later.status = stored.status := by
  have step : ∀ (state : ImportState) (event : ImportEvent) (after : ImportState),
      (state.Sound deployment ∧ ∃ later, state.store.imports.find? importId = some later ∧
        later.status = stored.status) → state.undisturbed event = true →
      (importMachine deployment).next state event = some after →
      after.Sound deployment ∧ ∃ later, after.store.imports.find? importId = some later ∧
        later.status = stored.status := by
    rintro state event after ⟨sound,earlier,found,same⟩ undisturbed taken
    obtain ⟨moves,kept,-⟩ := next_spec sound undisturbed taken
    obtain ⟨later,present,advances⟩ := moves.advances found
    refine ⟨kept,later,present,?_⟩
    rw [advances.terminal (by rw [same,terminal]),same]
  exact (Machine.run_guarded step ⟨sound,stored,found,rfl⟩ respects ran).2

/-- While a reconciliation is under way, what was quarantined when it began is for an import that
is at an end, or that the reconciliation has locked. -/
structure Awaits (deployment : Deployment) (workerId : String) (stranded : List Stranded)
    (jobId importId : Uuid) (state : ImportState) : Prop where
  sound : state.Sound deployment
  phase : (state.worker workerId).phase = .reconciling stranded
  refers : state.store.Refers deployment jobId importId
  covered : state.store.Has importId CatalogImportStatus.terminal ∨
    ∃ pair ∈ stranded, pair.2.id = importId

theorem Awaits.step {event : ImportEvent} {workerId : String} {stranded : List Stranded}
    {jobId importId : Uuid} (awaits : Awaits deployment workerId stranded jobId importId state)
    (undisturbed : state.undisturbed event = true) (other : event.actor ≠ some workerId)
    (taken : (importMachine deployment).next state event = some after) :
    Awaits deployment workerId stranded jobId importId after := by
  obtain ⟨moves,sound,others⟩ := next_spec awaits.sound undisturbed taken
  refine ⟨sound,?_,moves.refers awaits.refers,awaits.covered.imp moves.terminal id⟩
  rw [others workerId other]
  exact awaits.phase

theorem next_act {workerId : String} {action : Action}
    (taken : (importMachine deployment).next state (.act workerId action) = some after) :
    ∃ left, (state.worker workerId).act deployment (state.free workerId) state.store action =
      some left ∧ after = ⟨left.1,state.workers.put left.2⟩ := by
  obtain ⟨left,acted,same⟩ := Option.map_eq_some_iff.mp taken
  exact ⟨left,acted,same.symm⟩

/-- A reconciliation that skips nothing selects every quarantined job with its import. -/
theorem selected_all {workerId : String} {locked : Stranded → Bool} {stranded : List Stranded}
    {selected : ImportState}
    (selects : (importMachine deployment).next state (.act workerId (.select locked)) =
      some selected)
    (selection : (selected.worker workerId).phase = .reconciling stranded)
    (unlocked : ∀ pair ∈ strandedImports deployment state.store.jobs state.store.imports,
      locked pair = false ∧ state.free workerId pair.2.id = true)
    (limit : stranded.length < 100) : selected.store = state.store ∧
      stranded = strandedImports deployment state.store.jobs state.store.imports := by
  obtain ⟨left,acted,rfl⟩ := next_act selects
  simp only [CatalogWorker.act,selectForReconciliation] at acted
  split at acted
  · cases acted
    rw [ImportState.worker_put] at selection
    split at selection
    case isFalse different => exact absurd (state.worker_id workerId) different
    refine ⟨rfl,?_⟩
    have all : (strandedImports deployment state.store.jobs state.store.imports).filter
        (fun pair => !(locked pair || !state.free workerId pair.2.id)) =
          strandedImports deployment state.store.jobs state.store.imports := by
      refine List.filter_eq_self.mpr fun pair member => ?_
      rw [(unlocked pair member).1,(unlocked pair member).2]
      rfl
    have taken := Phase.reconciling.inj selection
    rw [selectStranded,all] at taken
    rw [← taken,List.length_take] at limit
    rw [← taken,List.take_of_length_le (by omega)]
  · cases acted

/-- What a full reconciliation answers for is at an end when it commits. -/
theorem FullPass.settles (sound : state.Sound deployment)
    (pass : FullPass deployment (fun state event => state.undisturbed event = true) state after)
    {job : DurableJob} (listed : job ∈ state.store.jobs.rows) (quarantined : job.status = .quarantined)
    {importId : Uuid} (reads : payloadImport deployment job.payload = some importId) :
    after.store.Refers deployment job.id importId ∧
      after.store.Has importId CatalogImportStatus.terminal := by
  obtain ⟨same,all⟩ := selected_all pass.selects pass.selection pass.unlocked pass.limit
  have found := Table.find?_of_mem listed
  have begins : Awaits deployment pass.workerId pass.stranded job.id importId pass.selected := by
    obtain ⟨-,kept,-⟩ := next_spec sound rfl pass.selects
    refine ⟨kept,pass.selection,?_,?_⟩
    · rw [same]
      exact ⟨job,found,reads⟩
    · rw [same]
      obtain ⟨stored,catalogImport,payload,present⟩ := (sound.store.jobs job.id job found).stored
      rw [payload,payloadImport_importPayload] at reads
      obtain rfl := Option.some.inj reads
      by_cases failed : catalogImport.status = .failed
      · exact .inl ⟨catalogImport,present,by rw [failed]; rfl⟩
      · refine .inr ⟨(job,catalogImport),?_,Table.key_of_find? present⟩
        rw [all,mem_strandedImports]
        exact ⟨⟨listed,(sound.store.jobs job.id job found).tenantId,
          (sound.store.jobs job.id job found).kind,quarantined⟩,Table.mem_of_find? present,
          by rw [payload]; exact refersTo_importPayload.mpr (Table.key_of_find? present).symm,failed⟩
  have ends : Awaits deployment pass.workerId pass.stranded job.id importId pass.last :=
    Machine.run_guarded (fun _ _ _ awaits guarded taken => awaits.step guarded.1 guarded.2 taken)
      begins pass.respects pass.ran
  obtain ⟨moves,-,-⟩ := next_spec ends.sound rfl pass.commits
  refine ⟨moves.refers ends.refers,?_⟩
  rcases ends.covered with terminal | ⟨pair,member,rfl⟩
  · exact moves.terminal terminal
  · obtain ⟨left,acted,committed⟩ := next_act pass.commits
    have phase := ends.sound.phases pass.workerId
    rw [ends.phase] at phase
    simp only [CatalogWorker.act,commitReconciliation,ends.phase,Option.some.injEq] at acted
    rw [committed,← acted]
    exact reconcileStranded_ends phase member

/-- In every run in which each promotion finds its import ready when it has the lock, the workers
keep their protocol. -/
theorem import_protocol (reachable : (importMachine deployment).ReachableWithin
    (fun state event => state.undisturbed event = true) state) :
    ImportProtocol deployment (fun state event => state.undisturbed event = true) state := by
  have sound := sound_of_reachable reachable
  refine ⟨sound.store.once,?_,?_,?_⟩
  · intro catalogImport member terminal events after respects ran
    exact run_terminal_status sound (Table.find?_of_mem member) terminal respects ran
  · intro job member completed
    have found := Table.find?_of_mem member
    obtain ⟨importId,catalogImport,payload,present⟩ := (sound.store.jobs job.id job found).stored
    obtain ⟨stored,again,terminal⟩ := sound.store.completed job.id job found completed importId
      (by rw [payload,payloadImport_importPayload])
    refine ⟨stored,Table.mem_of_find? again,?_,terminal⟩
    rw [payload]
    exact refersTo_importPayload.mpr (Table.key_of_find? again).symm
  · rintro after pass job later quarantined ⟨earlier,listed,same,was⟩ catalogImport member refers
    obtain ⟨importId,-,payload,-⟩ := (sound.store.jobs earlier.id earlier
      (Table.find?_of_mem listed)).stored
    obtain ⟨⟨row,found,reads⟩,stored,present,terminal⟩ := pass.settles sound listed was
      (by rw [payload,payloadImport_importPayload])
    rw [same,Table.find?_of_mem later] at found
    rw [← Option.some.inj found,payloadImport_of_refersTo refers] at reads
    rw [← Option.some.inj reads,Table.find?_of_mem member] at present
    rw [Option.some.inj present]
    exact terminal

end Runs

namespace Sample

def hexDigit (digit : ℕ) : ℕ := if digit < 10 then 48 + digit else 87 + digit

def hexValue (character : ℕ) : ℕ := if character < 58 then character - 48 else character - 87

def hexDigits : ℕ → ℕ → Text
  | 0, _ => []
  | width + 1, number => hexDigits width (number / 16) ++ [hexDigit (number % 16)]

def hexNumber (digits : Text) : ℕ :=
  digits.foldl (fun number digit => 16 * number + hexValue digit) 0

theorem hexValue_hexDigit {digit : ℕ} (small : digit < 16) : hexValue (hexDigit digit) = digit := by
  unfold hexDigit hexValue
  split <;> split <;> omega

theorem hexNumber_hexDigits {width number : ℕ} (fits : number < 16 ^ width) :
    hexNumber (hexDigits width number) = number := by
  induction width generalizing number with
  | zero =>
      rw [pow_zero,Nat.lt_one_iff] at fits
      rw [fits]
      rfl
  | succ width ih =>
      have high : number / 16 < 16 ^ width := by
        rw [pow_succ] at fits
        exact Nat.div_lt_of_lt_mul (Nat.mul_comm _ _ ▸ fits)
      have split := ih high
      rw [hexNumber] at split
      rw [hexNumber,hexDigits,List.foldl_append,split]
      rw [List.foldl_cons,List.foldl_nil,hexValue_hexDigit (Nat.mod_lt _ (by decide))]
      omega

def leadingGroups : Text := text "00000000-0000-0000-0000-"

def lastGroup (id : Uuid) : ℕ := if id < 16 ^ 12 then 12 else id

theorem lastGroup_fits (id : Uuid) : id < 16 ^ lastGroup id := by
  unfold lastGroup
  split
  · assumption
  · exact Nat.lt_pow_self (by decide)

def identifiers : Identifiers where
  str id := leadingGroups ++ hexDigits (lastGroup id) id
  parse written := some (hexNumber (written.drop 24))
  parse_str id := congrArg some (hexNumber_hexDigits (lastGroup_fits id))

theorem twoAttempts : 1 ≤ 2 ∧ 2 ≤ 100 := ⟨Nat.le_of_ble_eq_true rfl,Nat.le_of_ble_eq_true rfl⟩

def deployment : Deployment where
  runtime := runtime
  identifiers := identifiers
  settings := { Abacus.Sample.settings with
    workerMaxAttempts := 2, maxAttemptsInRange := twoAttempts }
  tenantId := Abacus.Sample.registry.tenantId

def active : Tenants := fun _ => some .active

def uploads (importId jobId : Uuid) : ImportEvent :=
  .accept active ⟨importId,jobId,.full,readableFile⟩ 0 0

def claims (workerId : String) (now : Time) : List ImportEvent :=
  [.act workerId (.claim active ⟨fun _ => false,fun _ => false⟩ now)]

def reconciles (workerId : String) : List ImportEvent :=
  [.act workerId (.select fun _ => false),.act workerId .reconcile]

def stalls (workerId : String) : List ImportEvent :=
  [.act workerId .turn,.act workerId .validate,.act workerId .stage,.act workerId .refresh]

def promotes (workerId : String) (now : Time) : List ImportEvent :=
  [.act workerId (.promote now),.act workerId .complete]

def importRun (events : List ImportEvent) : ImportState :=
  ((importMachine deployment).run {} events).getD {}

/-- The second worker takes the job over and promotes the import, and the first one goes on. -/
def staleRun : List ImportEvent :=
  uploads 1 5 :: claims "first" 0 ++ reconciles "first" ++ stalls "first" ++
    claims "second" (seconds 31) ++ reconciles "second" ++
    [.act "second" .turn,.act "second" .validate] ++ promotes "second" (seconds 32) ++
    promotes "first" (seconds 33)

/-- One import is promoted, and the workers that claim the job of another one crash. -/
def orderlyRun : List ImportEvent :=
  uploads 1 5 :: claims "first" 0 ++ reconciles "first" ++ stalls "first" ++
    promotes "first" (seconds 1) ++
    uploads 2 6 :: claims "first" (seconds 2) ++ [.act "first" .crash] ++
    claims "second" (seconds 33) ++ [.act "second" .crash] ++ claims "third" (seconds 64)

theorem importRun_reached (events : List ImportEvent)
    (ran : ((importMachine deployment).run {} events).isSome = true) :
    (importMachine deployment).run {} events = some (importRun events) := Machine.run_getD ran

end Sample

/-- The session of the first worker still has the import as ready when it gets the lock, so what
the second one completed is promoted again. -/
theorem stale_import_promoted_again : ¬∀ state,
    (importMachine Sample.deployment).Reachable state →
      ImportProtocol Sample.deployment (fun _ _ => True) state := by
  intro promised
  have reachable : (importMachine Sample.deployment).Reachable (Sample.importRun Sample.staleRun) :=
    ⟨{},Sample.staleRun,rfl,Sample.importRun_reached Sample.staleRun (by decide +kernel)⟩
  have once := (promised _ reachable).once
  have twice : (Sample.importRun Sample.staleRun).store.promotions = [1,1] := by decide +kernel
  rw [twice] at once
  exact absurd once (by decide)

/-- In an orderly run one import is promoted, and the job of the other one is left to a
reconciliation. -/
theorem import_protocol_sample :
    ImportProtocol Sample.deployment (fun state event => state.undisturbed event = true)
      (Sample.importRun Sample.orderlyRun) ∧
    (Sample.importRun Sample.orderlyRun).store.promotions = [1] ∧
    (strandedImports Sample.deployment (Sample.importRun Sample.orderlyRun).store.jobs
      (Sample.importRun Sample.orderlyRun).store.imports).length = 1 :=
  ⟨import_protocol ⟨{},Sample.orderlyRun,rfl,by decide +kernel,
    Sample.importRun_reached Sample.orderlyRun (by decide +kernel)⟩,
    by decide +kernel,by decide +kernel⟩

end Abacus.Catalog
