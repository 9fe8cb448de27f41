import Abacus.Catalog.Staging
import Abacus.Jobs.Leases
import Abacus.Model.CatalogWorker

/-! The protocol of the catalog workers.
What a statement does to an import is said once: it moves the import on, and leaves alone what
others have locked. So every session knows what it has locked, and what it merely loaded can only
have moved on.
-/
set_option autoImplicit false

namespace Abacus.Catalog

open Relational (Table)
open Python (Text text Json JsonObject)
open Transition (Machine)

theorem find?_modify_self {Row Key : Type} {key : Row → Key} [DecidableEq Key] {t : Table key}
    {k : Key} {row : Row} (found : t.find? k = some row) {change : Row → Row}
    (keeps : ∀ row, key (change row) = key row) :
    (t.modify k change keeps).find? k = some (change row) := by
  rw [Table.find?_modify,if_pos rfl,found,Option.map_some]

section Statuses

/-- An import ends once, and is validated once. -/
structure CatalogImportStatus.Advances (before after : CatalogImportStatus) : Prop where
  terminal : before.terminal = true → after = before
  validated : before.validated = true → after.validated = true

namespace CatalogImportStatus.Advances

variable {before middle after : CatalogImportStatus}

theorem refl (status : CatalogImportStatus) : status.Advances status :=
  ⟨fun _ => rfl,fun validated => validated⟩

theorem trans (first : before.Advances middle) (second : middle.Advances after) :
    before.Advances after where
  terminal ended := by
    have same := first.terminal ended
    rw [second.terminal (same ▸ ended),same]
  validated done := second.validated (first.validated done)

/-- Before the end an import may end in any way. -/
theorem of_open (isOpen : before.terminal = false) (ended : after.terminal = true) :
    before.Advances after where
  terminal terminal := by
    rw [isOpen] at terminal
    cases terminal
  validated _ := by
    cases after with
    | completed | rejected | failed => rfl
    | validating | ready | processing => cases ended

end CatalogImportStatus.Advances

end Statuses

section Stores

variable {deployment : Deployment} {free : Uuid → Bool} {before after store : ImportStore}
  {importId jobId : Uuid}

def ImportStore.Has (store : ImportStore) (importId : Uuid) (among : CatalogImportStatus → Bool) :
    Prop :=
  ∃ stored, store.imports.find? importId = some stored ∧ among stored.status = true

def ImportStore.Refers (deployment : Deployment) (store : ImportStore) (jobId importId : Uuid) :
    Prop :=
  ∃ job, store.jobs.find? jobId = some job ∧ payloadImport deployment job.payload = some importId

/-- What no statement changes of a job, and what it changes of none that is out of the queue while
its import is locked. -/
structure SameWork (deployment : Deployment) (free : Uuid → Bool) (job moved : DurableJob) :
    Prop where
  tenantId : moved.tenantId = job.tenantId
  kind : moved.kind = job.kind
  payload : moved.payload = job.payload
  locked : job.status = .quarantined →
    (∀ importId, payloadImport deployment job.payload = some importId → free importId = false) →
      moved = job

/-- What a statement does to the rows that it finds, when only the free imports are its own to
change. -/
structure ImportStore.Moves (deployment : Deployment) (free : Uuid → Bool)
    (before after : ImportStore) : Prop where
  imports : ∀ importId stored, before.imports.find? importId = some stored →
    ∃ moved, after.imports.find? importId = some moved ∧ stored.status.Advances moved.status ∧
      (free importId = false → moved = stored)
  jobs : ∀ jobId job, before.jobs.find? jobId = some job →
    ∃ moved, after.jobs.find? jobId = some moved ∧ SameWork deployment free job moved

theorem SameWork.refl (job : DurableJob) : SameWork deployment free job job :=
  ⟨rfl,rfl,rfl,fun _ _ => rfl⟩

theorem SameWork.of_moves {maxAttempts : ℕ} {jobs : Jobs} {call : JobCall} {job moved : DurableJob}
    (moves : job.Moves maxAttempts jobs call moved) : SameWork deployment free job moved := by
  obtain ⟨tenantId,kind,payload⟩ := moves.same_work
  exact ⟨tenantId,kind,payload,fun quarantined _ => moves.of_terminal (.inr quarantined)⟩

namespace ImportStore.Moves

theorem advances (moves : before.Moves deployment free after) {stored : CatalogImport}
    (found : before.imports.find? importId = some stored) :
    ∃ moved, after.imports.find? importId = some moved ∧ stored.status.Advances moved.status := by
  obtain ⟨moved,later,advances,-⟩ := moves.imports importId stored found
  exact ⟨moved,later,advances⟩

theorem keeps (moves : before.Moves deployment free after) {stored : CatalogImport}
    (locked : free importId = false) (found : before.imports.find? importId = some stored) :
    after.imports.find? importId = some stored := by
  obtain ⟨moved,later,-,kept⟩ := moves.imports importId stored found
  rw [later,kept locked]

theorem validated (moves : before.Moves deployment free after)
    (has : before.Has importId CatalogImportStatus.validated) :
    after.Has importId CatalogImportStatus.validated := by
  obtain ⟨stored,found,validated⟩ := has
  obtain ⟨moved,later,advances⟩ := moves.advances found
  exact ⟨moved,later,advances.validated validated⟩

theorem terminal (moves : before.Moves deployment free after)
    (has : before.Has importId CatalogImportStatus.terminal) :
    after.Has importId CatalogImportStatus.terminal := by
  obtain ⟨stored,found,terminal⟩ := has
  obtain ⟨moved,later,advances⟩ := moves.advances found
  exact ⟨moved,later,by rw [advances.terminal terminal,terminal]⟩

theorem refers (moves : before.Moves deployment free after)
    (refers : before.Refers deployment jobId importId) :
    after.Refers deployment jobId importId := by
  obtain ⟨job,found,reads⟩ := refers
  obtain ⟨moved,later,same⟩ := moves.jobs jobId job found
  exact ⟨moved,later,by rw [same.payload,reads]⟩

end ImportStore.Moves

theorem SameWork.trans {job middle moved : DurableJob}
    (first : SameWork deployment free job middle) (second : SameWork deployment free middle moved) :
    SameWork deployment free job moved where
  tenantId := second.tenantId.trans first.tenantId
  kind := second.kind.trans first.kind
  payload := second.payload.trans first.payload
  locked quarantined locked := by
    have same := first.locked quarantined locked
    subst same
    exact second.locked quarantined locked

theorem ImportStore.Moves.trans {middle : ImportStore}
    (first : before.Moves deployment free middle) (second : middle.Moves deployment free after) :
    before.Moves deployment free after where
  imports importId stored found := by
    obtain ⟨between,there,advances,kept⟩ := first.imports importId stored found
    obtain ⟨moved,later,further,same⟩ := second.imports importId between there
    exact ⟨moved,later,advances.trans further,fun locked => (same locked).trans (kept locked)⟩
  jobs jobId job found := by
    obtain ⟨between,there,work⟩ := first.jobs jobId job found
    obtain ⟨moved,later,further⟩ := second.jobs jobId between there
    exact ⟨moved,later,work.trans further⟩

/-- Only the status of a job in the queue, and what it says of its lease and its error, changes. -/
theorem ImportStore.Moves.of_call (store : ImportStore) (call : JobCall) (maxAttempts : ℕ) :
    store.Moves deployment free { store with jobs := call.apply maxAttempts store.jobs } where
  imports _ stored found := ⟨stored,found,.refl _,fun _ => rfl⟩
  jobs _ _ found := by
    obtain ⟨moved,later,moves⟩ := call.apply_moves maxAttempts found
    exact ⟨moved,later,.of_moves moves⟩

theorem ImportStore.Moves.of_modify {change : CatalogImport → CatalogImport}
    (keeps : ∀ stored, (change stored).id = stored.id) (jobs : after.jobs = before.jobs)
    (imports : after.imports = before.imports.modify importId change keeps)
    (own : free importId = true)
    (advances : ∀ stored, before.imports.find? importId = some stored →
      stored.status.Advances (change stored).status) :
    before.Moves deployment free after where
  imports other stored found := by
    have modified := Table.find?_modify before.imports importId other change keeps
    rw [imports,modified]
    split
    · rename_i same
      subst same
      refine ⟨change stored,by rw [found,Option.map_some],advances stored found,fun locked => ?_⟩
      rw [own] at locked
      cases locked
    · exact ⟨stored,found,.refl _,fun _ => rfl⟩
  jobs _ job found := ⟨job,by rw [jobs,found],.refl job⟩

theorem ImportStore.Moves.refl (store : ImportStore) : store.Moves deployment free store where
  imports _ stored found := ⟨stored,found,.refl _,fun _ => rfl⟩
  jobs _ job found := ⟨job,found,.refl job⟩

end Stores

section Payloads

variable {deployment : Deployment} {importId other : Uuid}

theorem lookup_importPayload : (importPayload deployment importId).lookup (text "import_id") =
    some (jsonText (deployment.identifiers.str importId)) := by
  simp [importPayload]

/-- A worker reads the import back that the job was enqueued for. -/
theorem payloadImport_importPayload :
    payloadImport deployment (importPayload deployment importId) = some importId := by
  rw [payloadImport,lookup_importPayload]
  exact deployment.identifiers.parse_str importId

/-- What the join finds for a job is what a worker reads of it. -/
theorem payloadImport_of_refersTo {payload : JsonObject}
    (refers : refersTo deployment payload importId = true) :
    payloadImport deployment payload = some importId := by
  unfold refersTo at refers
  split at refers
  · rename_i written found
    rw [payloadImport,found,Option.bind_some,of_decide_eq_true refers]
    exact deployment.identifiers.parse_str importId
  · cases refers

theorem refersTo_importPayload :
    refersTo deployment (importPayload deployment importId) other = true ↔ importId = other := by
  constructor
  · intro refers
    exact Option.some.inj (payloadImport_importPayload.symm.trans (payloadImport_of_refersTo refers))
  · rintro rfl
    rw [refersTo,lookup_importPayload]
    exact decide_eq_true rfl

end Payloads

section Soundness

variable {deployment : Deployment} {free : Uuid → Bool} {before after store : ImportStore}
  {importId jobId : Uuid}

structure ImportStore.Lists (deployment : Deployment) (store : ImportStore) (job : DurableJob) :
    Prop where
  tenantId : job.tenantId = deployment.tenantId
  kind : job.kind = .catalogImport
  stored : ∃ importId stored, job.payload = importPayload deployment importId ∧
    store.imports.find? importId = some stored

structure ImportStore.Sound (deployment : Deployment) (store : ImportStore) : Prop where
  jobs : ∀ jobId job, store.jobs.find? jobId = some job → store.Lists deployment job
  completed : ∀ jobId job, store.jobs.find? jobId = some job → job.status = .completed →
    ∀ importId, payloadImport deployment job.payload = some importId →
      store.Has importId CatalogImportStatus.terminal
  once : store.promotions.Nodup
  promoted : ∀ importId ∈ store.promotions, ∃ stored,
    store.imports.find? importId = some stored ∧ stored.status = .completed

namespace ImportStore

theorem Lists.moves {job moved : DurableJob} (lists : before.Lists deployment job)
    (moves : before.Moves deployment free after) (same : SameWork deployment free job moved) :
    after.Lists deployment moved := by
  obtain ⟨importId,stored,payload,found⟩ := lists.stored
  obtain ⟨later,present,-⟩ := moves.advances found
  exact ⟨same.tenantId.trans lists.tenantId,same.kind.trans lists.kind,importId,later,
    same.payload.trans payload,present⟩

theorem Moves.promoted (moves : before.Moves deployment free after)
    (has : ∃ stored, before.imports.find? importId = some stored ∧ stored.status = .completed) :
    ∃ stored, after.imports.find? importId = some stored ∧ stored.status = .completed := by
  obtain ⟨stored,found,completed⟩ := has
  obtain ⟨moved,later,advances⟩ := moves.advances found
  exact ⟨moved,later,by rw [advances.terminal (by rw [completed]; rfl),completed]⟩

/-- What keeps a store sound: no new jobs, and none completed before its import is at an end. -/
theorem Sound.keep (sound : before.Sound deployment) (moves : before.Moves deployment free after)
    (promotions : after.promotions = before.promotions)
    (jobs : ∀ jobId job, after.jobs.find? jobId = some job → ∃ old,
      before.jobs.find? jobId = some old ∧ SameWork deployment free old job ∧
        (job.status = .completed → old.status = .completed ∨
          ∀ importId, payloadImport deployment job.payload = some importId →
            before.Has importId CatalogImportStatus.terminal)) :
    after.Sound deployment where
  jobs jobId job found := by
    obtain ⟨old,earlier,same,-⟩ := jobs jobId job found
    exact (sound.jobs jobId old earlier).moves moves same
  completed jobId job found completed importId reads := by
    obtain ⟨old,earlier,same,ended⟩ := jobs jobId job found
    refine moves.terminal ?_
    rcases ended completed with was | terminal
    · rw [same.payload] at reads
      exact sound.completed jobId old earlier was importId reads
    · exact terminal importId reads
  once := by
    rw [promotions]
    exact sound.once
  promoted importId member := by
    rw [promotions] at member
    exact moves.promoted (sound.promoted importId member)

theorem Sound.call (sound : store.Sound deployment) (call : JobCall) (maxAttempts : ℕ)
    (old : ∀ tenants request now createdAt, call ≠ .enqueueJob tenants request now createdAt)
    (ended : ∀ jobId workerId, call = .markCompleted jobId workerId → ∀ importId,
      store.Refers deployment jobId importId → store.Has importId CatalogImportStatus.terminal) :
    ({ store with jobs := call.apply maxAttempts store.jobs } : ImportStore).Sound deployment := by
  have moves : store.Moves deployment (fun _ => true)
      { store with jobs := call.apply maxAttempts store.jobs } := .of_call store call maxAttempts
  refine sound.keep moves rfl ?_
  intro jobId job found
  obtain ⟨earlier,present,moves,completed⟩ := call.apply_old old found
  refine ⟨earlier,present,.of_moves moves,fun done => ?_⟩
  rcases completed done with was | ⟨workerId,marked⟩
  · exact .inl was
  · refine .inr fun importId reads => ended jobId workerId marked importId ⟨earlier,present,?_⟩
    rw [← moves.same_work.2.2]
    exact reads

/-- A promotion of an import that was not promoted before. -/
theorem Sound.promote (sound : store.Sound deployment) (fresh : importId ∉ store.promotions)
    (has : ∃ stored, store.imports.find? importId = some stored ∧ stored.status = .completed) :
    ({ store with promotions := store.promotions ++ [importId] } : ImportStore).Sound deployment where
  jobs := fun jobId job found =>
    ⟨(sound.jobs jobId job found).tenantId,(sound.jobs jobId job found).kind,
      (sound.jobs jobId job found).stored⟩
  completed := sound.completed
  once := by
    rw [List.nodup_append]
    refine ⟨sound.once,List.nodup_singleton importId,fun promoted earlier other last same => ?_⟩
    rw [List.mem_singleton.mp last] at same
    exact fresh (same ▸ earlier)
  promoted promoted member := by
    rcases List.mem_append.mp member with earlier | last
    · exact sound.promoted promoted earlier
    · rw [List.mem_singleton.mp last]
      exact has

/-- A statement that leaves the jobs alone. -/
theorem Sound.imports (sound : before.Sound deployment)
    (moves : before.Moves deployment free after) (jobs : after.jobs = before.jobs)
    (promotions : after.promotions = before.promotions) : after.Sound deployment := by
  refine sound.keep moves promotions fun jobId job found => ?_
  rw [jobs] at found
  exact ⟨job,found,.refl job,.inl⟩

end ImportStore

end Soundness

section Sessions

variable {deployment : Deployment} {free : Uuid → Bool} {before after store : ImportStore}

/-- What a worker has selected for reconciliation, as long as both rows are locked. -/
structure Selected (deployment : Deployment) (store : ImportStore) (pair : Stranded) : Prop where
  job : store.jobs.find? pair.1.id = some pair.1
  quarantined : pair.1.status = .quarantined
  reads : payloadImport deployment pair.1.payload = some pair.2.id
  stored : store.imports.find? pair.2.id = some pair.2

/-- What a session has loaded is what is stored where it is locked, and elsewhere it was. -/
def Phase.Sound (deployment : Deployment) (store : ImportStore) : Phase → Prop
  | .reconciling stranded => ∀ pair ∈ stranded, Selected deployment store pair
  | .opened job payload => ∃ current, store.jobs.find? job.id = some current ∧
      current.payload = payload
  | .validating job catalogImport _ => store.Refers deployment job.id catalogImport.id ∧
      catalogImport.status = .validating ∧
        store.imports.find? catalogImport.id = some catalogImport
  | .staged job importId => store.Refers deployment job.id importId ∧
      store.Has importId CatalogImportStatus.validated
  | .ready job loaded locked => store.Refers deployment job.id loaded.id ∧
      loaded.status = .ready ∧ store.Has loaded.id CatalogImportStatus.validated ∧
        (locked = true → store.imports.find? loaded.id = some loaded)
  | .processed job importId _ => store.Refers deployment job.id importId ∧
      store.Has importId CatalogImportStatus.terminal
  | .waiting | .claimed | .raised .. => True

theorem Selected.moves {pair : Stranded} (selected : Selected deployment before pair)
    (moves : before.Moves deployment free after) (locked : free pair.2.id = false) :
    Selected deployment after pair where
  job := by
    obtain ⟨moved,later,same⟩ := moves.jobs pair.1.id pair.1 selected.job
    rw [later,same.locked selected.quarantined]
    intro importId reads
    rw [Option.some.inj (reads.symm.trans selected.reads)]
    exact locked
  quarantined := selected.quarantined
  reads := selected.reads
  stored := moves.keeps locked selected.stored

/-- A statement of another worker leaves a session as sound as it was. -/
theorem Phase.Sound.moves {phase : Phase} (sound : phase.Sound deployment before)
    (moves : before.Moves deployment free after)
    (locked : ∀ importId ∈ phase.locks, free importId = false) : phase.Sound deployment after := by
  cases phase with
  | waiting | claimed | raised => trivial
  | reconciling stranded =>
      intro pair member
      exact (sound pair member).moves moves (locked pair.2.id (List.mem_map_of_mem member))
  | opened job payload =>
      obtain ⟨current,found,same⟩ := sound
      obtain ⟨moved,later,work⟩ := moves.jobs job.id current found
      exact ⟨moved,later,work.payload.trans same⟩
  | validating job catalogImport tables =>
      obtain ⟨refers,validating,stored⟩ := sound
      exact ⟨moves.refers refers,validating,
        moves.keeps (locked catalogImport.id (List.mem_singleton_self _)) stored⟩
  | staged job importId => exact ⟨moves.refers sound.1,moves.validated sound.2⟩
  | ready job loaded held =>
      obtain ⟨refers,ready,validated,stored⟩ := sound
      refine ⟨moves.refers refers,ready,moves.validated validated,fun isLocked => ?_⟩
      refine moves.keeps (locked loaded.id ?_) (stored isLocked)
      rw [locks,if_pos isLocked]
      exact List.mem_singleton_self _
  | processed job importId held => exact ⟨moves.refers sound.1,moves.terminal sound.2⟩

structure Leaves (deployment : Deployment) (free : Uuid → Bool) (before : ImportStore)
    (worker : CatalogWorker) (left : ImportStore × CatalogWorker) : Prop where
  moves : before.Moves deployment free left.1
  sound : left.1.Sound deployment
  id : left.2.id = worker.id
  phase : left.2.phase.Sound deployment left.1
  locks : ∀ importId ∈ left.2.phase.locks, free importId = true

end Sessions

theorem toOption_eq_some {ε α : Type} {called : Except ε α} {result : α} :
    called.toOption = some result ↔ called = .ok result := by
  cases called <;> simp [Except.toOption]

section Statements

variable {deployment : Deployment} {free : Uuid → Bool} {store : ImportStore}
  {worker : CatalogWorker} {left : ImportStore × CatalogWorker}

theorem locks_none : ∀ importId ∈ ([] : List Uuid), free importId = true :=
  fun _ member => absurd member List.not_mem_nil

/-- A statement that only reads. -/
theorem Leaves.read (sound : store.Sound deployment) (id : left.2.id = worker.id)
    (same : left.1 = store) (phase : left.2.phase.Sound deployment store)
    (locks : ∀ importId ∈ left.2.phase.locks, free importId = true) :
    Leaves deployment free store worker left := by
  subst same
  exact ⟨.refl _,sound,id,phase,locks⟩

theorem claimOne_leaves (sound : store.Sound deployment) {tenants : Tenants} {locked : SkipLocked}
    {now : Time} (taken : claimOne deployment store worker tenants locked now = some left) :
    Leaves deployment free store worker left := by
  unfold claimOne at taken
  split at taken
  · cases taken
    let call : JobCall := .claimJobs tenants locked
      { workerId := worker.id, limit := 1, leaseSeconds := deployment.settings.workerLeaseSeconds
        tenantId := some deployment.tenantId, kinds := some [.catalogImport] } now
    exact ⟨.of_call store call deployment.settings.workerMaxAttempts,
      sound.call call deployment.settings.workerMaxAttempts
        (fun _ _ _ _ same => JobCall.noConfusion same) (fun _ _ same => JobCall.noConfusion same),
      rfl,trivial,nofun⟩
  · cases taken

theorem mem_strandedImports {jobs : Jobs} {imports : Imports} {pair : Stranded} :
    pair ∈ strandedImports deployment jobs imports ↔
      (pair.1 ∈ jobs.rows ∧ pair.1.tenantId = deployment.tenantId ∧
        pair.1.kind = .catalogImport ∧ pair.1.status = .quarantined) ∧
      pair.2 ∈ imports.rows ∧ refersTo deployment pair.1.payload pair.2.id = true ∧
        pair.2.status ≠ .failed := by
  obtain ⟨job,catalogImport⟩ := pair
  rw [strandedImports,List.mem_flatMap]
  simp [Table.mem_select,and_assoc]

theorem select_leaves (sound : store.Sound deployment) {locked : Stranded → Bool}
    (taken : selectForReconciliation deployment free store worker locked = some left) :
    Leaves deployment free store worker left := by
  unfold selectForReconciliation at taken
  split at taken
  · cases taken
    have selected : ∀ pair ∈ selectStranded deployment store.jobs store.imports
        (fun pair => locked pair || !free pair.2.id) 100,
        pair ∈ strandedImports deployment store.jobs store.imports ∧ free pair.2.id = true := by
      intro pair member
      obtain ⟨listed,passed⟩ := List.mem_filter.mp (List.mem_of_mem_take member)
      simp only [Bool.not_or,Bool.not_not,Bool.and_eq_true] at passed
      exact ⟨listed,passed.2⟩
    refine .read sound rfl rfl ?_ ?_
    · intro pair member
      obtain ⟨⟨job,-,-,quarantined⟩,stored,refers,-⟩ :=
        mem_strandedImports.mp (selected pair member).1
      obtain ⟨importId,-,payload,-⟩ := (sound.jobs pair.1.id pair.1 (Table.find?_of_mem job)).stored
      rw [payload,refersTo_importPayload] at refers
      exact ⟨Table.find?_of_mem job,quarantined,by rw [payload,payloadImport_importPayload,refers],
        Table.find?_of_mem stored⟩
    · intro importId member
      obtain ⟨pair,listed,rfl⟩ := List.mem_map.mp member
      exact (selected pair listed).2
  · cases taken

theorem turnToJob_leaves (sound : store.Sound deployment)
    (taken : turnToJob store worker = some left) : Leaves deployment free store worker left := by
  unfold turnToJob at taken
  split at taken
  · rename_i job jobs phase rest
    cases taken
    cases found : store.jobs.find? job.id with
    | none => exact .read sound rfl rfl trivial nofun
    | some current => exact .read sound rfl rfl ⟨current,found,rfl⟩ nofun
  · cases taken

theorem validate_leaves (sound : store.Sound deployment)
    (phase : worker.phase.Sound deployment store)
    (taken : selectForValidation deployment free store worker = some left) :
    Leaves deployment free store worker left := by
  unfold selectForValidation at taken
  split at taken
  · rename_i job payload opened
    rw [opened] at phase
    obtain ⟨current,listed,same⟩ := phase
    obtain ⟨importId,reads,taken⟩ := Option.bind_eq_some_iff.mp taken
    obtain ⟨stored,found,taken⟩ := Option.bind_eq_some_iff.mp taken
    have key : stored.id = importId := Table.key_of_find? found
    subst key
    have refers : store.Refers deployment job.id stored.id := ⟨current,listed,by rw [same,reads]⟩
    have own (isFree : free stored.id = true) : ∀ importId ∈ [stored.id], free importId = true := by
      intro importId member
      rw [List.mem_singleton.mp member,isFree]
    split at taken
    · rename_i isFree
      split at taken
      · rename_i ready
        cases taken
        exact .read sound rfl rfl ⟨refers,ready,⟨stored,found,by rw [ready]; rfl⟩,fun _ => found⟩
          (own isFree)
      · rename_i completed
        cases taken
        exact .read sound rfl rfl ⟨refers,stored,found,by rw [completed]; rfl⟩ (own isFree)
      · rename_i rejected
        cases taken
        exact .read sound rfl rfl ⟨refers,stored,found,by rw [rejected]; rfl⟩ (own isFree)
      · rename_i failed
        cases taken
        exact .read sound rfl rfl ⟨refers,stored,found,by rw [failed]; rfl⟩ (own isFree)
      · rename_i validating
        cases taken
        exact .read sound rfl rfl ⟨refers,validating,found⟩ (own isFree)
      · cases taken
    · cases taken
  · cases taken

/-- Staging ends in one of two verdicts. -/
theorem validateAndStage_status {runtime : Runtime} {tables : Tables}
    {catalogImport : CatalogImport} {content : List UInt8} {staging : Staging}
    (validating : catalogImport.status = .validating)
    (done : validateAndStage runtime tables catalogImport content = .ok staging) :
    staging.catalogImport.status = .ready ∨ staging.catalogImport.status = .rejected := by
  obtain ⟨-,committed⟩ := (validateAndStage_eq_ok validating).mp done
  rw [Staging.commit_eq_ok committed,stage]
  dsimp only
  split
  · exact .inl rfl
  · exact .inr rfl

theorem write_status {stored loaded changed : CatalogImport}
    (moved : changed.status ≠ loaded.status) :
    (stored.write loaded changed).status = changed.status := if_neg moved

theorem stage_leaves (sound : store.Sound deployment)
    (phase : worker.phase.Sound deployment store)
    (own : ∀ importId ∈ worker.phase.locks, free importId = true)
    (taken : commitStaging deployment store worker = some left) :
    Leaves deployment free store worker left := by
  unfold commitStaging at taken
  split at taken
  · rename_i job catalogImport tables validating
    rw [validating] at phase own
    obtain ⟨refers,status,found⟩ := phase
    obtain ⟨content,-,taken⟩ := Option.bind_eq_some_iff.mp taken
    obtain ⟨staging,done,taken⟩ := Option.bind_eq_some_iff.mp taken
    cases taken
    have verdict := validateAndStage_status status (toOption_eq_some.mp done)
    have changed : (catalogImport.write catalogImport staging.catalogImport).status =
        staging.catalogImport.status := by
      refine write_status ?_
      rcases verdict with ready | rejected
      · rw [ready,status]; decide
      · rw [rejected,status]; decide
    have validated : staging.catalogImport.status.validated = true := by
      rcases verdict with ready | rejected
      · rw [ready]; rfl
      · rw [rejected]; rfl
    have moves : store.Moves deployment free { store with
        imports := store.imports.modify catalogImport.id
          (fun stored => stored.write catalogImport staging.catalogImport)
          (CatalogImport.write_id catalogImport staging.catalogImport)
        rows := Function.update store.rows catalogImport.id staging.rows } := by
      refine .of_modify (CatalogImport.write_id catalogImport staging.catalogImport) rfl rfl
        (own catalogImport.id (List.mem_singleton_self _)) ?_
      intro stored present
      rw [Option.some.inj (found.symm.trans present)] at status
      refine ⟨fun ended => ?_,fun done => ?_⟩ <;> simp_all [CatalogImportStatus.terminal,
        CatalogImportStatus.validated]
    refine ⟨moves,sound.imports moves rfl rfl,rfl,⟨moves.refers refers,?_⟩,locks_none⟩
    refine ⟨_,find?_modify_self found (CatalogImport.write_id catalogImport _),?_⟩
    rw [changed,validated]
  · cases taken

theorem refresh_leaves (sound : store.Sound deployment)
    (phase : worker.phase.Sound deployment store)
    (taken : refreshImport store worker = some left) :
    Leaves deployment free store worker left := by
  unfold refreshImport at taken
  split at taken
  · rename_i job importId staged
    rw [staged] at phase
    obtain ⟨refers,validated⟩ := phase
    obtain ⟨stored,found,taken⟩ := Option.bind_eq_some_iff.mp taken
    have key : stored.id = importId := Table.key_of_find? found
    subst key
    cases taken
    by_cases ready : stored.status = .ready
    · rw [if_pos ready]
      exact .read sound rfl rfl ⟨refers,ready,validated,nofun⟩ nofun
    · rw [if_neg ready]
      refine .read sound rfl rfl ⟨refers,stored,found,?_⟩ nofun
      obtain ⟨same,present,holds⟩ := validated
      rw [← Option.some.inj (found.symm.trans present)] at holds
      cases status : stored.status with
      | ready => exact absurd status ready
      | completed | rejected | failed => rfl
      | validating | processing =>
          rw [status] at holds
          cases holds
  · cases taken

/-- A promotion that returns has ended the import that was ready when it was loaded. -/
theorem promoteCatalogImport_status {runtime : Runtime} {tables : Tables}
    {catalogImport : CatalogImport} {rows : List CatalogRowData} {now : Time}
    {promoted : CatalogImport × Tables} (ready : catalogImport.status = .ready)
    (done : promoteCatalogImport runtime tables catalogImport rows now = .ok promoted) :
    promoted.1.status = .completed ∨ promoted.1.status = .failed := by
  rw [promoteCatalogImport,ready,if_neg (by decide),if_neg (by decide)] at done
  split at done
  · cases done
  · split at done
    · cases done
      exact .inl rfl
    · cases done
      exact .inr rfl
    · cases done
      exact .inr rfl
    · cases done

theorem promote_leaves (sound : store.Sound deployment)
    (phase : worker.phase.Sound deployment store) {now : Time}
    (undisturbed : ∀ job loaded locked, worker.phase = .ready job loaded locked →
      ∀ stored, store.imports.find? loaded.id = some stored → stored.status = .ready)
    (taken : promoteLoaded deployment free store worker now = some left) :
    Leaves deployment free store worker left := by
  unfold promoteLoaded at taken
  split at taken
  · rename_i job loaded locked at_
    rw [at_] at phase
    have kept := undisturbed job loaded locked at_
    obtain ⟨refers,ready,-,-⟩ := phase
    obtain ⟨stored,found,taken⟩ := Option.bind_eq_some_iff.mp taken
    split at taken
    · rename_i isFree
      obtain ⟨promoted,done,taken⟩ := Option.bind_eq_some_iff.mp taken
      cases taken
      have verdict := promoteCatalogImport_status ready (toOption_eq_some.mp done)
      have status : (stored.write loaded promoted.1).status = promoted.1.status := by
        refine write_status ?_
        rcases verdict with completed | failed
        · rw [completed,ready]; decide
        · rw [failed,ready]; decide
      have ended : promoted.1.status.terminal = true := by
        rcases verdict with completed | failed
        · rw [completed]; rfl
        · rw [failed]; rfl
      let after : ImportStore := { store with
        imports := store.imports.modify loaded.id (fun stored => stored.write loaded promoted.1)
          (CatalogImport.write_id loaded promoted.1)
        tables := promoted.2 }
      have moves : store.Moves deployment free after := by
        refine .of_modify (CatalogImport.write_id loaded promoted.1) rfl rfl isFree
          fun other present => ?_
        rw [← Option.some.inj (found.symm.trans present)]
        refine .of_open ?_ ?_
        · rw [kept stored found]; rfl
        · rw [status,ended]
      have written : after.imports.find? loaded.id = some (stored.write loaded promoted.1) :=
        find?_modify_self found (CatalogImport.write_id loaded promoted.1)
      have still : after.Sound deployment := sound.imports moves rfl rfl
      refine ⟨⟨moves.imports,moves.jobs⟩,?_,rfl,⟨moves.refers refers,_,written,?_⟩,locks_none⟩
      · rcases verdict with completed | failed
        · simp only [completed,if_true]
          refine still.promote (fun again => ?_) ⟨_,written,by rw [status,completed]⟩
          obtain ⟨other,present,was⟩ := sound.promoted loaded.id again
          rw [← Option.some.inj (found.symm.trans present),kept stored found] at was
          cases was
        · simp only [failed,if_neg (show CatalogImportStatus.failed ≠ .completed by decide)]
          exact still
      · rw [status,ended]
    · cases taken
  · cases taken

/-- A job is completed by a worker that has seen its import at an end. -/
theorem complete_leaves (sound : store.Sound deployment)
    (phase : worker.phase.Sound deployment store)
    (taken : completeJob store worker = some left) : Leaves deployment free store worker left := by
  unfold completeJob at taken
  split at taken
  · rename_i job importId locked processed
    rw [processed] at phase
    obtain ⟨refers,ended⟩ := phase
    cases taken
    let call : JobCall := .markCompleted job.id worker.id
    have completes : ∀ jobId workerId, call = .markCompleted jobId workerId → ∀ importId,
        store.Refers deployment jobId importId →
          store.Has importId CatalogImportStatus.terminal := by
      intro jobId workerId marked other reads
      obtain ⟨rfl,-⟩ := JobCall.markCompleted.inj marked
      obtain ⟨row,found,reads⟩ := reads
      obtain ⟨same,present,refers⟩ := refers
      rw [← Option.some.inj (found.symm.trans present)] at refers
      rw [Option.some.inj (reads.symm.trans refers)]
      exact ended
    exact ⟨.of_call store call 0,sound.call call 0 nofun completes,rfl,trivial,nofun⟩
  · cases taken

theorem raise_leaves (sound : store.Sound deployment) {error : Text}
    (taken : raiseError store worker error = some left) :
    Leaves deployment free store worker left := by
  obtain ⟨job,-,rfl⟩ := Option.map_eq_some_iff.mp taken
  exact .read sound rfl rfl trivial nofun

/-- An import without attempts left fails, unless it is at an end. -/
theorem markExhausted_moves (payload : JsonObject) (error : Text)
    (own : (payloadImport deployment payload).all free = true) :
    store.Moves deployment free
      { store with imports := (markExhausted deployment store.imports payload error).1 } := by
  unfold markExhausted
  split
  · exact .refl store
  · rename_i stored located
    obtain ⟨importId,reads,found⟩ := Option.bind_eq_some_iff.mp located
    split
    · exact .refl store
    · rename_i isOpen
      have key : stored.id = importId := Table.key_of_find? found
      subst key
      rw [reads] at own
      refine .of_modify (CatalogImport.exhaust_id error) rfl rfl own fun other present => ?_
      rw [← Option.some.inj (found.symm.trans present)]
      exact .of_open (Bool.eq_false_iff.mpr isOpen) rfl

theorem handle_leaves (sound : store.Sound deployment) {now : Time}
    (taken : handleError deployment free store worker now = some left) :
    Leaves deployment free store worker left := by
  unfold handleError at taken
  split at taken
  · rename_i job error raised
    dsimp only at taken
    split at taken
    · cases taken
    · rename_i unlocked
      cases taken
      split
      · have moves : store.Moves deployment free { store with
            imports := if decide (deployment.settings.workerMaxAttempts ≤ job.attempts) then
              (markExhausted deployment store.imports job.payload error).1 else store.imports } := by
          split
          · rename_i exhausted
            refine markExhausted_moves job.payload error ?_
            simpa [exhausted] using unlocked
          · exact .refl store
        have marked := sound.imports moves rfl rfl
        let call : JobCall := .markFailed job.id worker.id error now
        exact ⟨moves.trans (.of_call _ call deployment.settings.workerMaxAttempts),
          marked.call call deployment.settings.workerMaxAttempts
            (fun _ _ _ _ same => JobCall.noConfusion same)
            (fun _ _ same => JobCall.noConfusion same),rfl,trivial,nofun⟩
      · exact .read sound rfl rfl trivial nofun
  · cases taken

end Statements

section Reconciliation

variable {deployment : Deployment} {free : Uuid → Bool} {store : ImportStore}
  {worker : CatalogWorker} {left : ImportStore × CatalogWorker} {stranded : List Stranded}
  {session : List DurableJob} {tables : Jobs × Imports} {pair : Stranded}

theorem loadedJob_id (session : List DurableJob) (stored : DurableJob) :
    (loadedJob session stored).id = stored.id := by
  rw [loadedJob]
  cases found : session.find? fun job => job.id = stored.id with
  | none => rfl
  | some job => simpa using List.find?_some found

/-- What the loop makes of the rows, of which it has turned to some. -/
structure Reconciled (store : ImportStore) (stranded : List Stranded) (tables : Jobs × Imports) :
    Prop where
  jobs : ∀ jobId, tables.1.find? jobId = store.jobs.find? jobId ∨
    ∃ pair ∈ stranded, pair.1.id = jobId ∧
      (pair.2.status = .completed ∨ pair.2.status = .rejected) ∧
      ∃ job moved, store.jobs.find? jobId = some job ∧ tables.1.find? jobId = some moved ∧
        moved.tenantId = job.tenantId ∧ moved.kind = job.kind ∧ moved.payload = job.payload
  imports : ∀ importId, tables.2.find? importId = store.imports.find? importId ∨
    ∃ pair ∈ stranded, pair.2.id = importId ∧ pair.2.status ≠ .completed ∧
      pair.2.status ≠ .rejected ∧
      ∃ moved, tables.2.find? importId = some moved ∧ moved.status = .failed

theorem Reconciled.step (selected : ∀ pair ∈ stranded, Selected deployment store pair)
    (reconciled : Reconciled store stranded tables) (member : pair ∈ stranded) :
    Reconciled store stranded (reconcilePair session tables pair) := by
  unfold reconcilePair
  dsimp only
  rw [loadedJob_id]
  split
  · rename_i through
    refine ⟨fun jobId => ?_,reconciled.imports⟩
    have modified := Table.find?_modify tables.1 pair.1.id jobId
      (settle (loadedJob session pair.1)) (settle_id _)
    by_cases same : jobId = pair.1.id
    · subst same
      rw [if_pos rfl] at modified
      refine .inr ⟨pair,member,rfl,through,pair.1,?_⟩
      have stored := (selected pair member).job
      rcases reconciled.jobs pair.1.id with kept | ⟨other,-,-,-,job,moved,was,found,same⟩
      · rw [kept,stored,Option.map_some] at modified
        exact ⟨_,stored,modified,rfl,rfl,rfl⟩
      · rw [found,Option.map_some] at modified
        rw [Option.some.inj (was.symm.trans stored)] at same
        exact ⟨_,stored,modified,same⟩
    · rw [if_neg same] at modified
      rw [modified]
      exact reconciled.jobs jobId
  · rename_i open_
    rw [not_or] at open_
    refine ⟨reconciled.jobs,fun importId => ?_⟩
    have modified := Table.find?_modify tables.2 pair.2.id importId
      (fun stored => stored.strand (loadedJob session pair.1).lastError) (CatalogImport.strand_id _)
    by_cases same : importId = pair.2.id
    · subst same
      rw [if_pos rfl] at modified
      refine .inr ⟨pair,member,rfl,open_.1,open_.2,?_⟩
      rcases reconciled.imports pair.2.id with kept | ⟨other,-,-,-,-,moved,found,-⟩
      · rw [kept,(selected pair member).stored,Option.map_some] at modified
        exact ⟨_,modified,rfl⟩
      · rw [found,Option.map_some] at modified
        exact ⟨_,modified,rfl⟩
    · rw [if_neg same] at modified
      rw [modified]
      exact reconciled.imports importId

theorem reconcileStranded_reconciled (selected : ∀ pair ∈ stranded, Selected deployment store pair) :
    Reconciled store stranded (reconcileStranded session store.jobs store.imports stranded) :=
  List.foldlRecOn stranded (reconcilePair session) ⟨fun _ => .inl rfl,fun _ => .inl rfl⟩
    fun _ reconciled _ member => reconciled.step selected member

def Ended (importId : Uuid) (tables : Jobs × Imports) : Prop :=
  ∃ stored, tables.2.find? importId = some stored ∧ stored.status.terminal = true

theorem Ended.step {importId : Uuid} (ended : Ended importId tables) :
    Ended importId (reconcilePair session tables pair) := by
  unfold reconcilePair
  dsimp only
  split
  · exact ended
  · obtain ⟨stored,found,terminal⟩ := ended
    have modified := Table.find?_modify tables.2 pair.2.id importId
      (fun stored => stored.strand (loadedJob session pair.1).lastError) (CatalogImport.strand_id _)
    by_cases same : importId = pair.2.id
    · subst same
      rw [if_pos rfl,found,Option.map_some] at modified
      exact ⟨_,modified,rfl⟩
    · rw [if_neg same,found] at modified
      exact ⟨stored,modified,terminal⟩

theorem Reconciled.ends (selected : ∀ pair ∈ stranded, Selected deployment store pair)
    (reconciled : Reconciled store stranded tables) (member : pair ∈ stranded) :
    Ended pair.2.id (reconcilePair session tables pair) := by
  have stored := (selected pair member).stored
  unfold reconcilePair
  dsimp only
  split
  · rename_i through
    rcases reconciled.imports pair.2.id with kept | ⟨other,-,-,-,-,moved,found,failed⟩
    · refine ⟨pair.2,kept.trans stored,?_⟩
      rcases through with completed | rejected
      · rw [completed]; rfl
      · rw [rejected]; rfl
    · exact ⟨moved,found,by rw [failed]; rfl⟩
  · rcases reconciled.imports pair.2.id with kept | ⟨other,-,-,-,-,moved,found,-⟩
    · exact ⟨_,find?_modify_self (kept.trans stored) (CatalogImport.strand_id _),rfl⟩
    · exact ⟨_,find?_modify_self found (CatalogImport.strand_id _),rfl⟩

/-- Every import that was selected is at an end when the loop is through. -/
theorem reconcileStranded_ends (selected : ∀ pair ∈ stranded, Selected deployment store pair)
    (member : pair ∈ stranded) :
    Ended pair.2.id (reconcileStranded session store.jobs store.imports stranded) := by
  obtain ⟨earlier,later,rfl⟩ := List.append_of_mem member
  rw [reconcileStranded,List.foldl_append,List.foldl_cons]
  have reconciled : Reconciled store (earlier ++ pair :: later)
      (earlier.foldl (reconcilePair session) (store.jobs,store.imports)) :=
    List.foldlRecOn earlier (reconcilePair session) ⟨fun _ => .inl rfl,fun _ => .inl rfl⟩
      fun _ reconciled _ inside => reconciled.step selected (List.mem_append_left _ inside)
  exact List.foldlRecOn later (reconcilePair session) (reconciled.ends selected member)
    fun _ ended _ _ => ended.step

theorem CatalogImportStatus.Advances.failed {status : CatalogImportStatus}
    (completed : status ≠ .completed) (rejected : status ≠ .rejected) : status.Advances .failed := by
  cases status with
  | validating | ready | processing => exact .of_open rfl rfl
  | completed => exact absurd rfl completed
  | rejected => exact absurd rfl rejected
  | failed => exact .refl .failed

theorem Reconciled.moves (selected : ∀ pair ∈ stranded, Selected deployment store pair)
    (isFree : ∀ pair ∈ stranded, free pair.2.id = true)
    (reconciled : Reconciled store stranded tables) :
    store.Moves deployment free { store with jobs := tables.1, imports := tables.2 } where
  imports importId stored found := by
    rcases reconciled.imports importId with
      kept | ⟨pair,member,rfl,completed,rejected,moved,later,failed⟩
    · exact ⟨stored,kept.trans found,.refl _,fun _ => rfl⟩
    · rw [← Option.some.inj (found.symm.trans (selected pair member).stored)] at completed rejected
      refine ⟨moved,later,by rw [failed]; exact .failed completed rejected,fun locked => ?_⟩
      rw [isFree pair member] at locked
      cases locked
  jobs jobId job found := by
    rcases reconciled.jobs jobId with kept | ⟨pair,member,rfl,-,old,moved,was,later,same⟩
    · exact ⟨job,kept.trans found,.refl job⟩
    · rw [← Option.some.inj (found.symm.trans was)] at same
      refine ⟨moved,later,same.1,same.2.1,same.2.2,fun _ locked => ?_⟩
      have reads := (selected pair member).reads
      rw [← Option.some.inj (found.symm.trans (selected pair member).job)] at reads
      have held := locked pair.2.id reads
      rw [isFree pair member] at held
      cases held

/-- What the loop does is within the rows that the reconciliation has locked. -/
theorem reconcile_leaves (sound : store.Sound deployment)
    (phase : worker.phase.Sound deployment store)
    (own : ∀ importId ∈ worker.phase.locks, free importId = true)
    (taken : commitReconciliation store worker = some left) :
    Leaves deployment free store worker left := by
  unfold commitReconciliation at taken
  split at taken
  · rename_i stranded reconciling
    rw [reconciling] at phase own
    have selected : ∀ pair ∈ stranded, Selected deployment store pair := phase
    have isFree : ∀ pair ∈ stranded, free pair.2.id = true :=
      fun pair member => own pair.2.id (List.mem_map_of_mem member)
    have reconciled : Reconciled store stranded
        (reconcileStranded worker.jobs store.jobs store.imports stranded) :=
      reconcileStranded_reconciled selected
    cases taken
    have moves : store.Moves deployment free { store with
        jobs := (reconcileStranded worker.jobs store.jobs store.imports stranded).1
        imports := (reconcileStranded worker.jobs store.jobs store.imports stranded).2 } :=
      reconciled.moves selected isFree
    refine ⟨moves,sound.keep moves rfl fun jobId job found => ?_,rfl,trivial,nofun⟩
    rcases reconciled.jobs jobId with kept | ⟨pair,member,rfl,through,-⟩
    · exact ⟨job,kept.symm.trans found,.refl job,.inl⟩
    · have known := selected pair member
      obtain ⟨moved,later,work⟩ := moves.jobs pair.1.id pair.1 known.job
      rw [← Option.some.inj (found.symm.trans later)] at work
      refine ⟨pair.1,known.job,work,fun _ => .inr fun importId reads => ?_⟩
      rw [work.payload,known.reads] at reads
      rw [← Option.some.inj reads]
      refine ⟨pair.2,known.stored,?_⟩
      rcases through with completed | rejected
      · rw [completed]; rfl
      · rw [rejected]; rfl
  · cases taken

end Reconciliation

/-- What any statement of a worker leaves, of whatever phase. -/
theorem CatalogWorker.act_leaves {deployment : Deployment} {free : Uuid → Bool}
    {store : ImportStore} {worker : CatalogWorker} {left : ImportStore × CatalogWorker}
    {action : Action} (sound : store.Sound deployment)
    (phase : worker.phase.Sound deployment store)
    (own : ∀ importId ∈ worker.phase.locks, free importId = true)
    (undisturbed : ∀ now, action = .promote now → ∀ job loaded locked,
      worker.phase = .ready job loaded locked →
        ∀ stored, store.imports.find? loaded.id = some stored → stored.status = .ready)
    (taken : worker.act deployment free store action = some left) :
    Leaves deployment free store worker left := by
  cases action with
  | claim tenants locked now => exact claimOne_leaves sound taken
  | select locked => exact select_leaves sound taken
  | reconcile => exact reconcile_leaves sound phase own taken
  | turn => exact turnToJob_leaves sound taken
  | validate => exact validate_leaves sound phase taken
  | stage => exact stage_leaves sound phase own taken
  | refresh => exact refresh_leaves sound phase taken
  | promote now => exact promote_leaves sound phase (undisturbed now rfl) taken
  | complete => exact complete_leaves sound phase taken
  | raise error => exact raise_leaves sound taken
  | handle now => exact handle_leaves sound taken
  | crash =>
      cases taken
      exact .read sound rfl rfl trivial nofun

end Abacus.Catalog
