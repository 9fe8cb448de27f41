import Abacus.Catalog.Documents
import Abacus.Catalog.Resolution
import Abacus.Catalog.Workers

/-! The workers and the catalog.
In whatever order the workers move, and even where a stale session promotes an import again, the
catalog is what promotions leave that follow each other, each with the rows that an accepted source
parses to.
-/
set_option autoImplicit false

namespace Abacus.Catalog

open Relational (Table)
open Python (Text text Json JsonObject)
open Transition (Machine)

/-- What a promotion reads of a source without issues: each document as its dump is read back. -/
def sourceRows (runtime : Runtime) (content : List UInt8) : List CatalogRowData :=
  (normalizedRows (parseCatalogCsv runtime content).rows).map
    (CatalogRowData.withDocuments fun document => runtime.jsonb (runtime.stored document))

/-- A JSONB column can hold the documents of the source as they are. -/
def StorableSource (runtime : Runtime) (content : List UInt8) : Prop :=
  ∀ data ∈ normalizedRows (parseCatalogCsv runtime content).rows, data.storable = true

instance (runtime : Runtime) (content : List UInt8) : Decidable (StorableSource runtime content) :=
  inferInstanceAs (Decidable (∀ data ∈ normalizedRows (parseCatalogCsv runtime content).rows, _))

/-- A JSONB column gives documents with one text back with one text. -/
def Canonical (runtime : Runtime) : Prop :=
  ∀ document other : JsonObject, (Json.object document).dumps = (Json.object other).dumps →
    (Json.object (runtime.jsonb document)).dumps = (Json.object (runtime.jsonb other)).dumps

def ImportStore.Replays (deployment : Deployment) (store : ImportStore) (call : PromotionCall) :
    Prop :=
  ∃ stored content, store.imports.find? call.catalogImport.id = some stored ∧
    store.sources call.catalogImport.id = some content ∧
      call.catalogImport.mode = stored.mode ∧ call.rows = sourceRows deployment.runtime content

def ImportEvent.promotedAt : ImportEvent → Option Time
  | .act _ (.promote now) => some now
  | .act .. | .accept .. | .heartbeat .. => none

section Rows

variable {runtime : Runtime} {tables : Tables} {rows : List CatalogRowData}

/-- Rows stay consistent where documents of one text are changed to documents of one text. -/
theorem Consistent.withDocuments {change : JsonObject → JsonObject} (consistent : Consistent rows)
    (keeps : ∀ row ∈ rows, ∀ other ∈ rows,
      ((Json.object row.styleAttributes).dumps = (Json.object other.styleAttributes).dumps →
        (Json.object (change row.styleAttributes)).dumps =
          (Json.object (change other.styleAttributes)).dumps) ∧
      ((Json.object row.attributes).dumps = (Json.object other.attributes).dumps →
        (Json.object (change row.attributes)).dumps =
          (Json.object (change other.attributes)).dumps)) :
    Consistent (rows.map (CatalogRowData.withDocuments change)) where
  epcs := (consistent.keyed.withDocuments change).epcs
  styles := by
    simp only [List.forall_mem_map]
    intro row member other listed same
    obtain ⟨name,texts⟩ := consistent.styles row member other listed same
    exact ⟨name,(keeps row member other listed).1 texts⟩
  skus := by
    simp only [List.forall_mem_map]
    intro row member other listed same
    obtain ⟨style,upc,color,size,texts⟩ := consistent.skus row member other listed same
    exact ⟨style,upc,color,size,(keeps row member other listed).2 texts⟩
  upcs := (consistent.keyed.withDocuments change).upcs

theorem sourceRows_keyed (runtime : Runtime) (content : List UInt8) :
    Keyed (sourceRows runtime content) :=
  (parsed_consistent runtime content).keyed.withDocuments _

/-- Documents that a column can hold are staged as they are, and so the rows stay consistent. -/
theorem sourceRows_consistent (dumps : runtime.DumpsClean) (canonical : Canonical runtime)
    {content : List UInt8} (storable : StorableSource runtime content) :
    Consistent (sourceRows runtime content) := by
  have kept : ∀ data ∈ normalizedRows (parseCatalogCsv runtime content).rows,
      runtime.stored data.styleAttributes = data.styleAttributes ∧
        runtime.stored data.attributes = data.attributes := by
    intro data member
    obtain ⟨own,style⟩ := fine_parsed runtime content data member
    have held := storable data member
    rw [CatalogRowData.storable,Bool.and_eq_true] at held
    exact ⟨stored_of_storable dumps style held.1,stored_of_storable dumps own held.2⟩
  apply (parsed_consistent runtime content).withDocuments
  intro row member other listed
  rw [(kept row member).1,(kept row member).2,(kept other listed).1,(kept other listed).2]
  exact ⟨canonical _ _,canonical _ _⟩

/-- What is staged for an import that comes out ready is what its source parses to. -/
theorem readRows_of_ready {catalogImport : CatalogImport} {content : List UInt8}
    {staging : Staging} (validating : catalogImport.status = .validating)
    (staged : validateAndStage runtime tables catalogImport content = .ok staging)
    (ready : staging.catalogImport.status = .ready) :
    staging.readRows runtime = sourceRows runtime content := by
  rw [Staging.readRows,(ready_of_validated validating staged ready).staged,List.map_map]
  rfl

end Rows

section Stores

variable {deployment : Deployment} {free : Uuid → Bool} {before after store : ImportStore}

/-- What was staged for an import is what its source parses to, and it is not staged again. -/
def ImportStore.Staged (deployment : Deployment) (store : ImportStore) (loaded : CatalogImport) :
    Prop :=
  ∃ stored content, store.imports.find? loaded.id = some stored ∧
    store.sources loaded.id = some content ∧ loaded.mode = stored.mode ∧
      stored.status ≠ .validating ∧
        stagedRows deployment store loaded = sourceRows deployment.runtime content

/-- Imports that were validated are not validated again, and what is not free stays as it is. -/
def Drift (free : Uuid → Bool) (before after : Imports) : Prop :=
  ∀ importId stored, before.find? importId = some stored →
    ∃ moved, after.find? importId = some moved ∧ moved.mode = stored.mode ∧
      (stored.status ≠ .validating → moved.status ≠ .validating) ∧
      (free importId = false → moved = stored)

structure Ends (free : Uuid → Bool) (before after : Imports) : Prop where
  drift : Drift free before after
  ready : ∀ importId stored, after.find? importId = some stored → stored.status = .ready →
    before.find? importId = some stored

section Changes

variable {free : Uuid → Bool} {before middle after : Imports} {importId : Uuid}
  {change : CatalogImport → CatalogImport}

theorem Drift.refl (imports : Imports) : Drift free imports imports :=
  fun _ stored found => ⟨stored,found,rfl,fun kept => kept,fun _ => rfl⟩

theorem Drift.trans (first : Drift free before middle) (second : Drift free middle after) :
    Drift free before after := by
  intro importId stored found
  obtain ⟨between,there,mode,kept,locked⟩ := first importId stored found
  obtain ⟨moved,later,sameMode,still,same⟩ := second importId between there
  refine ⟨moved,later,sameMode.trans mode,fun validated => still (kept validated),fun held => ?_⟩
  rw [same held,locked held]

/-- A statement that changes one import, which is its own to change. -/
theorem Drift.of_modify (keeps : ∀ stored, (change stored).id = stored.id)
    (modified : after = before.modify importId change keeps)
    (own : free importId = true) (mode : ∀ stored, (change stored).mode = stored.mode)
    (status : ∀ stored, before.find? importId = some stored →
      (change stored).status ≠ .validating) : Drift free before after := by
  intro other stored found
  rw [modified,Table.find?_modify]
  split
  · rename_i same
    subst same
    rw [found,Option.map_some]
    refine ⟨change stored,rfl,mode stored,fun _ => status stored found,fun locked => ?_⟩
    rw [own] at locked
    cases locked
  · exact ⟨stored,found,rfl,fun kept => kept,fun _ => rfl⟩

theorem Ends.refl (imports : Imports) : Ends free imports imports :=
  ⟨.refl imports,fun _ _ found _ => found⟩

theorem Ends.trans (first : Ends free before middle) (second : Ends free middle after) :
    Ends free before after where
  drift := first.drift.trans second.drift
  ready importId stored found isReady :=
    first.ready importId stored (second.ready importId stored found isReady) isReady

theorem Ends.of_modify (keeps : ∀ stored, (change stored).id = stored.id)
    (modified : after = before.modify importId change keeps)
    (own : free importId = true) (mode : ∀ stored, (change stored).mode = stored.mode)
    (ended : ∀ stored, (change stored).status.terminal = true) : Ends free before after where
  drift := by
    refine .of_modify keeps modified own mode fun stored _ validating => ?_
    have terminal := ended stored
    rw [validating] at terminal
    cases terminal
  ready other stored found isReady := by
    rw [modified,Table.find?_modify] at found
    split at found
    · obtain ⟨earlier,-,rfl⟩ := Option.map_eq_some_iff.mp found
      have terminal := ended earlier
      rw [isReady] at terminal
      cases terminal
    · exact found

end Changes

/-- What no statement does to an import, stale or not: it never has it staged again. -/
structure ImportStore.Drifts (free : Uuid → Bool) (before after : ImportStore) : Prop where
  imports : Drift free before.imports after.imports
  sources : ∀ importId stored, before.imports.find? importId = some stored →
    after.sources importId = before.sources importId
  rows : ∀ importId stored, before.imports.find? importId = some stored →
    stored.status ≠ .validating → after.rows importId = before.rows importId

namespace ImportStore.Drifts

theorem of_drift (drift : Drift free before.imports after.imports)
    (sources : after.sources = before.sources) (rows : after.rows = before.rows) :
    before.Drifts free after where
  imports := drift
  sources importId _ _ := by rw [sources]
  rows importId _ _ _ := by rw [rows]

theorem replays (drifts : before.Drifts free after) {call : PromotionCall}
    (replays : before.Replays deployment call) : after.Replays deployment call := by
  obtain ⟨stored,content,found,source,mode,rows⟩ := replays
  obtain ⟨moved,later,sameMode,-⟩ := drifts.imports _ stored found
  exact ⟨moved,content,later,(drifts.sources _ stored found).trans source,
    mode.trans sameMode.symm,rows⟩

theorem staged (drifts : before.Drifts free after) {loaded : CatalogImport}
    (staged : before.Staged deployment loaded) : after.Staged deployment loaded := by
  obtain ⟨stored,content,found,source,mode,validated,rows⟩ := staged
  obtain ⟨moved,later,sameMode,still,-⟩ := drifts.imports _ stored found
  refine ⟨moved,content,later,(drifts.sources _ stored found).trans source,
    mode.trans sameMode.symm,still validated,?_⟩
  rw [← rows,stagedRows,stagedRows,drifts.rows _ stored found validated]

theorem keeps (drifts : before.Drifts free after) {importId : Uuid} {stored : CatalogImport}
    (locked : free importId = false) (found : before.imports.find? importId = some stored) :
    after.imports.find? importId = some stored := by
  obtain ⟨moved,later,-,-,kept⟩ := drifts.imports importId stored found
  rw [later,kept locked]

end ImportStore.Drifts

end Stores

section Sessions

variable {deployment : Deployment} {free : Uuid → Bool} {before after store : ImportStore}

def Phase.Holds (deployment : Deployment) (store : ImportStore) : Phase → Prop
  | .validating _ catalogImport _ => catalogImport.status = .validating ∧
      store.imports.find? catalogImport.id = some catalogImport
  | .ready _ loaded _ => loaded.status = .ready ∧ store.Staged deployment loaded
  | .waiting | .claimed | .reconciling _ | .opened .. | .staged .. | .processed .. | .raised .. =>
      True

theorem Phase.Holds.drifts {phase : Phase} (holds : phase.Holds deployment before)
    (drifts : before.Drifts free after)
    (locked : ∀ importId ∈ phase.locks, free importId = false) : phase.Holds deployment after := by
  cases phase with
  | waiting | claimed | reconciling | opened | staged | processed | raised => trivial
  | validating job catalogImport tables =>
      exact ⟨holds.1,drifts.keeps (locked _ (List.mem_singleton_self _)) holds.2⟩
  | ready job loaded held => exact ⟨holds.1,drifts.staged holds.2⟩

def ImportStore.ReadyStaged (deployment : Deployment) (store : ImportStore) : Prop :=
  ∀ importId stored, store.imports.find? importId = some stored → stored.status = .ready →
    store.Staged deployment stored

def ImportStore.catalog (store : ImportStore) : Tables × List Uuid := (store.tables,store.promotions)

structure Passes (deployment : Deployment) (free : Uuid → Bool) (before : ImportStore)
    (worker : CatalogWorker) (action : Action) (left : ImportStore × CatalogWorker) : Prop where
  catalog : left.1.catalog = before.catalog ∨ ∃ now, action = .promote now
  drifts : before.Drifts free left.1
  ready : left.1.ReadyStaged deployment
  id : left.2.id = worker.id
  phase : left.2.phase.Holds deployment left.1
  locks : ∀ importId ∈ left.2.phase.locks, free importId = true

end Sessions

section Statements

variable {deployment : Deployment} {free : Uuid → Bool} {store : ImportStore}
  {worker : CatalogWorker} {left : ImportStore × CatalogWorker}

/-- A statement that leaves the imports alone, or ends those that are its own to change. -/
theorem Passes.of_ends {action : Action} (ready : store.ReadyStaged deployment)
    (catalog : left.1.catalog = store.catalog ∨ ∃ now, action = .promote now)
    (id : left.2.id = worker.id) (ends : Ends free store.imports left.1.imports) (sources : left.1.sources = store.sources)
    (rows : left.1.rows = store.rows) (phase : left.2.phase.Holds deployment left.1)
    (locks : ∀ importId ∈ left.2.phase.locks, free importId = true) :
    Passes deployment free store worker action left := by
  have drifts : store.Drifts free left.1 := .of_drift ends.drift sources rows
  refine ⟨catalog,drifts,fun importId stored found isReady => ?_,id,phase,locks⟩
  exact drifts.staged (ready importId stored (ends.ready importId stored found isReady) isReady)

theorem Passes.read {action : Action} (ready : store.ReadyStaged deployment)
    (catalog : left.1.catalog = store.catalog) (id : left.2.id = worker.id)
    (imports : left.1.imports = store.imports) (sources : left.1.sources = store.sources)
    (rows : left.1.rows = store.rows) (phase : left.2.phase.Holds deployment store)
    (locks : ∀ importId ∈ left.2.phase.locks, free importId = true) :
    Passes deployment free store worker action left := by
  have drifts : store.Drifts (fun _ => false) left.1 := by
    refine .of_drift ?_ sources rows
    rw [imports]
    exact .refl _
  refine .of_ends ready (.inl catalog) id ?_ sources rows (phase.drifts drifts fun _ _ => rfl) locks
  rw [imports]
  exact .refl _

theorem claimOne_passes (ready : store.ReadyStaged deployment) {tenants : Tenants}
    {locked : SkipLocked} {now : Time}
    (taken : claimOne deployment store worker tenants locked now = some left) :
    Passes deployment free store worker (.claim tenants locked now) left := by
  unfold claimOne at taken
  split at taken
  · cases taken
    exact .read ready rfl rfl rfl rfl rfl trivial locks_none
  · cases taken

theorem select_passes (ready : store.ReadyStaged deployment) {locked : Stranded → Bool}
    (taken : selectForReconciliation deployment free store worker locked = some left) :
    Passes deployment free store worker (.select locked) left := by
  unfold selectForReconciliation at taken
  split at taken
  · cases taken
    refine .read ready rfl rfl rfl rfl rfl trivial fun importId member => ?_
    obtain ⟨pair,listed,rfl⟩ := List.mem_map.mp member
    obtain ⟨-,passed⟩ := List.mem_filter.mp (List.mem_of_mem_take listed)
    simp only [Bool.not_or,Bool.not_not,Bool.and_eq_true] at passed
    exact passed.2
  · cases taken

theorem turnToJob_passes (ready : store.ReadyStaged deployment)
    (taken : turnToJob store worker = some left) : Passes deployment free store worker .turn left := by
  unfold turnToJob at taken
  split at taken
  · rename_i job jobs phase rest
    cases taken
    cases found : store.jobs.find? job.id with
    | none => exact .read ready rfl rfl rfl rfl rfl trivial locks_none
    | some current => exact .read ready rfl rfl rfl rfl rfl trivial locks_none
  · cases taken

/-- An import that is ready when it is locked has been staged. -/
theorem validate_passes (ready : store.ReadyStaged deployment)
    (taken : selectForValidation deployment free store worker = some left) :
    Passes deployment free store worker .validate left := by
  unfold selectForValidation at taken
  split at taken
  · rename_i job payload opened
    obtain ⟨importId,-,taken⟩ := Option.bind_eq_some_iff.mp taken
    obtain ⟨stored,found,taken⟩ := Option.bind_eq_some_iff.mp taken
    have key : stored.id = importId := Table.key_of_find? found
    subst key
    split at taken
    · rename_i isFree
      have own : ∀ importId ∈ [stored.id], free importId = true := by
        simpa using isFree
      split at taken
      · rename_i isReady
        cases taken
        exact .read ready rfl rfl rfl rfl rfl ⟨isReady,ready stored.id stored found isReady⟩ own
      · cases taken
        exact .read ready rfl rfl rfl rfl rfl trivial own
      · cases taken
        exact .read ready rfl rfl rfl rfl rfl trivial own
      · cases taken
        exact .read ready rfl rfl rfl rfl rfl trivial own
      · rename_i validating
        cases taken
        exact .read ready rfl rfl rfl rfl rfl ⟨validating,found⟩ own
      · cases taken
    · cases taken
  · cases taken

/-- A commit of a staging finds its import as it was when it was locked. -/
theorem stage_passes (ready : store.ReadyStaged deployment)
    (phase : worker.phase.Holds deployment store)
    (own : ∀ importId ∈ worker.phase.locks, free importId = true)
    (taken : commitStaging deployment store worker = some left) :
    Passes deployment free store worker .stage left := by
  unfold commitStaging at taken
  split at taken
  · rename_i job catalogImport tables validating
    rw [validating] at phase own
    obtain ⟨status,found⟩ := phase
    obtain ⟨content,source,taken⟩ := Option.bind_eq_some_iff.mp taken
    obtain ⟨staging,done,taken⟩ := Option.bind_eq_some_iff.mp taken
    cases taken
    have staged := toOption_eq_some.mp done
    have verdict := validateAndStage_status status staged
    have changed : (catalogImport.write catalogImport staging.catalogImport).status =
        staging.catalogImport.status := by
      refine write_status ?_
      rcases verdict with isReady | rejected
      · rw [isReady,status]; decide
      · rw [rejected,status]; decide
    have validated : (catalogImport.write catalogImport staging.catalogImport).status ≠
        .validating := by
      rw [changed]
      rcases verdict with isReady | rejected
      · rw [isReady]; decide
      · rw [rejected]; decide
    let imports : Imports := store.imports.modify catalogImport.id
      (fun stored => stored.write catalogImport staging.catalogImport)
      (CatalogImport.write_id catalogImport staging.catalogImport)
    have modified : imports = store.imports.modify catalogImport.id
      (fun stored => stored.write catalogImport staging.catalogImport)
      (CatalogImport.write_id catalogImport staging.catalogImport) := rfl
    have drifts : store.Drifts free { store with
        imports := imports
        rows := Function.update store.rows catalogImport.id staging.rows } := by
      refine ⟨.of_modify _ modified (own _ (List.mem_singleton_self _)) (fun _ => rfl) ?_,
        fun _ _ _ => rfl,?_⟩
      · intro stored present
        rw [← Option.some.inj (found.symm.trans present)]
        exact validated
      · intro importId stored present still
        refine Function.update_of_ne ?_ _ _
        rintro rfl
        rw [← Option.some.inj (found.symm.trans present)] at still
        exact still status
    refine ⟨.inl rfl,drifts,fun importId stored present isReady => ?_,rfl,trivial,locks_none⟩
    by_cases same : importId = catalogImport.id
    · subst same
      rw [find?_modify_self found,Option.some.injEq] at present
      subst present
      rw [changed] at isReady
      refine ⟨_,content,find?_modify_self found (CatalogImport.write_id _ _),source,rfl,
        validated,?_⟩
      rw [← readRows_of_ready status staged isReady]
      exact congrArg (fun rows => Staging.readRows deployment.runtime ⟨_,rows,[]⟩)
        (Function.update_self ..)
    · rw [Table.find?_modify,if_neg same] at present
      exact drifts.staged (ready importId stored present isReady)
  · cases taken

theorem refresh_passes (ready : store.ReadyStaged deployment)
    (taken : refreshImport store worker = some left) :
    Passes deployment free store worker .refresh left := by
  unfold refreshImport at taken
  split at taken
  · rename_i job importId staged
    obtain ⟨stored,found,taken⟩ := Option.bind_eq_some_iff.mp taken
    cases taken
    by_cases isReady : stored.status = .ready
    · rw [if_pos isReady]
      exact .read ready rfl rfl rfl rfl rfl ⟨isReady,ready importId stored found isReady⟩
        locks_none
    · rw [if_neg isReady]
      exact .read ready rfl rfl rfl rfl rfl trivial locks_none
  · cases taken

theorem promote_passes (ready : store.ReadyStaged deployment)
    (phase : worker.phase.Holds deployment store) {now : Time}
    (taken : promoteLoaded deployment free store worker now = some left) :
    Passes deployment free store worker (.promote now) left := by
  unfold promoteLoaded at taken
  split at taken
  · rename_i job loaded locked at_
    rw [at_] at phase
    obtain ⟨isReady,-⟩ := phase
    obtain ⟨stored,found,taken⟩ := Option.bind_eq_some_iff.mp taken
    split at taken
    · rename_i isFree
      obtain ⟨promoted,done,taken⟩ := Option.bind_eq_some_iff.mp taken
      cases taken
      have ended : ∀ stored : CatalogImport,
          (stored.write loaded promoted.1).status.terminal = true := by
        intro stored
        rcases promoteCatalogImport_status isReady (toOption_eq_some.mp done) with
          completed | failed
        · rw [write_status (by rw [completed,isReady]; decide),completed]; rfl
        · rw [write_status (by rw [failed,isReady]; decide),failed]; rfl
      refine .of_ends ready (.inr ⟨now,rfl⟩) rfl ?_ rfl rfl trivial locks_none
      exact .of_modify (CatalogImport.write_id loaded promoted.1) rfl isFree (fun _ => rfl) ended
    · cases taken
  · cases taken

/-- An import without attempts left fails, unless it is at an end. -/
theorem markExhausted_ends (imports : Imports) (payload : JsonObject) (error : Text)
    (own : (payloadImport deployment payload).all free = true) :
    Ends free imports (markExhausted deployment imports payload error).1 := by
  unfold markExhausted
  split
  · exact .refl imports
  · rename_i stored located
    obtain ⟨importId,reads,found⟩ := Option.bind_eq_some_iff.mp located
    split
    · exact .refl imports
    · have key : stored.id = importId := Table.key_of_find? found
      subst key
      rw [reads] at own
      exact .of_modify (CatalogImport.exhaust_id error) rfl own (fun _ => rfl) fun _ => rfl

theorem handle_passes (ready : store.ReadyStaged deployment) {now : Time}
    (taken : handleError deployment free store worker now = some left) :
    Passes deployment free store worker (.handle now) left := by
  unfold handleError at taken
  split at taken
  · rename_i job error raised
    dsimp only at taken
    split at taken
    · cases taken
    · rename_i unlocked
      cases taken
      split
      · refine .of_ends ready (.inl rfl) rfl ?_ rfl rfl trivial locks_none
        dsimp only
        split
        · rename_i exhausted
          exact markExhausted_ends store.imports job.payload error
            (by simpa [exhausted] using unlocked)
        · exact .refl store.imports
      · exact .read ready rfl rfl rfl rfl rfl trivial locks_none
  · cases taken

theorem reconcilePair_ends (session : List DurableJob) (tables : Jobs × Imports) {pair : Stranded}
    (own : free pair.2.id = true) : Ends free tables.2 (reconcilePair session tables pair).2 := by
  unfold reconcilePair
  dsimp only
  split
  · exact .refl tables.2
  · exact .of_modify (CatalogImport.strand_id _) rfl own (fun _ => rfl) fun _ => rfl

theorem reconcileStranded_own (session : List DurableJob) (jobs : Jobs) (imports : Imports)
    {stranded : List Stranded} (own : ∀ pair ∈ stranded, free pair.2.id = true) :
    Ends free imports (reconcileStranded session jobs imports stranded).2 :=
  List.foldlRecOn (motive := fun tables => Ends free imports tables.2) stranded
    (reconcilePair session) (.refl imports)
    fun tables ends pair member => ends.trans (reconcilePair_ends session tables (own pair member))

theorem reconcile_passes (ready : store.ReadyStaged deployment)
    (own : ∀ importId ∈ worker.phase.locks, free importId = true)
    (taken : commitReconciliation store worker = some left) :
    Passes deployment free store worker .reconcile left := by
  unfold commitReconciliation at taken
  split at taken
  · rename_i stranded reconciling
    rw [reconciling] at own
    cases taken
    refine .of_ends ready (.inl rfl) rfl ?_ rfl rfl trivial locks_none
    exact reconcileStranded_own worker.jobs store.jobs store.imports
      fun pair member => own pair.2.id (List.mem_map_of_mem member)
  · cases taken

theorem complete_passes (ready : store.ReadyStaged deployment)
    (taken : completeJob store worker = some left) : Passes deployment free store worker .complete left := by
  unfold completeJob at taken
  split at taken
  · cases taken
    exact .read ready rfl rfl rfl rfl rfl trivial locks_none
  · cases taken

theorem raise_passes (ready : store.ReadyStaged deployment) {error : Text}
    (taken : raiseError store worker error = some left) :
    Passes deployment free store worker (.raise error) left := by
  obtain ⟨job,-,rfl⟩ := Option.map_eq_some_iff.mp taken
  exact .read ready rfl rfl rfl rfl rfl trivial locks_none

theorem CatalogWorker.act_passes {action : Action} (ready : store.ReadyStaged deployment)
    (phase : worker.phase.Holds deployment store)
    (own : ∀ importId ∈ worker.phase.locks, free importId = true)
    (taken : worker.act deployment free store action = some left) :
    Passes deployment free store worker action left := by
  cases action with
  | claim tenants locked now => exact claimOne_passes ready taken
  | select locked => exact select_passes ready taken
  | reconcile => exact reconcile_passes ready own taken
  | turn => exact turnToJob_passes ready taken
  | validate => exact validate_passes ready taken
  | stage => exact stage_passes ready phase own taken
  | refresh => exact refresh_passes ready taken
  | promote now => exact promote_passes ready phase taken
  | complete => exact complete_passes ready taken
  | raise error => exact raise_passes ready taken
  | handle now => exact handle_passes ready taken
  | crash =>
      cases taken
      exact .read ready rfl rfl rfl rfl rfl trivial locks_none

end Statements

section States

variable {deployment : Deployment} {state after : ImportState} {event : ImportEvent}

/-- What holds of the workers and their imports whether a promotion was stale or not. -/
structure ImportState.Holds (deployment : Deployment) (state : ImportState) : Prop where
  ready : state.store.ReadyStaged deployment
  phases : ∀ workerId, (state.worker workerId).phase.Holds deployment state.store
  exclusive : ∀ workerId, ∀ importId ∈ (state.worker workerId).phase.locks,
    state.free workerId importId = true

theorem ImportState.Holds.initial : ({} : ImportState).Holds deployment where
  ready _ _ found := by cases found
  phases _ := trivial
  exclusive _ := nofun

theorem accept_drifts {tenants : Tenants} {store left : ImportStore} {upload : Upload}
    {now createdAt : Time} (ready : store.ReadyStaged deployment)
    (accepted : acceptImport deployment tenants store upload now createdAt = some left) :
    store.Drifts (fun _ => false) left ∧ left.ReadyStaged deployment := by
  obtain ⟨imports,inserted,accepted⟩ := Option.bind_eq_some_iff.mp accepted
  obtain ⟨enqueued,-,accepted⟩ := Option.bind_eq_some_iff.mp accepted
  cases accepted
  have fresh : store.imports.find? upload.importId = none := (Table.insert_eq_some inserted).1
  have drifts : store.Drifts (fun _ => false) { store with
      imports := imports
      jobs := enqueued.1
      sources := Function.update store.sources upload.importId (some upload.content) } := by
    refine ⟨fun importId stored found =>
      ⟨stored,find?_insert_old inserted found,rfl,fun kept => kept,fun _ => rfl⟩,
      fun importId stored found => Function.update_of_ne ?_ _ _,fun _ _ _ _ => rfl⟩
    rintro rfl
    rw [fresh] at found
    cases found
  refine ⟨drifts,fun importId stored found isReady => ?_⟩
  rw [Table.find?_insert inserted] at found
  split at found
  · cases found
    cases isReady
  · exact drifts.staged (ready importId stored found isReady)

/-- The imports that an event may change drift, and no session is misled by that. -/
theorem ImportState.Holds.next (holds : state.Holds deployment)
    (taken : (importMachine deployment).next state event = some after) :
    state.store.Drifts (event.free state) after.store ∧ after.Holds deployment := by
  cases event with
  | accept tenants upload now createdAt =>
      obtain ⟨store,accepted,rfl⟩ := Option.map_eq_some_iff.mp taken
      obtain ⟨drifts,ready⟩ := accept_drifts holds.ready accepted
      exact ⟨drifts,ready,fun workerId => (holds.phases workerId).drifts drifts fun _ _ => rfl,
        holds.exclusive⟩
  | heartbeat workerId jobId now =>
      cases taken
      have drifts : state.store.Drifts (fun _ => false) { state.store with
          jobs := (renewLease state.store.jobs jobId workerId
            deployment.settings.workerLeaseSeconds now).1 } := .of_drift (.refl _) rfl rfl
      exact ⟨drifts,fun importId stored found isReady =>
          drifts.staged (holds.ready importId stored found isReady),
        fun workerId => (holds.phases workerId).drifts drifts fun _ _ => rfl,holds.exclusive⟩
  | act workerId action =>
      obtain ⟨left,acted,rfl⟩ := Option.map_eq_some_iff.mp taken
      have passes : Passes deployment (state.free workerId) state.store (state.worker workerId)
          action left :=
        CatalogWorker.act_passes holds.ready (holds.phases workerId) (holds.exclusive workerId) acted
      have key : left.2.id = workerId := passes.id.trans (state.worker_id workerId)
      refine ⟨passes.drifts,passes.ready,fun other => ?_,fun other importId member => ?_⟩
      · rw [ImportState.worker_put]
        split
        · exact passes.phase
        · rename_i different
          rw [key] at different
          exact (holds.phases other).drifts passes.drifts fun importId member =>
            ImportState.locked_of_mem (Ne.symm different) member
      · rw [ImportState.worker_put] at member
        refine ImportState.free_iff.mpr fun third apart => ?_
        rw [ImportState.worker_put]
        rw [key] at member ⊢
        by_cases own : workerId = other
        · subst own
          rw [if_pos rfl] at member
          rw [if_neg (Ne.symm apart)]
          exact ImportState.free_iff.mp (passes.locks importId member) third apart
        · rw [if_neg own] at member
          split
          · intro again
            exact ImportState.free_iff.mp (passes.locks importId again) other (Ne.symm own) member
          · exact ImportState.free_iff.mp (holds.exclusive other importId member) third apart

structure Promotes (deployment : Deployment) (before after : ImportStore) (call : PromotionCall) :
    Prop where
  replays : before.Replays deployment call
  tables : after.tables = afterPromotion deployment.runtime before.tables call
  promotions : after.promotions = before.promotions ++
    if completes deployment.runtime before.tables call then [call.catalogImport.id] else []

theorem promoteLoaded_promotes {free : Uuid → Bool} {store : ImportStore} {worker : CatalogWorker}
    {left : ImportStore × CatalogWorker} {now : Time} (phase : worker.phase.Holds deployment store)
    (taken : promoteLoaded deployment free store worker now = some left) :
    ∃ call : PromotionCall, call.now = now ∧ Promotes deployment store left.1 call := by
  unfold promoteLoaded at taken
  split at taken
  · rename_i job loaded locked at_
    rw [at_] at phase
    obtain ⟨isReady,stored,content,found,source,mode,-,rows⟩ := phase
    obtain ⟨-,-,taken⟩ := Option.bind_eq_some_iff.mp taken
    split at taken
    · obtain ⟨promoted,done,taken⟩ := Option.bind_eq_some_iff.mp taken
      cases taken
      have promotes := toOption_eq_some.mp done
      refine ⟨⟨loaded,stagedRows deployment store loaded,now⟩,rfl,
        ⟨stored,content,found,source,mode,rows⟩,?_,?_⟩
      · rw [afterPromotion,promotes]
      · rw [completes,promotes]
        by_cases completed : promoted.1.status = .completed
        · simp [isReady,Except.toOption,completed]
        · simp [isReady,Except.toOption,completed]
    · cases taken
  · cases taken

/-- Of all events a promotion alone changes the catalog. -/
theorem next_catalog (holds : state.Holds deployment)
    (taken : (importMachine deployment).next state event = some after) :
    (after.store.tables = state.store.tables ∧ after.store.promotions = state.store.promotions) ∨
    ∃ call, event.promotedAt = some call.now ∧
      Promotes deployment state.store after.store call := by
  cases event with
  | accept tenants upload now createdAt =>
      obtain ⟨store,accepted,rfl⟩ := Option.map_eq_some_iff.mp taken
      obtain ⟨imports,-,accepted⟩ := Option.bind_eq_some_iff.mp accepted
      obtain ⟨enqueued,-,accepted⟩ := Option.bind_eq_some_iff.mp accepted
      cases accepted
      exact .inl ⟨rfl,rfl⟩
  | heartbeat workerId jobId now =>
      cases taken
      exact .inl ⟨rfl,rfl⟩
  | act workerId action =>
      obtain ⟨left,acted,rfl⟩ := Option.map_eq_some_iff.mp taken
      have passes : Passes deployment (state.free workerId) state.store (state.worker workerId)
          action left :=
        CatalogWorker.act_passes holds.ready (holds.phases workerId) (holds.exclusive workerId) acted
      rcases passes.catalog with same | ⟨now,rfl⟩
      · exact .inl (Prod.mk.inj same)
      · obtain ⟨call,rfl,promotes⟩ := promoteLoaded_promotes (holds.phases workerId) acted
        exact .inr ⟨call,rfl,promotes⟩

end States

section Runs

variable {deployment : Deployment} {state after : ImportState} {event : ImportEvent}
  {events : List ImportEvent} {calls : List PromotionCall}

theorem promotions_append {runtime : Runtime} {tables after : Tables} (call : PromotionCall)
    (ran : (catalogMachine runtime).run tables calls = some after) :
    promotions runtime tables (calls ++ [call]) =
      promotions runtime tables calls ++ if completes runtime after call then [call] else [] := by
  induction calls generalizing tables with
  | nil =>
      cases ran
      simp [promotions]
  | cons first calls ih =>
      have further : promotions runtime (afterPromotion runtime tables first) (calls ++ [call]) =
          _ := ih ran
      simp only [List.cons_append,promotions,further]
      split <;> simp

theorem promotions_sublist (runtime : Runtime) (tables : Tables) (calls : List PromotionCall) :
    (promotions runtime tables calls).Sublist calls := by
  induction calls generalizing tables with
  | nil => exact .slnil
  | cons call calls ih =>
      rw [promotions]
      split
      · exact (ih _).cons_cons call
      · exact (ih _).cons call

structure Replay (deployment : Deployment) (events : List ImportEvent) (state : ImportState)
    (calls : List PromotionCall) : Prop where
  ran : (catalogMachine deployment.runtime).run {} calls = some state.store.tables
  promotions : (promotions deployment.runtime {} calls).map (fun call => call.catalogImport.id) =
    state.store.promotions
  replays : ∀ call ∈ calls, state.store.Replays deployment call
  clock : (calls.map PromotionCall.now).Sublist (events.filterMap ImportEvent.promotedAt)

theorem Replay.next (replay : Replay deployment events state calls)
    (holds : state.Holds deployment)
    (taken : (importMachine deployment).next state event = some after) :
    ∃ calls, Replay deployment (events ++ [event]) after calls := by
  obtain ⟨drifts,-⟩ := holds.next taken
  have kept : ∀ call ∈ calls, after.store.Replays deployment call :=
    fun call member => drifts.replays (replay.replays call member)
  rcases next_catalog holds taken with ⟨tables,promotions⟩ | ⟨call,now,promotes⟩
  · refine ⟨calls,by rw [replay.ran,tables],by rw [replay.promotions,promotions],kept,?_⟩
    rw [List.filterMap_append]
    exact replay.clock.trans (List.sublist_append_left _ _)
  · refine ⟨calls ++ [call],?_,?_,?_,?_⟩
    · rw [Machine.run_append,replay.ran,promotes.tables]
      rfl
    · rw [promotions_append call replay.ran,List.map_append,replay.promotions,promotes.promotions]
      split <;> rfl
    · intro other member
      rcases List.mem_append.mp member with earlier | last
      · exact kept other earlier
      · rw [List.mem_singleton.mp last]
        exact drifts.replays promotes.replays
    · rw [List.filterMap_append,List.map_append]
      refine replay.clock.append ?_
      simp [now]

def Replayed (deployment : Deployment) (events : List ImportEvent) (state : ImportState) : Prop :=
  state.Holds deployment ∧ ∃ calls, Replay deployment events state calls

theorem replay_of_run (ran : (importMachine deployment).run {} events = some state) :
    Replayed deployment events state := by
  have step : ∀ earlier state event after, Replayed deployment earlier state →
      (importMachine deployment).next state event = some after →
        Replayed deployment (earlier ++ [event]) after := by
    rintro earlier state event after ⟨holds,calls,replay⟩ taken
    exact ⟨(holds.next taken).2,replay.next holds taken⟩
  have begins : Replayed deployment [] {} :=
    ⟨.initial,[],rfl,rfl,by simp,List.nil_sublist _⟩
  exact Machine.run_history step begins ran

/-- In every state that the workers reach, in whatever order, the catalog is what promotions leave
that follow each other, each of them of an accepted source. -/
theorem workers_refine_catalog (reachable : (importMachine deployment).Reachable state) :
    ∃ calls, (catalogMachine deployment.runtime).run {} calls = some state.store.tables ∧
      (promotions deployment.runtime {} calls).map (fun call => call.catalogImport.id) =
        state.store.promotions ∧
      ∀ call ∈ calls, state.store.Replays deployment call := by
  obtain ⟨start,events,rfl,ran⟩ := reachable
  obtain ⟨-,calls,replay⟩ := replay_of_run ran
  exact ⟨calls,replay.ran,replay.promotions,replay.replays⟩

theorem workers_refine_catalog_sample :
    (Sample.importRun Sample.staleRun).store.promotions = [1,1] ∧
    ∃ calls, (catalogMachine Sample.deployment.runtime).run {} calls =
        some (Sample.importRun Sample.staleRun).store.tables ∧
      (promotions Sample.deployment.runtime {} calls).map (fun call => call.catalogImport.id) =
        (Sample.importRun Sample.staleRun).store.promotions ∧
      ∀ call ∈ calls,
        (Sample.importRun Sample.staleRun).store.Replays Sample.deployment call :=
  ⟨by decide +kernel,workers_refine_catalog ⟨{},Sample.staleRun,rfl,
    Sample.importRun_reached Sample.staleRun (by decide +kernel)⟩⟩

theorem Tables.Follows.resolves {tables : Tables} {history : List PromotionCall}
    (follows : tables.Follows history) (runtime : Runtime) (epc : Text) (observedAt : Time) :
    resolvedSku runtime tables epc observedAt =
      (normalizeEpc runtime epc).toOption.bind fun normalized =>
        mappingAt history observedAt normalized.1 := by
  ext code
  rw [resolvedSku_eq_some follows.wellFormed]
  cases normalization : normalizeEpc runtime epc with
  | error message => simp [Except.toOption]
  | ok normalized => simp [Except.toOption,follows.bound]

end Runs

end Abacus.Catalog
