import Abacus.Catalog.Workers
import Abacus.Isolation.Context

/-! The rows that the statements of a session see and write.
They are those of its tenant in the stores that it is pinned to. A session that is pinned to nothing
sees no rows of any tenant, on whatever connection.
-/
set_option autoImplicit false

namespace Abacus.Isolation

open Python (Text text)
open Transition (Machine)

/-- What the texts of identifiers have to have: they are read back, and neither a comma nor the text
that stands for all stores is among them. -/
structure UuidText.Lawful (uuids : UuidText) : Prop where
  parse_str : ∀ id, uuids.parse (uuids.str id) = some id
  supplied : ∀ id, uuids.str id ≠ []
  single : ∀ id, 44 ∉ uuids.str id
  narrow : ∀ id, uuids.str id ≠ tenantWide

theorem UuidText.Lawful.injective {uuids : UuidText} (lawful : uuids.Lawful) :
    Function.Injective uuids.str := by
  intro left right same
  have read := lawful.parse_str left
  rw [same,lawful.parse_str right] at read
  exact (Option.some.inj read).symm

section Scopes

variable {uuids : UuidText} (lawful : uuids.Lawful)

def Covers (storeIds : List Uuid) (wide : Bool) (column : Option Uuid) : Prop :=
  wide = true ∨ ∃ storeId ∈ storeIds, column = some storeId

def sortedIds (uuids : UuidText) (storeIds : List Uuid) : List Uuid :=
  storeIds.dedup.insertionSort fun left right => uuids.str left ≤ uuids.str right

@[simp] theorem mem_sortedIds {storeIds : List Uuid} {storeId : Uuid} :
    storeId ∈ sortedIds uuids storeIds ↔ storeId ∈ storeIds := by
  simp [sortedIds]

theorem scopeText_narrow (storeIds : List Uuid) :
    TenantSession.scopeText uuids storeIds false =
      [44].intercalate ((sortedIds uuids storeIds).map uuids.str) := rfl

include lawful in
/-- The text of a scope is taken apart where it was joined. -/
theorem splitOn_scopeText {storeIds : List Uuid} (present : sortedIds uuids storeIds ≠ []) :
    (TenantSession.scopeText uuids storeIds false).splitOn 44 =
      (sortedIds uuids storeIds).map uuids.str := by
  rw [scopeText_narrow]
  refine List.splitOn_intercalate 44 ?_ (by simpa using present)
  intro part member
  obtain ⟨storeId,-,rfl⟩ := List.mem_map.mp member
  exact lawful.single storeId

theorem scopeText_of_empty {storeIds : List Uuid} (absent : sortedIds uuids storeIds = []) :
    TenantSession.scopeText uuids storeIds false = [] := by
  rw [scopeText_narrow,absent]
  rfl

include lawful in
/-- Only the scope of no store is the empty text, and only that of all stores is the star. -/
theorem scopeText_supplied {storeIds : List Uuid} (present : sortedIds uuids storeIds ≠ []) :
    TenantSession.scopeText uuids storeIds false ≠ [] ∧
      TenantSession.scopeText uuids storeIds false ≠ tenantWide := by
  have parts := splitOn_scopeText lawful present
  obtain ⟨storeId,member⟩ := List.exists_mem_of_ne_nil _ present
  have listed : uuids.str storeId ∈ (sortedIds uuids storeIds).map uuids.str :=
    List.mem_map_of_mem member
  constructor
  · intro nothing
    rw [nothing] at parts
    rw [← parts] at listed
    exact lawful.supplied storeId (by simpa using listed)
  · intro star
    rw [star] at parts
    rw [← parts] at listed
    have split : tenantWide.splitOn 44 = [tenantWide] := by decide
    rw [split] at listed
    exact lawful.narrow storeId (List.mem_singleton.mp listed)

include lawful in
theorem mem_stringToArray {storeIds : List Uuid} {storeId : Uuid} :
    uuids.str storeId ∈ stringToArray (TenantSession.scopeText uuids storeIds false) ↔
      storeId ∈ storeIds := by
  have listed : storeId ∈ sortedIds uuids storeIds ↔ storeId ∈ storeIds := mem_sortedIds
  by_cases absent : sortedIds uuids storeIds = []
  · rw [scopeText_of_empty absent,← listed,absent]
    simp [stringToArray]
  · rw [stringToArray,if_neg (scopeText_supplied lawful absent).1,splitOn_scopeText lawful absent,
      List.mem_map_of_injective lawful.injective,listed]

include lawful in
theorem scopeText_ne_tenantWide (storeIds : List Uuid) :
    TenantSession.scopeText uuids storeIds false ≠ tenantWide := by
  by_cases absent : sortedIds uuids storeIds = []
  · rw [scopeText_of_empty absent]
    decide
  · exact (scopeText_supplied lawful absent).2

include lawful in
/-- A store column matches the scope that a session is pinned to if the scope covers it. -/
theorem scopeMatch_iff {context : Context} {storeIds : List Uuid} {wide : Bool}
    (pinned : context.storeScope = some (TenantSession.scopeText uuids storeIds wide))
    (column : Option Uuid) :
    scopeMatch uuids context column = some true ↔ Covers storeIds wide column := by
  rw [scopeMatch,Sql.or_eq_true,Sql.eq_eq_true,Sql.eqAny_eq_true,pinned]
  cases wide with
  | true => simp [Covers,TenantSession.scopeText]
  | false =>
      have narrow := scopeText_ne_tenantWide lawful storeIds
      cases column with
      | none => simp [Covers,narrow.symm]
      | some storeId => simp [Covers,narrow.symm,mem_stringToArray lawful]

theorem scopeMatch_of_blank {context : Context} (blank : Blank context.storeScope)
    (column : Option Uuid) : scopeMatch uuids context column ≠ some true := by
  rw [Ne,scopeMatch,Sql.or_eq_true,Sql.eq_eq_true,Sql.eqAny_eq_true]
  rcases blank with unset | unset
  · simp [unset]
  · simp [unset,stringToArray,tenantWide,text]

include lawful in
/-- A scope is set if it is of all stores or of some. -/
theorem nullIf_scopeText {context : Context} {storeIds : List Uuid} {wide : Bool}
    (pinned : context.storeScope = some (TenantSession.scopeText uuids storeIds wide)) :
    (Sql.nullIf context.storeScope []).isSome = true ↔ wide = true ∨ storeIds ≠ [] := by
  rw [Option.isSome_iff_exists,pinned]
  cases wide with
  | true => simp [TenantSession.scopeText,tenantWide,text]
  | false =>
      have sized : sortedIds uuids storeIds = [] ↔ storeIds = [] := by
        simp only [List.eq_nil_iff_forall_not_mem,mem_sortedIds]
      by_cases absent : sortedIds uuids storeIds = []
      · rw [scopeText_of_empty absent]
        simp [sized.mp absent]
      · simp [(scopeText_supplied lawful absent).1,mt sized.mpr absent]

include lawful in
theorem storeScope_eq_tenantWide {context : Context} {storeIds : List Uuid} {wide : Bool}
    (pinned : context.storeScope = some (TenantSession.scopeText uuids storeIds wide)) :
    context.storeScope = some tenantWide ↔ wide = true := by
  rw [pinned,Option.some_inj]
  cases wide with
  | true => simp [TenantSession.scopeText]
  | false => simp [scopeText_ne_tenantWide lawful storeIds]

end Scopes

section Rows

variable {uuids : UuidText} {info : SessionInfo} {context : Context} {rows : List Row}

def Reaches (storeIds : List Uuid) (wide : Bool) (rows : List Row) (row : Row) : Prop :=
  match row.table.storePolicy with
  | .none => True
  | .direct false => Covers storeIds wide row.storeColumn
  | .direct true => (wide = true ∨ storeIds ≠ []) ∧
      (row.storeColumn = none ∨ Covers storeIds wide row.storeColumn)
  | .devices => wide = true ∨ ∃ assignment ∈ rows, assignment.table = .deviceAssignments ∧
      assignment.tenantId = row.tenantId ∧ assignment.deviceId = some row.id ∧
      Covers storeIds wide assignment.storeId
  | .evidence => wide = true ∨ ∃ task ∈ rows, task.table = .replenishmentTasks ∧
      task.tenantId = row.tenantId ∧ some task.id = row.taskId ∧ Covers storeIds wide task.storeId

theorem tenantPredicate_iff (lawful : uuids.Lawful) (applied : info.Applied uuids context)
    (row : Row) : tenantPredicate uuids .application context row = some true ↔
      info.tenantId = some row.tenantColumn := by
  have read : tenantContext uuids context = info.tenantId := by
    rw [tenantContext]
    cases tenant : info.tenantId with
    | none =>
        rcases applied.tenantId.1 (by rw [tenant]; rfl) with unset | unset
        · simp [unset,Sql.nullIf]
        · simp [unset,Sql.nullIf]
    | some tenantId =>
        have set := applied.tenantId.2 (uuids.str tenantId) (by rw [tenant]; rfl)
        have found : Sql.nullIf context.tenantId [] = some (uuids.str tenantId) :=
          Sql.nullIf_eq_some.mpr ⟨set,lawful.supplied tenantId⟩
        rw [found]
        exact lawful.parse_str tenantId
  simp [tenantPredicate,isOwner,read]

theorem directPredicate_false (column : Option Uuid) :
    directPredicate uuids .application context false column = some true ↔
      scopeMatch uuids context column = some true := by
  simp [directPredicate,isOwner]

/-- The rows that a sub-select of a policy sees. -/
theorem visibleDirect_iff (lawful : uuids.Lawful) (applied : info.Applied uuids context)
    {row : Row} (store : row.table ≠ .stores) (tenant : row.table ≠ .tenants) :
    visibleDirect uuids .application context row = true ↔ info.tenantId = some row.tenantId ∧
      scopeMatch uuids context row.storeId = some true := by
  rw [visibleDirect,decide_eq_true_eq,tenantPredicate_iff lawful applied,directPredicate_false]
  simp [Row.tenantColumn,Row.storeColumn,store,tenant]

theorem storePredicate_iff (lawful : uuids.Lawful) (applied : info.Applied uuids context)
    {storeIds : List Uuid} {wide : Bool}
    (pinned : context.storeScope = some (TenantSession.scopeText uuids storeIds wide)) {row : Row}
    (tenant : info.tenantId = some row.tenantId) :
    storePredicate uuids .application context rows row = some true ↔
      Reaches storeIds wide rows row := by
  have star := storeScope_eq_tenantWide lawful pinned
  have matched := scopeMatch_iff lawful pinned
  have seen : ∀ other : Row, other.table ≠ .stores → other.table ≠ .tenants →
      other.tenantId = row.tenantId → (visibleDirect uuids .application context other = true ↔
        Covers storeIds wide other.storeId) := by
    intro other store registry same
    rw [visibleDirect_iff lawful applied store registry,matched,tenant,same]
    simp
  unfold storePredicate Reaches
  cases row.table.storePolicy with
  | none => simp
  | direct allowShared =>
      cases allowShared with
      | false =>
          dsimp only
          rw [directPredicate_false,matched]
      | true =>
          have set := nullIf_scopeText lawful pinned
          simp [directPredicate,isOwner,matched,set]
  | devices =>
      simp only [devicesPredicate,isOwner,Sql.or_eq_true,Sql.eq_eq_true,Option.some_inj,
        List.any_eq_true,decide_eq_true_eq,reduceCtorEq,decide_false,false_or,matched]
      refine or_congr (by simpa [eq_comm] using star)
        (exists_congr fun assignment => and_congr_right fun _ => ?_)
      constructor
      · rintro ⟨table,-,same,device,covered⟩
        exact ⟨table,same,device,covered⟩
      · rintro ⟨table,same,device,covered⟩
        exact ⟨table,(seen assignment (by simp [table]) (by simp [table]) same).mpr covered,same,
          device,covered⟩
  | evidence =>
      simp only [evidencePredicate,isOwner,Sql.or_eq_true,Sql.eq_eq_true,Option.some_inj,
        List.any_eq_true,decide_eq_true_eq,reduceCtorEq,decide_false,false_or,matched]
      refine or_congr (by simpa [eq_comm] using star)
        (exists_congr fun task => and_congr_right fun _ => ?_)
      constructor
      · rintro ⟨table,-,same,proven,covered⟩
        exact ⟨table,same,proven,covered⟩
      · rintro ⟨table,same,proven,covered⟩
        exact ⟨table,(seen task (by simp [table]) (by simp [table]) same).mpr covered,same,proven,
          covered⟩

theorem storePredicate_of_blank (blank : Blank context.storeScope) {row : Row}
    (limited : row.table.storePolicy ≠ .none) :
    storePredicate uuids .application context rows row ≠ some true := by
  have unmatched : ∀ column, scopeMatch uuids context column ≠ some true :=
    scopeMatch_of_blank blank
  have star : context.storeScope ≠ some tenantWide := by
    rcases blank with unset | unset <;> simp [unset,tenantWide,text]
  have unset : (Sql.nullIf context.storeScope []).isSome = false := by
    rcases blank with unset | unset <;> simp [unset,Sql.nullIf]
  unfold storePredicate
  cases policy : row.table.storePolicy with
  | none => exact absurd policy limited
  | direct allowShared => cases allowShared <;> simp [directPredicate,isOwner,unmatched,unset]
  | devices => simp [devicesPredicate,isOwner,star,unmatched]
  | evidence => simp [evidencePredicate,isOwner,star,unmatched]

theorem Row.tenantColumn_of_limited {row : Row} (limited : row.table.storePolicy ≠ .none) :
    row.tenantColumn = row.tenantId := by
  rw [tenantColumn,if_neg]
  intro registry
  exact limited (by rw [registry]; rfl)

/-- Without a scope only the tables that no store has are left. -/
theorem permitted_unscoped (lawful : uuids.Lawful) (applied : info.Applied uuids context)
    (unscoped : info.storeScope = none) (row : Row) :
    permitted uuids .application context rows row = true ↔
      info.tenantId = some row.tenantColumn ∧ row.table.storePolicy = .none := by
  rw [permitted,decide_eq_true_eq,Sql.and_eq_true,tenantPredicate_iff lawful applied]
  refine and_congr_right fun _ => ?_
  constructor
  · intro allowed
    by_contra limited
    exact storePredicate_of_blank (applied.storeScope.1 unscoped) limited allowed
  · intro unlimited
    simp [storePredicate,unlimited]

theorem permitted_pinned (lawful : uuids.Lawful) (applied : info.Applied uuids context)
    {tenantId : Uuid} (tenant : info.tenantId = some tenantId) {storeIds : List Uuid} {wide : Bool}
    (scope : info.storeScope = some (TenantSession.scopeText uuids storeIds wide)) (row : Row) :
    permitted uuids .application context rows row = true ↔
      row.tenantColumn = tenantId ∧ Reaches storeIds wide rows row := by
  rw [permitted,decide_eq_true_eq,Sql.and_eq_true,tenantPredicate_iff lawful applied,tenant,
    Option.some_inj,eq_comm]
  refine and_congr_right fun same => ?_
  by_cases unlimited : row.table.storePolicy = .none
  · simp [storePredicate,Reaches,unlimited]
  · refine storePredicate_iff lawful applied (applied.storeScope.2 _ scope) ?_
    rw [tenant,← same,Row.tenantColumn_of_limited unlimited]

def Write.named : Write → List Row
  | insert row => [row]
  | update old new => [old,new]
  | delete row => [row]

theorem Write.permitted_iff {role : Role} (write : Write) :
    write.permitted uuids role context rows = true ↔
      ∀ row ∈ write.named, Isolation.permitted uuids role context rows row = true := by
  cases write <;> simp [Write.permitted,Write.named]

end Rows

section Runs

variable {uuids : UuidText} {process after : Process} {session later : TenantSession} {index : ℕ}

/-- A later transaction of a session has the pins that it had before. -/
theorem run_applied (reachable : (sessionMachine uuids).Reachable process)
    (stored : process.sessions[index]? = some session) {events : List SessionEvent}
    (reached : (sessionMachine uuids).run process events = some after)
    (found : after.sessions[index]? = some later) {base current : Context}
    (connected : later.transaction = .connected base current) :
    later.info.Applied uuids current ∧ session.Keeps later := by
  obtain ⟨kept,place,keeps⟩ := run_keeps stored reached
  cases found.symm.trans place
  have sound := ((reachable_sound reachable).run reached).sessions later
    (List.mem_of_getElem? found)
  exact ⟨(sound.applied base current connected).2,keeps⟩

/-- What a session is pinned to are the rows that it reads and writes in every later transaction,
whatever sessions had its connections before. -/
theorem pinned_session_confined (lawful : uuids.Lawful)
    (reachable : (sessionMachine uuids).Reachable process)
    (stored : process.sessions[index]? = some session) {tenantId : Uuid}
    (tenant : session.info.tenantId = some tenantId) {storeIds : List Uuid} {wide : Bool}
    (scope : session.info.storeScope = some (TenantSession.scopeText uuids storeIds wide))
    {events : List SessionEvent} (reached : (sessionMachine uuids).run process events = some after)
    (found : after.sessions[index]? = some later) {base current : Context}
    (connected : later.transaction = .connected base current) (rows : List Row) :
    (∀ row, permitted uuids .application current rows row = true ↔
      row.tenantColumn = tenantId ∧ Reaches storeIds wide rows row) ∧
    ∀ write : Write, write.permitted uuids .application current rows = true ↔
      ∀ row ∈ write.named, row.tenantColumn = tenantId ∧ Reaches storeIds wide rows row := by
  obtain ⟨applied,keeps⟩ := run_applied reachable stored reached found connected
  have reads : ∀ row, permitted uuids .application current rows row = true ↔
      row.tenantColumn = tenantId ∧ Reaches storeIds wide rows row :=
    permitted_pinned lawful applied (keeps.tenantId tenantId tenant) (keeps.storeScope _ scope)
  exact ⟨reads,fun write => by simp only [Write.permitted_iff,reads]⟩

namespace Sample

open Catalog.Sample (hexDigit hexDigits hexNumber_hexDigits identifiers lastGroup lastGroup_fits
  leadingGroups)

def uuidText : UuidText := ⟨identifiers.str,identifiers.parse⟩

theorem comma_notMem_hexDigits (width number : ℕ) : 44 ∉ hexDigits width number := by
  induction width generalizing number with
  | zero => simp [hexDigits]
  | succ width ih =>
      have digit : 44 ≠ hexDigit (number % 16) := by
        unfold hexDigit
        split <;> omega
      simp [hexDigits,ih,digit]

theorem leadingGroups_length : leadingGroups.length = 24 := by decide

theorem uuidText_lawful : uuidText.Lawful where
  parse_str := identifiers.parse_str
  supplied id missing := by
    have long := congrArg List.length missing
    simp [uuidText,identifiers,leadingGroups_length] at long
  single id := by
    have leading : 44 ∉ leadingGroups := by decide
    simp [uuidText,identifiers,leading,comma_notMem_hexDigits]
  narrow id star := by
    have long := congrArg List.length star
    have short : tenantWide.length = 1 := by decide
    rw [short] at long
    simp [uuidText,identifiers,leadingGroups_length] at long
    omega

/-- A session for all stores of a tenant gives its connection back. -/
def firstRequest : List SessionEvent :=
  [.openSession,.pinSessionToTenant 0 1,.pinSessionToStoreScope 0 [] true none,.begin 0,
    .connect 0 none,.finish 0 true]

/-- A session for one store of another tenant takes the connection. -/
def secondRequest : List SessionEvent :=
  [.openSession,.pinSessionToTenant 1 2,.begin 1,.pinSessionToStoreScope 1 [5] false (some 0)]

def furtherTransaction : List SessionEvent := [.finish 1 true,.connect 1 (some 0)]

def served (events : List SessionEvent) : Process :=
  ((sessionMachine uuidText).run {} events).getD {}

theorem served_reached (events : List SessionEvent) :
    (sessionMachine uuidText).run {} events = some (served events) :=
  Machine.run_getD (Machine.run_total (fun _ _ => rfl) _ _)

theorem served_reachable (events : List SessionEvent) :
    (sessionMachine uuidText).Reachable (served events) :=
  ⟨{},events,rfl,served_reached events⟩

def storeInfo : SessionInfo := ⟨some 2,some (uuidText.str 5)⟩

def storeContext : Context := ⟨some (uuidText.str 2),some (uuidText.str 5)⟩

def storeSession : TenantSession := ⟨storeInfo,.connected ⟨some [],some []⟩ storeContext⟩

theorem secondRequest_stored :
    (served (firstRequest ++ secondRequest)).sessions[1]? = some storeSession ∧
      (served (firstRequest ++ secondRequest ++ furtherTransaction)).sessions[1]? =
        some storeSession := by
  decide +kernel

def storeRow : Row := { table := .stores, id := 5, tenantId := 2 }

def siblingRow : Row := { table := .stores, id := 6, tenantId := 2 }

def foreignRow : Row := { table := .stores, id := 5, tenantId := 1 }

end Sample

theorem pinned_session_confined_sample :
    permitted Sample.uuidText .application Sample.storeContext [] Sample.storeRow = true ∧
    permitted Sample.uuidText .application Sample.storeContext [] Sample.siblingRow = false ∧
    permitted Sample.uuidText .application Sample.storeContext [] Sample.foreignRow = false := by
  have reads := (pinned_session_confined Sample.uuidText_lawful
    (Sample.served_reachable (Sample.firstRequest ++ Sample.secondRequest))
    Sample.secondRequest_stored.1 rfl (show _ = some (TenantSession.scopeText Sample.uuidText [5] false)
      by decide +kernel)
    (Machine.run_of_append (Sample.served_reached _)
      (Sample.served_reached (Sample.firstRequest ++ Sample.secondRequest ++
        Sample.furtherTransaction)))
    Sample.secondRequest_stored.2 rfl []).1
  have own : Reaches [5] false [] Sample.storeRow := .inr ⟨5,by simp,rfl⟩
  refine ⟨(reads _).mpr ⟨rfl,own⟩,Bool.eq_false_iff.mpr fun seen => ?_,
    Bool.eq_false_iff.mpr fun seen => ?_⟩
  · rcases ((reads _).mp seen).2 with wide | ⟨storeId,member,same⟩
    · cases wide
    · rw [List.mem_singleton.mp member] at same
      cases same
  · cases ((reads _).mp seen).1

/-- A session that nothing pinned to a tenant works on no row, and one that nothing pinned to stores
on none of a table that has a store. -/
theorem unpinned_session_blind (lawful : uuids.Lawful)
    (reachable : (sessionMachine uuids).Reachable process)
    (stored : process.sessions[index]? = some session) {base current : Context}
    (connected : session.transaction = .connected base current)
    (unscoped : session.info.storeScope = none) (rows : List Row) (row : Row) :
    (permitted uuids .application current rows row = true ↔
      session.info.tenantId = some row.tenantColumn ∧ row.table.storePolicy = .none) ∧
    ∀ write : Write, row ∈ write.named →
      (session.info.tenantId = some row.tenantColumn → row.table.storePolicy ≠ .none) →
      write.permitted uuids .application current rows = false := by
  have applied := ((reachable_sound reachable).sessions session
    (List.mem_of_getElem? stored)).applied base current connected
  have reads : permitted uuids .application current rows row = true ↔
      session.info.tenantId = some row.tenantColumn ∧ row.table.storePolicy = .none :=
    permitted_unscoped lawful applied.2 unscoped row
  refine ⟨reads,fun write named barred => ?_⟩
  rw [Bool.eq_false_iff,Ne,Write.permitted_iff]
  intro allowed
  obtain ⟨tenant,unlimited⟩ := reads.mp (allowed row named)
  exact barred tenant unlimited

namespace Sample

/-- A session takes the connection of the first before anything has pinned it. -/
def earlyStatement : List SessionEvent := [.openSession,.begin 1,.connect 1 (some 0)]

theorem earlyStatement_stored : (served (firstRequest ++ earlyStatement)).sessions[1]? =
    some ⟨{},.connected ⟨some [],some []⟩ ⟨some [],some []⟩⟩ := by
  decide +kernel

end Sample

theorem unpinned_session_blind_sample :
    permitted Sample.uuidText .application ⟨some [],some []⟩ [] Sample.foreignRow = false ∧
    (Write.insert Sample.foreignRow).permitted Sample.uuidText .application ⟨some [],some []⟩ [] =
      false := by
  obtain ⟨reads,writes⟩ := unpinned_session_blind Sample.uuidText_lawful
    (Sample.served_reachable (Sample.firstRequest ++ Sample.earlyStatement))
    Sample.earlyStatement_stored rfl rfl [] Sample.foreignRow
  refine ⟨Bool.eq_false_iff.mpr fun seen => ?_,
    writes _ (List.mem_singleton.mpr rfl) fun tenant => by cases tenant⟩
  cases (reads.mp seen).1

end Runs

end Abacus.Isolation
