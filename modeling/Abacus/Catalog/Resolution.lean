import Abacus.Catalog.Agreement
import Abacus.Library.EffectiveDated

/-! Resolution of an EPC against the history of promotions.
The bindings are spans of time: a promotion ends those that it changes or omits and begins the
new ones at its own time, so that the earlier instants resolve as before it.
-/
set_option autoImplicit false

namespace Abacus.Catalog

open Relational (Table OrderedDict Identified Upsert)
open Python (Text text Json JsonObject)
open Temporal (Span stateAt)

/-- The SKU that every EPC belongs to. -/
abbrev EpcMapping := Text → Option Text

/-- A FULL import replaces the mapping, and a DELTA import overrides it. -/
def promoteMapping (mode : CatalogImportMode) (rows : List CatalogRowData) (mapping : EpcMapping) :
    EpcMapping := fun epc =>
  match rows.find? fun row => row.epc = epc with
  | some row => some row.sku
  | none => if mode = .full then none else mapping epc

/-- The mapping after the promotions that are effective at an instant. -/
def mappingAt (promotions : List PromotionCall) (instant : Time) : EpcMapping :=
  stateAt (promotions.map fun call =>
    (call.now,promoteMapping call.catalogImport.mode call.rows)) (fun _ => none) instant

def completes (runtime : Runtime) (tables : Tables) (call : PromotionCall) : Bool :=
  call.catalogImport.status = .ready &&
    (promoteCatalogImport runtime tables call.catalogImport call.rows call.now).toOption.any
      fun result => result.1.status = .completed

def promotions (runtime : Runtime) : Tables → List PromotionCall → List PromotionCall
  | _, [] => []
  | tables, call :: calls =>
      let others := promotions runtime (afterPromotion runtime tables call) calls
      if completes runtime tables call then call :: others else others

def resolvedSku (runtime : Runtime) (tables : Tables) (epc : Text) (observedAt : Time) :
    Option Text :=
  (resolveActiveEpc runtime tables epc observedAt).bind fun binding =>
    (tables.skuById binding.skuId).map Sku.code

section Spans

def EpcBinding.span (binding : EpcBinding) : Span Time := ⟨binding.effectiveFrom,binding.effectiveTo⟩

theorem inForce_iff_mem {binding : EpcBinding} {instant : Time} :
    inForce binding.effectiveFrom binding.effectiveTo instant = true ↔
      instant ∈ binding.span.instants := inForce_iff

theorem EpcBinding.Apart.disjoint {binding other : EpcBinding} (apart : binding.Apart other)
    (same : binding.epc = other.epc) : Disjoint binding.span.instants other.span.instants := by
  apply Span.disjoint_of_apart
  intro shared
  rw [apart_iff,overlaps_iff] at apart
  exact apart ⟨same,shared⟩

def Tables.Bound (tables : Tables) (epc : Text) (instant : Time) (code : Text) : Prop :=
  ∃ binding ∈ tables.bindings, binding.epc = epc ∧ instant ∈ binding.span.instants ∧
    (tables.skuById binding.skuId).map Sku.code = some code

variable {tables : Tables}

/-- At most one binding of an EPC holds at an instant, and resolution finds it. -/
theorem resolvedSku_eq_some (wellFormed : tables.WellFormed) {runtime : Runtime} {epc : Text}
    {observedAt : Time} {code : Text} :
    resolvedSku runtime tables epc observedAt = some code ↔
      ∃ normalized, normalizeEpc runtime epc = .ok normalized ∧
        tables.Bound normalized.1 observedAt code := by
  unfold resolvedSku resolveActiveEpc
  cases normalization : normalizeEpc runtime epc with
  | error message => simp
  | ok normalized =>
      have exclusive : tables.bindings.Pairwise fun left right =>
          ¬((left.epc = normalized.1 &&
              inForce left.effectiveFrom left.effectiveTo observedAt) = true ∧
            (right.epc = normalized.1 &&
              inForce right.effectiveFrom right.effectiveTo observedAt) = true) := by
        apply wellFormed.disjoint.imp
        intro left right apart
        simp only [Bool.and_eq_true,decide_eq_true_eq,inForce_iff_mem]
        rintro ⟨⟨leftEpc,first⟩,rightEpc,second⟩
        exact Set.disjoint_left.mp (apart.disjoint (leftEpc.trans rightEpc.symm)) first second
      dsimp only
      rcases Temporal.filter_of_exclusive exclusive with none | ⟨binding,stored,selected,only⟩
      · have empty : (tables.bindings.filter fun binding => binding.epc = normalized.1 &&
            inForce binding.effectiveFrom binding.effectiveTo observedAt) = [] := by
          rw [List.filter_eq_nil_iff]
          intro binding stored
          simp [none binding stored]
        rw [empty]
        constructor
        · intro found
          cases found
        · rintro ⟨_,equal,binding,stored,keyed,holds,-⟩
          cases equal
          have chosen := none binding stored
          simp [keyed,inForce_iff_mem.mpr holds] at chosen
      · rw [only]
        simp only [Bool.and_eq_true,decide_eq_true_eq,inForce_iff_mem] at selected
        constructor
        · intro found
          exact ⟨normalized,rfl,binding,stored,selected.1,selected.2,found⟩
        · rintro ⟨_,equal,other,place,keyed,holds,owner⟩
          cases equal
          have chosen : other ∈ tables.bindings.filter fun binding =>
              binding.epc = normalized.1 &&
                inForce binding.effectiveFrom binding.effectiveTo observedAt := by
            rw [List.mem_filter]
            exact ⟨place,by simp [keyed,inForce_iff_mem.mpr holds]⟩
          rw [only,List.mem_singleton] at chosen
          subst chosen
          exact owner

def Tables.OpenTo (tables : Tables) (epc : Text) (code : Text) : Prop :=
  ∃ binding ∈ tables.bindings, binding.isOpen = true ∧ binding.epc = epc ∧
    (tables.skuById binding.skuId).map Sku.code = some code

/-- Once all bindings are settled the open ones decide. -/
theorem bound_iff_openTo {effectiveAt instant : Time} {epc code : Text}
    (settled : ∀ binding ∈ tables.bindings, binding.span.Settled effectiveAt)
    (le : effectiveAt ≤ instant) : tables.Bound epc instant code ↔ tables.OpenTo epc code := by
  have holds : ∀ binding ∈ tables.bindings,
      (instant ∈ binding.span.instants ↔ binding.isOpen = true) := by
    intro binding stored
    rw [Span.mem_instants_of_settled (settled binding stored) le,EpcBinding.isOpen,
      Option.isNone_iff_eq_none]
    rfl
  constructor
  · rintro ⟨binding,stored,keyed,inside,owner⟩
    exact ⟨binding,stored,(holds binding stored).mp inside,keyed,owner⟩
  · rintro ⟨binding,stored,isOpen,keyed,owner⟩
    exact ⟨binding,stored,keyed,(holds binding stored).mpr isOpen,owner⟩

theorem Tables.Before.settled {effectiveAt : Time} (before : tables.Before effectiveAt) :
    ∀ binding ∈ tables.bindings, binding.span.Settled effectiveAt := by
  intro binding stored
  obtain ⟨began,ended⟩ := before binding stored
  exact ⟨began.le,ended⟩

end Spans

section Step

variable {tables : Tables} {rows : List CatalogRowData} (pass : Pass tables rows)
  {promotion : Promotion}

/-- Closing a binding leaves it the instants before. -/
theorem Pass.mem_finish (binding : EpcBinding) {instant : Time}
    (early : instant < promotion.effectiveAt) :
    instant ∈ (pass.finish promotion binding).span.instants ↔ instant ∈ binding.span.instants := by
  rw [Pass.finish]
  split
  · rename_i finishes
    have isOpen : binding.span.ends = none :=
      effectiveTo_of_open (pass.isOpen_of_finishes promotion finishes)
    have closed : (binding.close promotion.effectiveAt).span =
        binding.span.close promotion.effectiveAt := rfl
    rw [closed,Span.mem_close isOpen]
    simp [early]
  · rfl

theorem Pass.after_settled (before : tables.Before promotion.effectiveAt) :
    ∀ binding ∈ (pass.after promotion).bindings, binding.span.Settled promotion.effectiveAt := by
  intro binding listed
  rw [Pass.after_bindings] at listed
  rcases List.mem_append.mp listed with old | new
  · obtain ⟨stored,place,rfl⟩ := List.mem_map.mp old
    constructor
    · have began : stored.effectiveFrom ≤ promotion.effectiveAt := (before stored place).1.le
      rw [← pass.finish_from promotion stored] at began
      exact began
    · exact fun finish ended => pass.finish_ended promotion before place ended
  · have began := pass.opened_from promotion binding new
    have unended := effectiveTo_of_open (pass.opened_isOpen promotion binding new)
    simp [Span.Settled,EpcBinding.span,began,unended]

variable {runtime : Runtime} {after : Tables} {outcome : Outcome}
  (promoted : Promoted runtime promotion tables rows outcome after)

include promoted

/-- A SKU keeps its code under its id. -/
theorem Promoted.code_kept (wellFormed : tables.WellFormed) {skuId : Uuid}
    (stored : ∃ sku ∈ tables.skus.rows, sku.id = skuId) :
    (after.skuById skuId).map Sku.code = (tables.skuById skuId).map Sku.code := by
  obtain ⟨sku,place,rfl⟩ := stored
  obtain ⟨middle,found,sameId⟩ := promoted.pass.sku_after promotion (Table.find?_of_mem place)
  obtain ⟨kept,located,alike⟩ := promoted.synced.sku_after found
  have ids : kept.id = sku.id := (Sku.alike_of_unlinked alike).id.trans sameId
  have last := (promoted.synced.wellFormed promoted.wellFormed).skuIds.find?_id
    (Table.mem_of_find? located)
  rw [ids] at last
  have first := wellFormed.skuIds.find?_id place
  rw [Tables.skuById,Tables.skuById,last,first,Option.map_some,Option.map_some,
    Table.key_of_find? located]

/-- A promotion leaves the instants before it as they were. -/
theorem Promoted.bound_before (wellFormed : tables.WellFormed) {epc code : Text} {instant : Time}
    (early : instant < promotion.effectiveAt) :
    after.Bound epc instant code ↔ tables.Bound epc instant code := by
  unfold Tables.Bound
  rw [promoted.synced.bindings,Pass.after_bindings]
  constructor
  · rintro ⟨binding,listed,keyed,inside,owner⟩
    rcases List.mem_append.mp listed with old | new
    · obtain ⟨stored,place,rfl⟩ := List.mem_map.mp old
      rw [Pass.finish_epc] at keyed
      rw [Pass.mem_finish promoted.pass stored early] at inside
      have sameSku : (promoted.pass.finish promotion stored).skuId = stored.skuId := by
        unfold Pass.finish
        split <;> rfl
      rw [sameSku,promoted.code_kept wellFormed (wellFormed.bindingSku stored place)] at owner
      exact ⟨stored,place,keyed,inside,owner⟩
    · have late := inside.1
      rw [EpcBinding.span,promoted.pass.opened_from promotion binding new] at late
      exact absurd early late.not_gt
  · rintro ⟨stored,place,keyed,inside,owner⟩
    refine ⟨promoted.pass.finish promotion stored,
      List.mem_append_left _ (List.mem_map_of_mem place),?_,?_,?_⟩
    · rw [Pass.finish_epc,keyed]
    · rw [Pass.mem_finish promoted.pass stored early]
      exact inside
    · have sameSku : (promoted.pass.finish promotion stored).skuId = stored.skuId := by
        unfold Pass.finish
        split <;> rfl
      rw [sameSku,promoted.code_kept wellFormed (wellFormed.bindingSku stored place)]
      exact owner

/-- From a promotion on the EPCs of its file are bound as the file has it, and the others are not
bound in a FULL import and as before in a DELTA import. -/
theorem Promoted.bound_from (wellFormed : tables.WellFormed) (keyed : Keyed rows)
    (before : tables.Before promotion.effectiveAt) {mapping : EpcMapping} {instant : Time}
    (le : promotion.effectiveAt ≤ instant) {epc : Text}
    (bound : ∀ code, tables.Bound epc instant code ↔ mapping epc = some code) (code : Text) :
    after.Bound epc instant code ↔ promoteMapping promotion.mode rows mapping epc = some code := by
  have settled : ∀ binding ∈ after.bindings, binding.span.Settled promotion.effectiveAt := by
    rw [promoted.synced.bindings]
    exact promoted.pass.after_settled before
  rw [bound_iff_openTo settled le,promoteMapping]
  cases found : rows.find? fun row => row.epc = epc with
  | some row =>
      have member := List.mem_of_find?_eq_some found
      have named : row.epc = epc := by simpa using List.find?_some found
      obtain ⟨sku,binding,stored,current,owner⟩ :=
        promoted.binding wellFormed keyed member
      have kept := promoted.synced.wellFormed promoted.wellFormed
      have skuCode : (after.skuById binding.skuId).map Sku.code = some row.sku := by
        have located := kept.skuIds.find?_id (Table.mem_of_find? stored)
        rw [owner,Tables.skuById,located,Option.map_some,Table.key_of_find? stored]
      rw [named] at current
      dsimp only
      constructor
      · rintro ⟨other,listed,isOpen,keyed,same⟩
        have only := (openBinding_eq_some kept.oneOpen).mpr ⟨listed,isOpen,keyed⟩
        rw [current] at only
        cases only
        exact skuCode.symm.trans same
      · intro same
        obtain ⟨listed,isOpen,keyed⟩ := (openBinding_eq_some kept.oneOpen).mp current
        exact ⟨binding,listed,isOpen,keyed,skuCode.trans same⟩
  | none =>
      have unnamed : ∀ row ∈ rows, row.epc ≠ epc := by
        intro row member
        simpa using List.find?_eq_none.mp found row member
      have stays := promoted.pass.open_unnamed promotion unnamed
      rw [← promoted.synced.bindings] at stays
      dsimp only
      by_cases full : promotion.mode = .full
      · rw [if_pos full]
        constructor
        · rintro ⟨binding,listed,isOpen,keyed,-⟩
          exact absurd full ((stays binding).mp ⟨listed,isOpen,keyed⟩).1
        · intro none
          cases none
      · rw [if_neg full,← bound,bound_iff_openTo before.settled le]
        constructor
        · rintro ⟨binding,listed,isOpen,keyed,owner⟩
          obtain ⟨-,stored,-⟩ := (stays binding).mp ⟨listed,isOpen,keyed⟩
          rw [promoted.code_kept wellFormed (wellFormed.bindingSku binding stored)] at owner
          exact ⟨binding,stored,isOpen,keyed,owner⟩
        · rintro ⟨binding,stored,isOpen,keyed,owner⟩
          obtain ⟨listed,-⟩ := (stays binding).mpr ⟨full,stored,isOpen,keyed⟩
          rw [← promoted.code_kept wellFormed (wellFormed.bindingSku binding stored)] at owner
          exact ⟨binding,listed,isOpen,keyed,owner⟩

end Step

section Run

variable {runtime : Runtime} {tables : Tables} {history : List PromotionCall} {call : PromotionCall}

/-- The bindings say at every instant what the history does. -/
structure Tables.Follows (tables : Tables) (history : List PromotionCall) : Prop where
  wellFormed : tables.WellFormed
  before : ∀ now, (∀ call ∈ history, call.now < now) → tables.Before now
  bound : ∀ epc instant code,
    tables.Bound epc instant code ↔ mappingAt history instant epc = some code

theorem Tables.Follows.empty : ({} : Tables).Follows [] where
  wellFormed := Tables.WellFormed.empty
  before := by simp [Tables.Before]
  bound := by simp [Tables.Bound,mappingAt]

/-- A promotion later than the history becomes the last of it. -/
theorem Tables.Follows.promoted (follows : tables.Follows history) (keyed : Keyed call.rows)
    (later : ∀ earlier ∈ history, earlier.now < call.now) {outcome : Outcome} {after : Tables}
    (promoted : promoteRows runtime tables call.promotion call.rows = .ok (outcome,after)) :
    after.Follows (history ++ [call]) := by
  obtain ⟨through⟩ := promoted_of_ok follows.wellFormed keyed promoted
  have before : tables.Before call.promotion.effectiveAt := follows.before call.now later
  constructor
  · exact through.synced.wellFormed through.wellFormed
  · intro now passed binding listed
    have early : call.now < now := passed call (by simp)
    rw [through.synced.bindings] at listed
    obtain ⟨began,ended⟩ := through.pass.after_settled before binding listed
    exact ⟨began.trans_lt early,fun finish closed => (ended finish closed).trans early.le⟩
  · intro epc instant code
    rw [mappingAt,List.map_append,List.map_singleton]
    by_cases taken : call.now ≤ instant
    · rw [Temporal.stateAt_from taken]
      exact through.bound_from follows.wellFormed keyed before taken
        (follows.bound epc instant) code
    · have early : instant < call.now := not_le.mp taken
      rw [Temporal.stateAt_before early,through.bound_before follows.wellFormed early]
      exact follows.bound epc instant code

/-- A call promotes its import, or leaves the catalog as it was. -/
theorem completes_cases (runtime : Runtime) (tables : Tables) (call : PromotionCall) :
    (completes runtime tables call = true ∧ ∃ outcome,
      promoteRows runtime tables call.promotion call.rows =
        .ok (outcome,afterPromotion runtime tables call)) ∨
    (completes runtime tables call = false ∧ afterPromotion runtime tables call = tables) := by
  rw [completes,afterPromotion]
  rcases promoteCatalogImport_cases runtime tables call with
    ⟨ready,outcome,after,promoted,done⟩ | ⟨catalogImport,done,unfinished⟩ | ⟨failure,raised⟩
  · rw [done]
    exact .inl ⟨by simp [ready,Except.toOption,CatalogImport.complete],outcome,promoted⟩
  · rw [done]
    refine .inr ⟨?_,rfl⟩
    by_cases ready : call.catalogImport.status = .ready
    · simp [Except.toOption,unfinished ready]
    · simp [ready]
  · rw [raised]
    exact .inr ⟨by simp [Except.toOption],rfl⟩

/-- The calls that promote their imports lead to the same catalog alone. -/
theorem run_promotions {calls : List PromotionCall} {after : Tables}
    (ran : (catalogMachine runtime).run tables calls = some after) :
    (catalogMachine runtime).run tables (promotions runtime tables calls) = some after := by
  induction calls generalizing tables with
  | nil => exact ran
  | cons call calls ih =>
      rw [Transition.Machine.run_cons] at ran
      have later := ih ran
      rcases completes_cases runtime tables call with ⟨done,-⟩ | ⟨idle,same⟩
      · rw [promotions,if_pos done,Transition.Machine.run_cons]
        exact later
      · rw [promotions,if_neg (by simp [idle]),same]
        rw [same] at later
        exact later

/-- A run keeps following its history when the promotions follow each other in time. -/
theorem Tables.Follows.run {calls : List PromotionCall} {after : Tables}
    (follows : tables.Follows history) (keyed : ∀ call ∈ calls, Keyed call.rows)
    (increasing : ((history ++ promotions runtime tables calls).map PromotionCall.now).Pairwise
      (· < ·))
    (ran : (catalogMachine runtime).run tables calls = some after) :
    after.Follows (history ++ promotions runtime tables calls) := by
  induction calls generalizing tables history with
  | nil =>
      cases ran
      simpa [promotions] using follows
  | cons call calls ih =>
      rw [Transition.Machine.run_cons] at ran
      obtain ⟨first,others⟩ := List.forall_mem_cons.mp keyed
      rcases completes_cases runtime tables call with ⟨done,outcome,promoted⟩ | ⟨idle,same⟩
      · rw [promotions,if_pos done,List.append_cons] at increasing ⊢
        have later : ∀ earlier ∈ history, earlier.now < call.now := by
          intro earlier member
          rw [List.map_append,List.map_append,List.pairwise_append] at increasing
          have apart := (List.pairwise_append.mp increasing.1).2.2
          exact apart earlier.now (List.mem_map_of_mem member) call.now (by simp)
        exact ih (follows.promoted first later promoted) others increasing ran
      · have idle' : completes runtime tables call ≠ true := by simp [idle]
        rw [promotions,if_neg idle',same] at increasing ⊢
        have stays : (catalogMachine runtime).next tables call = some tables := congrArg some same
        rw [stays] at ran
        exact ih follows others increasing ran

end Run

/-- Resolution at an instant finds the SKU that the promotions up to that instant map the EPC to. -/
theorem resolution_refines_history (runtime : Runtime) (calls : List PromotionCall) (tables : Tables)
    (keyed : ∀ call ∈ calls, Keyed call.rows)
    (increasing : ((promotions runtime {} calls).map PromotionCall.now).Pairwise (· < ·))
    (ran : (catalogMachine runtime).run {} calls = some tables) :
    (∀ epc observedAt, resolvedSku runtime tables epc observedAt =
      (normalizeEpc runtime epc).toOption.bind fun normalized =>
        mappingAt (promotions runtime {} calls) observedAt normalized.1) ∧
    (tables.bindings.Pairwise fun binding other => binding.epc = other.epc →
      Disjoint binding.span.instants other.span.instants) ∧
    ((tables.bindings.filter EpcBinding.isOpen).map EpcBinding.epc).Nodup := by
  have follows : tables.Follows (promotions runtime {} calls) :=
    Tables.Follows.empty.run keyed increasing ran
  refine ⟨?_,?_,follows.wellFormed.oneOpen⟩
  · intro epc observedAt
    ext code
    rw [resolvedSku_eq_some follows.wellFormed]
    cases normalization : normalizeEpc runtime epc with
    | error message => simp [Except.toOption]
    | ok normalized => simp [Except.toOption,follows.bound]
  · exact follows.wellFormed.disjoint.imp fun apart same => apart.disjoint same

theorem resolution_refines_history_sample :
    (resolvedSku Sample.runtime (afterPromotion Sample.runtime
      (afterPromotion Sample.runtime {} Sample.stockCall) Sample.deltaCall)
        (text "0011223344556677") 5).isSome = true ∧
    ∀ observedAt, resolvedSku Sample.runtime (afterPromotion Sample.runtime
      (afterPromotion Sample.runtime {} Sample.stockCall) Sample.deltaCall)
        (text "0011223344556677") observedAt =
      (normalizeEpc Sample.runtime (text "0011223344556677")).toOption.bind fun normalized =>
        mappingAt (promotions Sample.runtime {} [Sample.stockCall,Sample.deltaCall]) observedAt
          normalized.1 := by
  have stock : Keyed Sample.stockCall.rows :=
    (Sample.shirt_consistent (Sample.organic Sample.one)).keyed
  have delta : Keyed Sample.deltaCall.rows := (Sample.shirt_consistent []).keyed
  have increasing : ((promotions Sample.runtime {} [Sample.stockCall,Sample.deltaCall]).map
      PromotionCall.now).Pairwise (· < ·) := by decide +kernel
  have refined := resolution_refines_history Sample.runtime [Sample.stockCall,Sample.deltaCall] _
    (by simp [stock,delta]) increasing rfl
  exact ⟨by decide +kernel,refined.1 _⟩

end Abacus.Catalog
