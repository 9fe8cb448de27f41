import Abacus.Catalog.Documents

/-! The preview of an import against the outcome of its promotion.
The preview classifies the parsed rows over the stored catalog, and the promotion classifies their
dumps while it writes. Over the same rows both find the same entities, since no entity of a file has
two entries. A dump that differs from its document can make a change disappear.
-/
set_option autoImplicit false

namespace Abacus.Catalog

open Relational (Table OrderedDict)
open Python (Text text Json JsonObject)

namespace Pass

variable {tables : Tables} {rows : List CatalogRowData} (pass : Pass tables rows)
  (promotion : Promotion)

section Changes

theorem styleChanges : (stylePass tables rows).2.2.map styleChange =
    (entityData rows).styles.rows.map fun entry => previewStyle tables entry.1 entry.2 := by
  rw [stylePass,styleUpsert.found_all _ _ styles_distinct,List.map_map]
  apply List.map_congr_left
  intro entry _
  rw [Function.comp_apply,styleChange,previewStyle]

/-- An entry of the SKU loop is changed when the preview says so: its SKU is in the style of the
file, and the style keeps its id. -/
theorem skuChange_eq (wellFormed : tables.WellFormed) (free : ConflictFree tables rows) {code : Text}
    {data : CatalogRowData} {style : ProductStyle} (attached : (code,data,style) ∈ pass.skuEntries) :
    skuChange ((data,style),tables.skus.find? code) = previewSku tables code data := by
  obtain ⟨entered,target⟩ := Relational.of_mem_attachAll pass.skusAttached attached
  obtain ⟨member,same⟩ := of_mem_skus entered
  subst same
  rw [skuChange,previewSku]
  cases found : tables.skus.find? data.sku with
  | none => rfl
  | some sku =>
      obtain ⟨stored,located,own⟩ := style_of_free wellFormed (free data member) found
      obtain ⟨kept,after,sameId⟩ := style_kept located
      have equal : kept = style := Option.some.inj (after.symm.trans target)
      rw [located]
      dsimp only
      rw [skuChanged,skuChanged,← equal,sameId]

theorem skuChanges (wellFormed : tables.WellFormed) (free : ConflictFree tables rows) :
    (skuPass tables rows pass.skuEntries).2.2.map skuChange =
      (entityData rows).skus.rows.map fun entry => previewSku tables entry.1 entry.2 := by
  rw [skuPass,skuUpsert.found_all _ _ pass.skus_distinct,List.map_map,
    ← (Relational.attachAll_eq_some pass.skusAttached).1,List.map_map]
  apply List.map_congr_left
  intro entry attached
  exact pass.skuChange_eq wellFormed free attached

/-- The open binding of an EPC is to the SKU of its row when the codes of the SKUs agree. -/
theorem boundSku_iff (wellFormed : tables.WellFormed) {binding : EpcBinding}
    (stored : binding ∈ tables.bindings) {data : CatalogRowData} {sku : Sku}
    (found : skuOf tables rows pass.skuEntries data = some sku) :
    ∃ boundSku, tables.skuById binding.skuId = some boundSku ∧
      (boundSku.code = data.sku ↔ binding.skuId = sku.id) := by
  obtain ⟨boundSku,place,own⟩ := wellFormed.bindingSku binding stored
  have byId : tables.skuById binding.skuId = some boundSku := by
    rw [← own]
    exact wellFormed.skuIds.find?_id place
  obtain ⟨kept,after,sameId⟩ := pass.sku_kept (Table.find?_of_mem place)
  rw [skuOf] at found
  refine ⟨boundSku,byId,?_,?_⟩
  · intro same
    rw [same,found] at after
    rw [← own,← sameId,Option.some.inj after]
  · intro same
    have identified := (wellFormed.skuIds.mono
      (styleUpsert.next_all tables.styles tables.nextId (entityData rows).styles.rows)).all
        skuUpsert pass.skuEntries
    have equal : kept = sku := identified.distinct kept (Table.mem_of_find? after) sku
      (Table.mem_of_find? found) (by rw [sameId,own,same])
    rw [← Table.key_of_find? found,← equal,Table.key_of_find? after]

theorem epcChange_eq (wellFormed : tables.WellFormed) {epc : Text} {data : CatalogRowData}
    {sku : Sku} (attached : (epc,data,sku) ∈ pass.epcEntries) :
    epcChange tables.openBinding (epc,data,sku) = previewEpc tables epc data := by
  have target := (Relational.of_mem_attachAll pass.epcsAttached attached).2
  rw [epcChange,previewEpc,rebinds]
  cases current : tables.openBinding epc with
  | none => rfl
  | some binding =>
      obtain ⟨boundSku,byId,agree⟩ :=
        pass.boundSku_iff wellFormed (List.mem_of_find?_eq_some current) target
      simp [byId,agree]

theorem epcChanges (wellFormed : tables.WellFormed) :
    pass.epcEntries.map (epcChange tables.openBinding) =
      (entityData rows).epcs.rows.map fun entry => previewEpc tables entry.1 entry.2 := by
  rw [← (Relational.attachAll_eq_some pass.epcsAttached).1,List.map_map]
  apply List.map_congr_left
  intro entry attached
  exact pass.epcChange_eq wellFormed attached

end Changes

section Omissions

theorem omittedStyles : ((pass.written promotion).styles.rows.countP fun style =>
      !(entityData rows).styles.contains style.code && style.active) =
    tables.styles.rows.countP fun style =>
      style.active && !(entityData rows).styles.contains style.code := by
  rw [List.countP_eq_length_filter,written,stylePass,styleUpsert.filter_all,
    ← List.countP_eq_length_filter]
  · exact List.countP_congr fun style _ => by rw [Bool.and_comm]
  · intro style listed
    simp [contains_styles.mpr (styles_keys_iff.mp listed)]

theorem omittedSkus : ((pass.written promotion).skus.rows.countP fun sku =>
      !(entityData rows).skus.contains sku.code && sku.active) =
    tables.skus.rows.countP fun sku =>
      sku.active && !(entityData rows).skus.contains sku.code := by
  rw [List.countP_eq_length_filter,written,skuPass,skuUpsert.filter_all,
    ← List.countP_eq_length_filter]
  · exact List.countP_congr fun sku _ => by rw [Bool.and_comm]
  · intro sku listed
    rw [Relational.attachAll_keys pass.skusAttached] at listed
    simp [contains_skus.mpr (skus_keys_iff.mp listed)]

/-- The loop leaves the bindings of the other EPCs alone. -/
theorem omittedBindings : ((pass.written promotion).bindings.countP fun binding =>
      !(entityData rows).epcs.contains binding.epc && binding.isOpen) =
    tables.bindings.countP fun binding =>
      binding.isOpen && !(entityData rows).epcs.contains binding.epc := by
  have new : (opened promotion tables.openBinding pass.epcEntries).countP (fun binding =>
      !(entityData rows).epcs.contains binding.epc && binding.isOpen) = 0 := by
    rw [List.countP_eq_zero]
    intro binding member
    simp [pass.opened_named promotion member]
  rw [written,List.countP_append,new,List.countP_map,Nat.add_zero]
  apply List.countP_congr
  intro binding _
  rw [Function.comp_apply]
  by_cases listed : binding.epc ∈ pass.epcEntries.map Prod.fst
  · have named := listed
    rw [Relational.attachAll_keys pass.epcsAttached,epcs_keys_iff,← contains_epcs] at named
    have sameEpc : (rebound promotion tables.openBinding pass.epcEntries binding).epc =
        binding.epc := by
      unfold rebound
      split <;> rfl
    simp [sameEpc,named]
  · rw [rebound_of_absent promotion _ listed,Bool.and_comm]

end Omissions

/-- The counters of the preview are those of the loops. -/
theorem buildPreview_eq (wellFormed : tables.WellFormed) (free : ConflictFree tables rows) :
    buildPreview promotion.mode rows tables =
      { mode := promotion.mode
        styles := (pass.outcome promotion).styles
        skus := (pass.outcome promotion).skus
        epcBindings := (pass.outcome promotion).epcBindings
        rows := rows.length } := by
  rw [buildPreview,outcome,pass.omittedStyles,pass.omittedSkus,pass.omittedBindings,styleChanges,
    pass.skuChanges wellFormed free,pass.epcChanges wellFormed]
  rfl

end Pass

section Dumped

variable {runtime : Runtime} {tables : Tables} {rows : List CatalogRowData}

/-- Two classifications count the same only if they are the same, when the second one at most finds
unchanged what the first one finds updated. -/
theorem tally_eq_iff {Entry : Type} {entries : List Entry} {previewed done : Entry → Change}
    (deactivated : ℕ) (fewer : ∀ entry ∈ entries, done entry = previewed entry ∨
      previewed entry = .updated ∧ done entry = .unchanged) :
    Counter.tally (entries.map previewed) deactivated = Counter.tally (entries.map done) deactivated ↔
      ∀ entry ∈ entries, done entry = previewed entry := by
  have counts : (entries.map previewed).count .unchanged ≤ (entries.map done).count .unchanged ∧
      ((entries.map previewed).count .unchanged = (entries.map done).count .unchanged →
        ∀ entry ∈ entries, done entry = previewed entry) := by
    induction entries with
    | nil => simp
    | cons entry entries ih =>
        obtain ⟨own,others⟩ := List.forall_mem_cons.mp fewer
        obtain ⟨le,equal⟩ := ih others
        rw [List.map_cons,List.map_cons,List.count_cons,List.count_cons]
        rcases own with same | ⟨updated,unchanged⟩
        · rw [same]
          refine ⟨by omega,fun counted => List.forall_mem_cons.mpr ⟨same,equal (by omega)⟩⟩
        · rw [updated,unchanged]
          simp only [beq_self_eq_true,if_true]
          refine ⟨by simp; omega,fun counted => ?_⟩
          simp at counted
          omega
  constructor
  · intro tallied
    exact counts.2 (Counter.mk.inj tallied).2.2.1
  · intro same
    rw [List.map_congr_left same]

/-- The documents of the catalog, which are columns. -/
structure Tables.HoldsDocuments (tables : Tables) : Prop where
  styles : ∀ style ∈ tables.styles.rows, (Json.object style.attributes).storable = true
  skus : ∀ sku ∈ tables.skus.rows, (Json.object sku.attributes).storable = true

/-- An entity that the catalog has as the file has it, but for its document, has the dump of the
document only if it has the document. -/
structure Unmistaken (runtime : Runtime) (tables : Tables) (rows : List CatalogRowData) : Prop where
  styles : ∀ entry ∈ (entityData rows).styles.rows, ∀ style ∈ tables.styles.find? entry.1,
    style.name = entry.2.styleName → style.active = true →
      ∀ dump ∈ runtime.modelDump entry.2.styleAttributes, same style.attributes dump →
        same style.attributes entry.2.styleAttributes
  skus : ∀ entry ∈ (entityData rows).skus.rows, ∀ sku ∈ tables.skus.find? entry.1,
    ∀ style ∈ tables.styles.find? entry.2.styleCode, sku.productStyleId = style.id →
      sku.upc = entry.2.upc → sku.color = entry.2.color → sku.size = entry.2.size →
        sku.active = true → ∀ dump ∈ runtime.modelDump entry.2.attributes,
          same sku.attributes dump → same sku.attributes entry.2.attributes

/-- The entries of the dumped rows are the dumps of the entries. -/
theorem entities_dumped (change : JsonObject → JsonObject) (rows : List CatalogRowData) :
    Relational.OrderedDict.Maps (CatalogRowData.withDocuments change) (entityData rows).styles
        (entityData (rows.map (CatalogRowData.withDocuments change))).styles ∧
      Relational.OrderedDict.Maps (CatalogRowData.withDocuments change) (entityData rows).skus
        (entityData (rows.map (CatalogRowData.withDocuments change))).skus ∧
      Relational.OrderedDict.Maps (CatalogRowData.withDocuments change) (entityData rows).epcs
        (entityData (rows.map (CatalogRowData.withDocuments change))).epcs :=
  ⟨OrderedDict.maps_firstOf (fun _ => rfl) rows,OrderedDict.maps_firstOf (fun _ => rfl) rows,
    OrderedDict.maps_ofList (fun _ => rfl) rows⟩

/-- What an entity is classified as, from whether its row and its dump change it. -/
theorem classified_cases {changed stays : Bool} (settles : changed = false → stays = false) :
    ((if stays then Change.updated else .unchanged) = (if changed then .updated else .unchanged) ∨
      (if changed then Change.updated else .unchanged) = .updated ∧
        (if stays then Change.updated else .unchanged) = .unchanged) ∧
      ((if stays then Change.updated else .unchanged) = (if changed then .updated else .unchanged) ↔
        (stays = false → changed = false)) := by
  cases changed <;> cases stays <;> simp_all

variable (dumps : runtime.DumpsClean) (columns : tables.HoldsDocuments) {data : CatalogRowData}

section Entity

variable (fine : Fine (.object data.attributes) ∧ Fine (.object data.styleAttributes))

include dumps columns fine

theorem previewStyle_dumped (code : Text) :
    (previewStyle tables code (data.withDocuments runtime.stored) = previewStyle tables code data ∨
      previewStyle tables code data = .updated ∧
        previewStyle tables code (data.withDocuments runtime.stored) = .unchanged) ∧
      (previewStyle tables code (data.withDocuments runtime.stored) =
          previewStyle tables code data ↔
        ∀ style ∈ tables.styles.find? code, style.name = data.styleName → style.active = true →
          same style.attributes (runtime.stored data.styleAttributes) →
            same style.attributes data.styleAttributes) := by
  unfold previewStyle
  cases found : tables.styles.find? code with
  | none => simp
  | some style =>
      have held := columns.styles style (Table.mem_of_find? found)
      have settles : styleChanged style data = false →
          styleChanged style (data.withDocuments runtime.stored) = false := by
        rw [styleChanged_eq_false,styleChanged_eq_false]
        rintro ⟨name,equal,active⟩
        refine ⟨name,?_,active⟩
        rw [CatalogRowData.withDocuments,stored_of_same dumps fine.2 held equal]
        exact equal
      obtain ⟨fewer,classified⟩ := classified_cases settles
      refine ⟨fewer,classified.trans ?_⟩
      rw [styleChanged_eq_false,styleChanged_eq_false]
      constructor
      · rintro unmistaken _ ⟨⟩ name active equal
        exact (unmistaken ⟨name,equal,active⟩).2.1
      · rintro unmistaken ⟨name,equal,active⟩
        exact ⟨name,unmistaken style rfl name active equal,active⟩

theorem previewSku_dumped (code : Text) :
    (previewSku tables code (data.withDocuments runtime.stored) = previewSku tables code data ∨
      previewSku tables code data = .updated ∧
        previewSku tables code (data.withDocuments runtime.stored) = .unchanged) ∧
      (previewSku tables code (data.withDocuments runtime.stored) = previewSku tables code data ↔
        ∀ sku ∈ tables.skus.find? code, ∀ style ∈ tables.styles.find? data.styleCode,
          sku.productStyleId = style.id → sku.upc = data.upc → sku.color = data.color →
            sku.size = data.size → sku.active = true →
              same sku.attributes (runtime.stored data.attributes) →
                same sku.attributes data.attributes) := by
  unfold previewSku
  cases found : tables.skus.find? code with
  | none => simp
  | some sku =>
      cases target : tables.styles.find? data.styleCode with
      | none => simp [CatalogRowData.withDocuments,target]
      | some style =>
          have held := columns.skus sku (Table.mem_of_find? found)
          have settles : skuChanged sku style data = false →
              skuChanged sku style (data.withDocuments runtime.stored) = false := by
            rw [skuChanged_eq_false,skuChanged_eq_false]
            rintro ⟨own,upc,color,size,equal,active⟩
            refine ⟨own,upc,color,size,?_,active⟩
            rw [CatalogRowData.withDocuments,stored_of_same dumps fine.1 held equal]
            exact equal
          obtain ⟨fewer,classified⟩ := classified_cases settles
          have same_target : tables.styles.find? (data.withDocuments runtime.stored).styleCode =
            some style := target
          rw [same_target]
          refine ⟨fewer,classified.trans ?_⟩
          rw [skuChanged_eq_false,skuChanged_eq_false]
          constructor
          · rintro unmistaken _ ⟨⟩ _ ⟨⟩ own upc color size active equal
            exact (unmistaken ⟨own,upc,color,size,equal,active⟩).2.2.2.2.1
          · rintro unmistaken ⟨own,upc,color,size,equal,active⟩
            exact ⟨own,upc,color,size,
              unmistaken sku rfl style rfl own upc color size active equal,active⟩

end Entity

include dumps columns

/-- The previews of the rows and of their dumps have the same counters where the dumps mislead
nobody. -/
theorem buildPreview_dumped_iff (mode : CatalogImportMode)
    (fine : ∀ data ∈ rows, Fine (.object data.attributes) ∧ Fine (.object data.styleAttributes))
    (dumped : ∀ data ∈ rows, (data.modelDump runtime).isSome = true) :
    ((buildPreview mode rows tables).styles = (buildPreview mode
        (rows.map (CatalogRowData.withDocuments runtime.stored)) tables).styles ∧
      (buildPreview mode rows tables).skus = (buildPreview mode
        (rows.map (CatalogRowData.withDocuments runtime.stored)) tables).skus ∧
      (buildPreview mode rows tables).epcBindings = (buildPreview mode
        (rows.map (CatalogRowData.withDocuments runtime.stored)) tables).epcBindings) ↔
      Unmistaken runtime tables rows := by
  obtain ⟨styles,skus,epcs⟩ := entities_dumped runtime.stored rows
  have styleCounters : (buildPreview mode rows tables).styles = (buildPreview mode
      (rows.map (CatalogRowData.withDocuments runtime.stored)) tables).styles ↔
        ∀ entry ∈ (entityData rows).styles.rows, previewStyle tables entry.1
          (entry.2.withDocuments runtime.stored) = previewStyle tables entry.1 entry.2 := by
    simp only [buildPreview,styles.contains]
    rw [styles,List.map_map]
    apply tally_eq_iff
    intro entry member
    exact (previewStyle_dumped dumps columns (fine _ (of_mem_styles member).1) entry.1).1
  have skuCounters : (buildPreview mode rows tables).skus = (buildPreview mode
      (rows.map (CatalogRowData.withDocuments runtime.stored)) tables).skus ↔
        ∀ entry ∈ (entityData rows).skus.rows, previewSku tables entry.1
          (entry.2.withDocuments runtime.stored) = previewSku tables entry.1 entry.2 := by
    simp only [buildPreview,skus.contains]
    rw [skus,List.map_map]
    apply tally_eq_iff
    intro entry member
    exact (previewSku_dumped dumps columns (fine _ (of_mem_skus member).1) entry.1).1
  have epcCounters : (buildPreview mode rows tables).epcBindings = (buildPreview mode
      (rows.map (CatalogRowData.withDocuments runtime.stored)) tables).epcBindings := by
    simp only [buildPreview,epcs.contains]
    rw [epcs,List.map_map]
    rfl
  rw [styleCounters,skuCounters]
  constructor
  · rintro ⟨styleSame,skuSame,-⟩
    constructor
    · rintro entry member style found name active dump listed equal
      have stored := (of_mem_styles member).1
      rw [(modelDump_documents (dumped _ stored)).1] at listed
      cases listed
      exact (previewStyle_dumped dumps columns (fine _ stored) entry.1).2.mp (styleSame entry member)
        style found name active equal
    · rintro entry member sku found style target own upc color size active dump listed equal
      have stored := (of_mem_skus member).1
      rw [(modelDump_documents (dumped _ stored)).2] at listed
      cases listed
      exact (previewSku_dumped dumps columns (fine _ stored) entry.1).2.mp (skuSame entry member)
        sku found style target own upc color size active equal
  · intro unmistaken
    refine ⟨?_,?_,epcCounters⟩
    · intro entry member
      have stored := (of_mem_styles member).1
      refine (previewStyle_dumped dumps columns (fine _ stored) entry.1).2.mpr ?_
      intro style found name active
      exact unmistaken.styles entry member style found name active _
        (modelDump_documents (dumped _ stored)).1
    · intro entry member
      have stored := (of_mem_skus member).1
      refine (previewSku_dumped dumps columns (fine _ stored) entry.1).2.mpr ?_
      intro sku found style target own upc color size active
      exact unmistaken.skus entry member sku found style target own upc color size active _
        (modelDump_documents (dumped _ stored)).2

end Dumped

/-- The preview of a ready import has the counters that the promotion of its staged rows returns
over the same catalog, unless the catalog has what a dump has made of a document. The promotion gets
through, unless a binding is not over before it. -/
theorem preview_tells_outcome (runtime : Runtime) (dumps : runtime.DumpsClean) (tables : Tables)
    (catalogImport : CatalogImport) (content : List UInt8) (staging : Staging) (effectiveAt : Time)
    (wellFormed : tables.WellFormed) (columns : tables.HoldsDocuments)
    (validating : catalogImport.status = .validating)
    (staged : validateAndStage runtime tables catalogImport content = .ok staging)
    (ready : staging.catalogImport.status = .ready) :
    ∃ preview, staging.catalogImport.reconciliation.preview = some preview ∧
      ((∃ outcome after, applyPromotion tables
          ⟨catalogImport.id,catalogImport.mode,effectiveAt⟩ staging.validRows = .ok (outcome,after) ∧
        (preview.styles = outcome.styles ∧ preview.skus = outcome.skus ∧
            preview.epcBindings = outcome.epcBindings ↔
          Unmistaken runtime tables (normalizedRows (parseCatalogCsv runtime content).rows))) ∨
      ((∃ constraint, applyPromotion tables
          ⟨catalogImport.id,catalogImport.mode,effectiveAt⟩ staging.validRows =
            .error (.integrityError constraint)) ∧ ¬tables.Before effectiveAt)) := by
  have accepted := ready_of_validated validating staged ready
  refine ⟨_,accepted.previewed,?_⟩
  let promotion : Promotion := ⟨catalogImport.id,catalogImport.mode,effectiveAt⟩
  obtain ⟨pass⟩ := exists_pass tables staging.validRows
  have applied := applyPromotion_eq pass promotion (firstConflict_eq_none accepted.conflictFree)
  have counted := pass.buildPreview_eq promotion wellFormed accepted.conflictFree
  have dumped : ∀ data ∈ normalizedRows (parseCatalogCsv runtime content).rows,
      (data.modelDump runtime).isSome = true := by
    intro data member
    rw [accepted.dumped data member]
    rfl
  have alike := buildPreview_dumped_iff dumps columns catalogImport.mode
    (fine_parsed runtime content) dumped
  rw [← accepted.staged,counted] at alike
  rcases checked_cases (pass.outcome promotion) (pass.after promotion) with
    ⟨held,passed⟩ | ⟨constraint,violated,refused⟩
  · exact .inl ⟨_,_,applied.trans passed,alike⟩
  · refine .inr ⟨⟨constraint,applied.trans refused⟩,?_⟩
    intro before
    rw [pass.held_after promotion wellFormed before] at violated
    cases violated

def isReady (staged : Except StagingFailure Staging) : Bool :=
  staged.toOption.any fun staging => staging.catalogImport.status = .ready

theorem ready_of_isReady {staged : Except StagingFailure Staging} (ready : isReady staged = true) :
    ∃ staging, staged = .ok staging ∧ staging.catalogImport.status = .ready := by
  cases staged with
  | error failure => cases ready
  | ok staging => exact ⟨staging,rfl,of_decide_eq_true ready⟩

theorem preview_tells_outcome_sample : ∃ staging preview outcome after,
    validateAndStage Sample.runtime {} Sample.fullImport Sample.readableFile = .ok staging ∧
      staging.catalogImport.reconciliation.preview = some preview ∧
      applyPromotion {} ⟨1,.full,5⟩ staging.validRows = .ok (outcome,after) ∧
        preview.styles = outcome.styles ∧ preview.skus = outcome.skus ∧
          preview.epcBindings = outcome.epcBindings := by
  have validating : Sample.fullImport.status = .validating := rfl
  obtain ⟨staging,staged,ready⟩ : ∃ staging, validateAndStage Sample.runtime {} Sample.fullImport
      Sample.readableFile = .ok staging ∧ staging.catalogImport.status = .ready :=
    ready_of_isReady (by decide +kernel)
  have columns : Tables.HoldsDocuments {} := ⟨nofun,nofun⟩
  have unmistaken : Unmistaken Sample.runtime {}
      (normalizedRows (parseCatalogCsv Sample.runtime Sample.readableFile).rows) :=
    ⟨fun _ _ _ => nofun,fun _ _ _ => nofun⟩
  obtain ⟨preview,previewed,⟨outcome,after,applied,told⟩ | ⟨-,late⟩⟩ :=
    preview_tells_outcome Sample.runtime Sample.runtime_dumpsClean {} Sample.fullImport
      Sample.readableFile staging 5 Tables.WellFormed.empty columns validating staged ready
  · exact ⟨staging,preview,outcome,after,staged,previewed,applied,told.mpr unmistaken⟩
  · exact absurd (by simp [Tables.Before]) late

/-- A file with an unpaired surrogate in a name is imported again: the preview counts its style as
updated, and the promotion as unchanged. -/
theorem dump_hides_change : Sample.lossyRuntime.DumpsClean ∧ ∃ staging preview outcome after,
    validateAndStage Sample.lossyRuntime (Sample.imported Sample.lossyRuntime Sample.surrogateFile)
        Sample.secondImport Sample.surrogateFile = .ok staging ∧
      staging.catalogImport.status = .ready ∧
      staging.catalogImport.reconciliation.preview = some preview ∧
      applyPromotion (Sample.imported Sample.lossyRuntime Sample.surrogateFile) ⟨2,.full,6⟩
        staging.validRows = .ok (outcome,after) ∧
      preview.styles.updated = 1 ∧ outcome.styles.updated = 0 := by
  refine ⟨Sample.lossyRuntime_dumpsClean,?_⟩
  obtain ⟨staging,staged,holds⟩ : ∃ staging, validateAndStage Sample.lossyRuntime
      (Sample.imported Sample.lossyRuntime Sample.surrogateFile) Sample.secondImport
        Sample.surrogateFile = .ok staging ∧
      (staging.catalogImport.status = .ready &&
        staging.catalogImport.reconciliation.preview.any fun preview =>
          (applyPromotion (Sample.imported Sample.lossyRuntime Sample.surrogateFile) ⟨2,.full,6⟩
            staging.validRows).toOption.any fun result =>
              preview.styles.updated = 1 && result.1.styles.updated = 0) = true :=
    exists_of_any (by decide +kernel)
  rw [Bool.and_eq_true,decide_eq_true_eq,Option.any_eq_true] at holds
  obtain ⟨ready,preview,previewed,counted⟩ := holds
  obtain ⟨⟨outcome,after⟩,applied,counters⟩ := exists_of_any counted
  rw [Bool.and_eq_true,decide_eq_true_eq,decide_eq_true_eq] at counters
  exact ⟨staging,preview,outcome,after,staged,ready,previewed,applied,counters.1,counters.2⟩

end Abacus.Catalog
