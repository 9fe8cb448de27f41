import Abacus.Catalog.Effects
import Abacus.Catalog.Staging

/-! The rows of an import that is ready.
Every row was checked against the rows before it and against the stored catalog, so that
the rows agree with each other and meet no conflict.
-/
set_option autoImplicit false

namespace Abacus.Catalog

open Relational (Table OrderedDict)
open Python (Text text Json JsonObject)

section Agreement

structure CatalogRowData.Agrees (data other : CatalogRowData) : Prop where
  style : data.styleCode = other.styleCode → data.styleSignature = other.styleSignature
  sku : data.sku = other.sku → data.skuSignature = other.skuSignature
  upc : data.upc = other.upc → data.sku = other.sku
  epc : data.epc ≠ other.epc

/-- What two agreeing rows have in common holds of any two rows of the file. -/
theorem related_of_agrees {rows : List CatalogRowData}
    (agree : rows.Pairwise CatalogRowData.Agrees) (Relates : CatalogRowData → CatalogRowData → Prop)
    (refl : ∀ data, Relates data data)
    (symm : ∀ {data other}, Relates data other → Relates other data)
    (implied : ∀ {data other : CatalogRowData}, data.Agrees other → Relates data other) :
    ∀ data ∈ rows, ∀ other ∈ rows, Relates data other := by
  intro data member other listed
  have forward : rows.Pairwise Relates := agree.imp implied
  have backward : rows.Pairwise (flip Relates) := agree.imp fun pair => symm (implied pair)
  exact forward.forall_of_forall_of_flip (fun row _ => refl row) backward member listed

theorem consistent_of_agrees {rows : List CatalogRowData}
    (agree : rows.Pairwise CatalogRowData.Agrees) : Consistent rows := by
  constructor
  · exact List.pairwise_map.mpr (agree.imp fun pair => pair.epc)
  · apply related_of_agrees agree fun data other => data.styleCode = other.styleCode →
      data.styleName = other.styleName ∧ (Json.object data.styleAttributes).dumps =
        (Json.object other.styleAttributes).dumps
    · exact fun data _ => ⟨rfl,rfl⟩
    · intro data other relates same
      exact ⟨(relates same.symm).1.symm,(relates same.symm).2.symm⟩
    · intro data other pair same
      exact Prod.mk.inj (pair.style same)
  · apply related_of_agrees agree fun data other => data.sku = other.sku →
      data.styleCode = other.styleCode ∧ data.upc = other.upc ∧ data.color = other.color ∧
        data.size = other.size ∧
        (Json.object data.attributes).dumps = (Json.object other.attributes).dumps
    · exact fun data _ => ⟨rfl,rfl,rfl,rfl,rfl⟩
    · intro data other relates same
      obtain ⟨style,upc,color,size,attributes⟩ := relates same.symm
      exact ⟨style.symm,upc.symm,color.symm,size.symm,attributes.symm⟩
    · intro data other pair same
      simpa [CatalogRowData.skuSignature] using pair.sku same
  · apply related_of_agrees agree fun data other => data.upc = other.upc → data.sku = other.sku
    · exact fun data _ => rfl
    · intro data other relates same
      exact (relates same.symm).symm
    · exact fun pair => pair.upc

end Agreement

section Checks

variable {Signature : Type} [DecidableEq Signature] {seen : OrderedDict Text (ℕ × Signature)}
  {key : Text} {rowNumber : ℕ} {signature : Signature}

/-- A definition without a conflict is in the dictionary, and was not there as another one. -/
theorem define_of_free (free : (define seen key rowNumber signature).2 = none) :
    (∃ first, (define seen key rowNumber signature).1.get? key = some (first,signature)) ∧
      ∀ first other, seen.get? key = some (first,other) → other = signature := by
  unfold define at free ⊢
  cases found : seen.get? key with
  | none => exact ⟨⟨rowNumber,by simp [OrderedDict.get?_set]⟩,by simp⟩
  | some prior =>
      rw [found] at free
      dsimp only at free ⊢
      split at free
      · cases free
      · rename_i equal
        rw [if_neg equal]
        simp only [ne_eq,not_not] at equal
        refine ⟨⟨prior.1,by rw [found,← equal]⟩,?_⟩
        intro first other same
        rw [← equal]
        exact (congrArg Prod.snd (Option.some.inj same)).symm

/-- What was defined stays so. -/
theorem define_keeps {other : Text} {value : ℕ × Signature} (found : seen.get? other = some value) :
    (define seen key rowNumber signature).1.get? other = some value := by
  unfold define
  cases prior : seen.get? key with
  | none =>
      have apart : key ≠ other := by
        rintro rfl
        rw [found] at prior
        cases prior
      rw [OrderedDict.get?_set,if_neg apart,found]
  | some earlier =>
      dsimp only
      split <;> exact found

end Checks

section Batch

structure Seen.Admits (seen : Seen) (data : CatalogRowData) : Prop where
  style : ∀ first other, seen.styles.get? data.styleCode = some (first,other) →
    other = data.styleSignature
  sku : ∀ first other, seen.skus.get? data.sku = some (first,other) → other = data.skuSignature
  upc : ∀ first other, seen.upcs.get? data.upc = some (first,other) → other = data.sku
  epc : seen.epcs.get? data.epc = none

/-- What a row has to agree with only grows, whether or not the rows before it pass. -/
theorem Seen.Admits.before {seen : Seen} {row : ParsedCatalogRow} {other : CatalogRowData}
    (admitted : (checkRow seen row).1.Admits other) : seen.Admits other := by
  cases normalized : row.normalized with
  | none => simpa [checkRow,normalized] using admitted
  | some data =>
      obtain ⟨style,sku,upc,epc⟩ := admitted
      simp only [checkRow,normalized] at style sku upc epc
      refine ⟨?_,?_,?_,?_⟩
      · exact fun first prior found => style first prior (define_keeps found)
      · exact fun first prior found => sku first prior (define_keeps found)
      · exact fun first prior found => upc first prior (define_keeps found)
      · split at epc
        · exact epc
        · rw [OrderedDict.get?_set] at epc
          split at epc
          · cases epc
          · exact epc

/-- A row that passes its check agrees with the rows before it, and later rows have to agree with
it. -/
theorem checkRow_clean {seen : Seen} {row : ParsedCatalogRow} {data : CatalogRowData}
    (normalized : row.normalized = some data) (clean : (checkRow seen row).2.issues = []) :
    seen.Admits data ∧ ∀ other, (checkRow seen row).1.Admits other → data.Agrees other := by
  simp only [checkRow,normalized,List.append_eq_nil_iff,List.map_eq_nil_iff,
    Option.toList_eq_nil_iff] at clean ⊢
  obtain ⟨⟨⟨⟨-,styleFree⟩,skuFree⟩,upcFree⟩,epcFree⟩ := clean
  obtain ⟨⟨styleRow,style⟩,priorStyle⟩ := define_of_free styleFree
  obtain ⟨⟨skuRow,sku⟩,priorSku⟩ := define_of_free skuFree
  obtain ⟨⟨upcRow,upc⟩,priorUpc⟩ := define_of_free upcFree
  refine ⟨⟨priorStyle,priorSku,priorUpc,epcFree⟩,?_⟩
  intro other admitted
  have epcs := admitted.epc
  simp only [epcFree,Option.isSome_none,Bool.false_eq_true,if_false,OrderedDict.get?_set] at epcs
  refine ⟨?_,?_,?_,?_⟩
  · intro same
    exact admitted.style styleRow data.styleSignature (by rw [← same]; exact style)
  · intro same
    exact admitted.sku skuRow data.skuSignature (by rw [← same]; exact sku)
  · intro same
    exact admitted.upc upcRow data.sku (by rw [← same]; exact upc)
  · intro same
    rw [if_pos same] at epcs
    cases epcs

theorem checkRow_validData {seen : Seen} {row : ParsedCatalogRow} {data : CatalogRowData}
    (valid : (checkRow seen row).2.validData = some data) :
    (checkRow seen row).2.issues = [] ∧ row.normalized = some data := by
  unfold ParsedCatalogRow.validData at valid
  split at valid
  · rename_i clean
    rw [checkRow_normalized] at valid
    exact ⟨clean,valid⟩
  · cases valid

/-- The rows without an issue agree with each other, whatever is wrong with the other rows. -/
theorem batch_agrees (seen : Seen) (rows : List ParsedCatalogRow) :
    (normalizedRows (validateBatchConsistency seen rows)).Pairwise CatalogRowData.Agrees ∧
      ∀ data ∈ normalizedRows (validateBatchConsistency seen rows), seen.Admits data := by
  induction rows generalizing seen with
  | nil => simp [normalizedRows,validateBatchConsistency]
  | cons row rows ih =>
      obtain ⟨agree,admitted⟩ := ih (checkRow seen row).1
      rw [normalizedRows,validateBatchConsistency,List.filterMap_cons,← normalizedRows]
      cases valid : (checkRow seen row).2.validData with
      | none => exact ⟨agree,fun other member => (admitted other member).before⟩
      | some data =>
          obtain ⟨clean,normalized⟩ := checkRow_validData valid
          obtain ⟨own,later⟩ := checkRow_clean normalized clean
          refine ⟨List.pairwise_cons.mpr ⟨?_,agree⟩,List.forall_mem_cons.mpr ⟨own,?_⟩⟩
          · exact fun other member => later other (admitted other member)
          · exact fun other member => (admitted other member).before

theorem validateBatchConsistency_normalized (seen : Seen) (rows : List ParsedCatalogRow) :
    (validateBatchConsistency seen rows).map ParsedCatalogRow.normalized =
      rows.map ParsedCatalogRow.normalized := by
  induction rows generalizing seen with
  | nil => rfl
  | cons row rows ih => simp [validateBatchConsistency,checkRow_normalized,ih]

/-- The rows of a file that have no issue are consistent. -/
theorem parsed_consistent (runtime : Runtime) (content : List UInt8) :
    Consistent (normalizedRows (parseCatalogCsv runtime content).rows) := by
  unfold parseCatalogCsv
  cases dataSection runtime content with
  | error issues => exact consistent_of_agrees .nil
  | ok opened => exact consistent_of_agrees (batch_agrees {} _).1

end Batch

section Complete

theorem fieldErrors_eq_nil {α : Type} {field : Text} {result : Except Text α}
    (valid : fieldErrors field result = []) : ∃ value, result = .ok value := by
  cases result with
  | ok value => exact ⟨value,rfl⟩
  | error message => cases valid

/-- A row that its schema refuses has an error. -/
theorem modelValidate_errors {runtime : Runtime} {candidate : Candidate} {errors : List FieldError}
    (refused : modelValidate runtime candidate = .error errors) : errors ≠ [] := by
  unfold modelValidate at refused
  dsimp only at refused
  split at refused
  · cases refused
  · rename_i incomplete
    cases refused
    intro none
    simp only [List.append_eq_nil_iff] at none
    obtain ⟨⟨⟨⟨⟨⟨styleCode,styleName⟩,sku⟩,upc⟩,color⟩,size⟩,epc⟩ := none
    obtain ⟨styleCode,styleCodeValid⟩ := fieldErrors_eq_nil styleCode
    obtain ⟨styleName,styleNameValid⟩ := fieldErrors_eq_nil styleName
    obtain ⟨sku,skuValid⟩ := fieldErrors_eq_nil sku
    obtain ⟨upc,upcValid⟩ := fieldErrors_eq_nil upc
    obtain ⟨color,colorValid⟩ := fieldErrors_eq_nil color
    obtain ⟨size,sizeValid⟩ := fieldErrors_eq_nil size
    obtain ⟨epc,epcValid⟩ := fieldErrors_eq_nil epc
    exact incomplete _ _ _ _ _ _ _ styleCodeValid styleNameValid skuValid upcValid colorValid
      sizeValid epcValid

def ParsedCatalogRow.Complete (row : ParsedCatalogRow) : Prop :=
  row.normalized = none → row.issues ≠ []

theorem parseRow_complete (runtime : Runtime) (headers : List Text) (record : Csv.Record) :
    (parseRow runtime headers record).Complete := by
  unfold ParsedCatalogRow.Complete parseRow
  dsimp only
  split
  · simp
  · split
    · simp
    · split
      · simp
      · split
        · rename_i refused
          simpa [validationIssues] using modelValidate_errors refused
        · simp

theorem checkRow_complete (seen : Seen) {row : ParsedCatalogRow} (complete : row.Complete) :
    (checkRow seen row).2.Complete := by
  intro absent
  rw [checkRow_normalized] at absent
  simpa [checkRow,absent] using complete absent

theorem validateBatchConsistency_complete (seen : Seen) {rows : List ParsedCatalogRow}
    (complete : ∀ row ∈ rows, row.Complete) :
    ∀ row ∈ validateBatchConsistency seen rows, row.Complete := by
  induction rows generalizing seen with
  | nil => simp [validateBatchConsistency]
  | cons row rows ih =>
      rw [List.forall_mem_cons] at complete
      rw [validateBatchConsistency,List.forall_mem_cons]
      exact ⟨checkRow_complete seen complete.1,ih _ complete.2⟩

theorem parsed_complete (runtime : Runtime) (content : List UInt8) :
    ∀ row ∈ (parseCatalogCsv runtime content).rows, row.Complete := by
  unfold parseCatalogCsv
  cases dataSection runtime content with
  | error issues => simp
  | ok opened =>
      apply validateBatchConsistency_complete
      intro row member
      obtain ⟨record,-,rfl⟩ := List.mem_map.mp member
      exact parseRow_complete runtime opened.1 record

/-- A file without issues has a row. -/
theorem parsed_some {runtime : Runtime} {content : List UInt8}
    (clean : (parseCatalogCsv runtime content).issues = []) :
    (parseCatalogCsv runtime content).rows ≠ [] := by
  unfold parseCatalogCsv at clean ⊢
  cases opened : dataSection runtime content with
  | error issues =>
      rw [opened] at clean
      exact absurd clean (dataSection_issues opened)
  | ok section_ =>
      rw [opened] at clean
      dsimp only at clean ⊢
      intro none
      split at clean
      · cases clean
      · rename_i some
        exact some ⟨List.map_eq_nil_iff.mp (by
          rw [← validateBatchConsistency_normalized,none]; rfl),clean⟩

end Complete

section Ready

variable {tables : Tables} {row : ParsedCatalogRow} {data : CatalogRowData}

theorem free_of_databaseConflicts (clean : databaseConflicts tables row data = []) :
    promotionConflict tables data.sku data = none := by
  simp only [databaseConflicts,List.append_eq_nil_iff,List.map_eq_nil_iff,
    Option.toList_eq_nil_iff] at clean
  obtain ⟨unowned,unmoved⟩ := clean
  unfold promotionConflict
  rw [unowned]
  dsimp only
  cases current : (tables.skus.find? data.sku).bind fun existing =>
      tables.styleById existing.productStyleId with
  | none => rfl
  | some existingStyle =>
      rw [current,Option.filter_eq_none_iff] at unmoved
      have same := unmoved existingStyle rfl
      dsimp only
      rw [if_neg (by simpa using same)]

theorem appendDatabaseConflicts_clean (clean : (appendDatabaseConflicts tables row).issues = []) :
    row.issues = [] ∧ ∀ data, row.normalized = some data →
      promotionConflict tables data.sku data = none := by
  unfold appendDatabaseConflicts at clean
  split at clean
  · rename_i absent
    exact ⟨clean,by simp [absent]⟩
  · rename_i data normalized
    split at clean
    · rename_i unspoilt
      refine ⟨unspoilt,?_⟩
      intro other same
      rw [normalized] at same
      cases same
      exact free_of_databaseConflicts clean
    · rename_i spoilt
      exact absurd clean spoilt

/-- What is staged for a document whose dump does not raise. -/
def Runtime.stored (runtime : Runtime) (document : JsonObject) : JsonObject :=
  (runtime.modelDump document).getD document

def CatalogRowData.withDocuments (change : JsonObject → JsonObject) (data : CatalogRowData) :
    CatalogRowData :=
  { data with
    styleAttributes := change data.styleAttributes
    attributes := change data.attributes }

theorem modelDump_documents {runtime : Runtime} (done : (data.modelDump runtime).isSome = true) :
    runtime.modelDump data.styleAttributes = some (runtime.stored data.styleAttributes) ∧
      runtime.modelDump data.attributes = some (runtime.stored data.attributes) := by
  obtain ⟨dump,dumped⟩ := Option.isSome_iff_exists.mp done
  obtain ⟨style,styleDumped,rest⟩ := Option.bind_eq_some_iff.mp dumped
  obtain ⟨own,ownDumped,-⟩ := Option.map_eq_some_iff.mp rest
  rw [Runtime.stored,Runtime.stored,styleDumped,ownDumped]
  exact ⟨rfl,rfl⟩

theorem modelDump_eq_stored {runtime : Runtime} (done : (data.modelDump runtime).isSome = true) :
    data.modelDump runtime = some (data.withDocuments runtime.stored) := by
  obtain ⟨style,own⟩ := modelDump_documents done
  rw [CatalogRowData.modelDump,style,own]
  rfl

theorem Keyed.withDocuments {rows : List CatalogRowData} (keyed : Keyed rows)
    (change : JsonObject → JsonObject) : Keyed (rows.map (CatalogRowData.withDocuments change)) where
  epcs := by
    rw [List.map_map]
    exact keyed.epcs
  styles := by
    simp only [List.forall_mem_map]
    exact keyed.styles
  skus := by
    simp only [List.forall_mem_map]
    exact keyed.skus
  upcs := by
    simp only [List.forall_mem_map]
    exact keyed.upcs

/-- What a promotion reads of an import that is ready: the rows of its source, each as its dump, while
the preview is of the rows themselves. -/
structure Staging.Ready (staging : Staging) (runtime : Runtime) (tables : Tables)
    (mode : CatalogImportMode) (parsed : List CatalogRowData) : Prop where
  dumped : ∀ data ∈ parsed, data.modelDump runtime = some (data.withDocuments runtime.stored)
  staged : staging.validRows = parsed.map (CatalogRowData.withDocuments runtime.stored)
  conflictFree : ConflictFree tables staging.validRows
  previewed : staging.catalogImport.reconciliation.preview =
    some (buildPreview mode parsed tables)
  counted : (staging.validRows.length : ℤ) = staging.catalogImport.validRows
  supplied : staging.validRows ≠ []
  mode : staging.catalogImport.mode = mode

theorem stage_validRows {runtime : Runtime} {catalogImport : CatalogImport}
    {issues : List CatalogIssue} {rows : List ParsedCatalogRow}
    (clean : ∀ row ∈ rows, row.issues = []) (done : dumped runtime rows = true) :
    (stage runtime tables catalogImport issues rows).validRows =
      (rows.filterMap ParsedCatalogRow.normalized).map
        (CatalogRowData.withDocuments runtime.stored) := by
  have kept : ∀ row ∈ (stage runtime tables catalogImport issues rows).rows,
      decide (row.status = .valid) = true := by
    intro row member
    obtain ⟨parsed,listed,rfl⟩ := List.mem_map.mp member
    simp [stageRow,clean parsed listed]
  rw [Staging.validRows,List.filter_eq_self.mpr kept,stage,List.filterMap_map,List.map_filterMap]
  apply List.filterMap_congr
  intro row member
  change row.normalized.bind (CatalogRowData.modelDump runtime) = _
  cases normalized : row.normalized with
  | none => rfl
  | some data => exact modelDump_eq_stored (dumped_iff.mp done row member data normalized)

theorem normalizedRows_of_clean {rows : List ParsedCatalogRow}
    (clean : ∀ row ∈ rows, row.issues = []) :
    normalizedRows rows = rows.filterMap ParsedCatalogRow.normalized := by
  apply List.filterMap_congr
  intro row member
  rw [ParsedCatalogRow.validData,if_pos (clean row member)]

/-- Rows that are all complete and without issues all have data. -/
theorem length_normalized {rows : List ParsedCatalogRow} (complete : ∀ row ∈ rows, row.Complete)
    (clean : ∀ row ∈ rows, row.issues = []) :
    (rows.filterMap ParsedCatalogRow.normalized).length = rows.length := by
  induction rows with
  | nil => rfl
  | cons row rows ih =>
      rw [List.forall_mem_cons] at complete clean
      cases normalized : row.normalized with
      | none => exact absurd clean.1 (complete.1 normalized)
      | some data =>
          rw [List.filterMap_cons,normalized]
          simp [ih complete.2 clean.2]

/-- An import that validation made ready can be promoted as it was staged. -/
theorem ready_of_validated {runtime : Runtime} {catalogImport : CatalogImport}
    {content : List UInt8} {staging : Staging}
    (validating : catalogImport.status = .validating)
    (staged : validateAndStage runtime tables catalogImport content = .ok staging)
    (ready : staging.catalogImport.status = .ready) :
    staging.Ready runtime tables catalogImport.mode
      (normalizedRows (parseCatalogCsv runtime content).rows) := by
  obtain ⟨done,committed⟩ := (validateAndStage_eq_ok validating).mp staged
  have same := Staging.commit_eq_ok committed
  subst same
  have clean : allIssues (parseCatalogCsv runtime content).issues
      ((parseCatalogCsv runtime content).rows.map (appendDatabaseConflicts tables)) = [] := by
    by_contra found
    simp [stage,List.length_eq_zero_iff,found] at ready
  obtain ⟨fileClean,rowsClean⟩ := List.append_eq_nil_iff.mp clean
  rw [List.flatMap_eq_nil_iff] at rowsClean
  have parsed : ∀ row ∈ (parseCatalogCsv runtime content).rows, row.issues = [] ∧
      ∀ data, row.normalized = some data → promotionConflict tables data.sku data = none :=
    fun row member => appendDatabaseConflicts_clean (rowsClean _ (List.mem_map_of_mem member))
  have normal : normalizedRows (parseCatalogCsv runtime content).rows =
      (parseCatalogCsv runtime content).rows.filterMap ParsedCatalogRow.normalized :=
    normalizedRows_of_clean fun row member => (parsed row member).1
  have data : ((parseCatalogCsv runtime content).rows.map
      (appendDatabaseConflicts tables)).filterMap ParsedCatalogRow.normalized =
        normalizedRows (parseCatalogCsv runtime content).rows := by
    rw [normal,List.filterMap_map]
    exact List.filterMap_congr fun row _ => appendDatabaseConflicts_normalized tables row
  have rows : (stage runtime tables catalogImport (parseCatalogCsv runtime content).issues
      ((parseCatalogCsv runtime content).rows.map (appendDatabaseConflicts tables))).validRows = _ :=
    stage_validRows rowsClean done
  have length := length_normalized (parsed_complete runtime content)
    fun row member => (parsed row member).1
  rw [data] at rows
  rw [← normal] at length
  refine ⟨?_,rows,?_,?_,?_,?_,rfl⟩
  · intro row member
    rw [← data] at member
    obtain ⟨parsedRow,listed,normalized⟩ := List.mem_filterMap.mp member
    exact modelDump_eq_stored (dumped_iff.mp done parsedRow listed row normalized)
  · rw [rows]
    intro row member
    obtain ⟨origin,listed,rfl⟩ := List.mem_map.mp member
    rw [normal] at listed
    obtain ⟨parsedRow,inside,normalized⟩ := List.mem_filterMap.mp listed
    exact (parsed parsedRow inside).2 origin normalized
  · simp [stage,clean,normalizedRows_of_clean rowsClean,data]
  · rw [rows,List.length_map,length]
    simp [stage,clean,invalidRowNumbers]
  · rw [rows,← List.length_pos_iff,List.length_map,length,List.length_pos_iff]
    exact parsed_some fileClean

end Ready

section Parsed

variable (runtime : Runtime) (content : List UInt8)

/-- The row numbers of a file increase. -/
theorem parsed_increase :
    ((parseCatalogCsv runtime content).rows.map ParsedCatalogRow.rowNumber).Pairwise (· < ·) := by
  cases opened : dataSection runtime content with
  | error issues =>
      rw [parseCatalogCsv,opened]
      exact .nil
  | ok section_ =>
      rw [parsed_rowNumbers runtime content opened]
      have records := (dataRecords_increase opened).1
      have kept : ((dataRecords section_.2).take maxCatalogRows).Sublist section_.2.records :=
        (List.take_sublist _ _).trans List.filter_sublist
      exact List.pairwise_map.mpr (records.sublist kept)

/-- The rows that the parser finds nothing wrong with have data and agree with each other. -/
theorem accepted_rows_consistent :
    (∀ row ∈ (parseCatalogCsv runtime content).rows, row.issues = [] →
      ∃ data, row.normalized = some data) ∧
      Consistent (normalizedRows (parseCatalogCsv runtime content).rows) ∧
      ((parseCatalogCsv runtime content).rows.map ParsedCatalogRow.rowNumber).Pairwise (· < ·) ∧
      ∀ row ∈ (parseCatalogCsv runtime content).rows, 2 ≤ row.rowNumber := by
  refine ⟨?_,parsed_consistent runtime content,parsed_increase runtime content,
    parsed_from_second runtime content⟩
  intro row member clean
  cases normalized : row.normalized with
  | none => exact absurd clean (parsed_complete runtime content row member normalized)
  | some data => exact ⟨data,rfl⟩

end Parsed

end Abacus.Catalog
