import Abacus.Model.CatalogSample
import Mathlib.Data.List.Dedup

/-! What staging counts.
The counters come from the row numbers of the issues. A row of the file has its own number,
and so a count is wrong exactly when an issue has the number of a record that became no row.
-/
set_option autoImplicit false

namespace Abacus.Catalog

open Python (Text text Json JsonObject)

section Numbers

def ParsedCatalogRow.Numbered (row : ParsedCatalogRow) : Prop :=
  ∀ issue ∈ row.issues, issue.rowNumber = some row.rowNumber

theorem parseRow_rowNumber (runtime : Runtime) (headers : List Text) (record : Csv.Record) :
    (parseRow runtime headers record).rowNumber = record.lineNumber := by
  unfold parseRow
  dsimp only
  split
  · rfl
  · split
    · rfl
    · split
      · rfl
      · split <;> rfl

theorem parseRow_numbered (runtime : Runtime) (headers : List Text) (record : Csv.Record) :
    (parseRow runtime headers record).Numbered := by
  have single : ∀ issue : CatalogIssue, issue.rowNumber = some record.lineNumber →
      ∀ other ∈ [issue], other.rowNumber = some record.lineNumber := by
    intro issue numbered other member
    rw [List.mem_singleton.mp member]
    exact numbered
  unfold ParsedCatalogRow.Numbered parseRow
  dsimp only
  split
  · exact single _ rfl
  · split
    · exact single _ rfl
    · split
      · exact single _ rfl
      · split
        · intro issue member
          obtain ⟨error,-,rfl⟩ := List.mem_map.mp member
          rfl
        · intro issue member
          cases member

theorem checkRow_rowNumber (seen : Seen) (row : ParsedCatalogRow) :
    (checkRow seen row).2.rowNumber = row.rowNumber := by
  unfold checkRow
  split <;> rfl

theorem checkRow_normalized (seen : Seen) (row : ParsedCatalogRow) :
    (checkRow seen row).2.normalized = row.normalized := by
  unfold checkRow
  split <;> rfl

theorem checkRow_numbered (seen : Seen) {row : ParsedCatalogRow} (numbered : row.Numbered) :
    (checkRow seen row).2.Numbered := by
  have conflicts : ∀ (fieldName code : String) (message : Text) (first : Option ℕ),
      ∀ issue ∈ first.toList.map (conflict row fieldName code message),
        issue.rowNumber = some row.rowNumber := by
    intro fieldName code message first issue member
    obtain ⟨firstRow,-,rfl⟩ := List.mem_map.mp member
    rfl
  have duplicates : ∀ (data : CatalogRowData) (prior : Option (ℕ × Text)),
      ∀ issue ∈ prior.toList.map (epcConflict row data), issue.rowNumber = some row.rowNumber := by
    intro data prior issue member
    obtain ⟨first,-,rfl⟩ := List.mem_map.mp member
    unfold epcConflict
    split <;> rfl
  intro issue member
  rw [checkRow_rowNumber]
  unfold checkRow at member
  split at member
  · exact numbered issue member
  · simp only [List.mem_append] at member
    rcases member with (((own | style) | sku) | upc) | epc
    · exact numbered issue own
    · exact conflicts _ _ _ _ issue style
    · exact conflicts _ _ _ _ issue sku
    · exact conflicts _ _ _ _ issue upc
    · exact duplicates _ _ issue epc

theorem validateBatchConsistency_rowNumbers (seen : Seen) (rows : List ParsedCatalogRow) :
    (validateBatchConsistency seen rows).map ParsedCatalogRow.rowNumber =
      rows.map ParsedCatalogRow.rowNumber := by
  induction rows generalizing seen with
  | nil => rfl
  | cons row rows ih => simp [validateBatchConsistency,checkRow_rowNumber,ih]

theorem validateBatchConsistency_numbered (seen : Seen) {rows : List ParsedCatalogRow}
    (numbered : ∀ row ∈ rows, row.Numbered) :
    ∀ row ∈ validateBatchConsistency seen rows, row.Numbered := by
  induction rows generalizing seen with
  | nil => simp [validateBatchConsistency]
  | cons row rows ih =>
      intro other member
      rw [validateBatchConsistency] at member
      rcases List.mem_cons.mp member with rfl | later
      · exact checkRow_numbered seen (numbered row (List.mem_cons_self ..))
      · exact ih _ (fun next listed => numbered next (List.mem_cons_of_mem _ listed)) other later

theorem appendDatabaseConflicts_rowNumber (tables : Tables) (row : ParsedCatalogRow) :
    (appendDatabaseConflicts tables row).rowNumber = row.rowNumber := by
  unfold appendDatabaseConflicts
  split
  · rfl
  · split <;> rfl

theorem appendDatabaseConflicts_normalized (tables : Tables) (row : ParsedCatalogRow) :
    (appendDatabaseConflicts tables row).normalized = row.normalized := by
  unfold appendDatabaseConflicts
  split
  · rfl
  · split <;> rfl

theorem appendDatabaseConflicts_numbered (tables : Tables) {row : ParsedCatalogRow}
    (numbered : row.Numbered) : (appendDatabaseConflicts tables row).Numbered := by
  intro issue member
  rw [appendDatabaseConflicts_rowNumber]
  unfold appendDatabaseConflicts at member
  split at member
  · exact numbered issue member
  · split at member
    · unfold databaseConflicts at member
      rcases List.mem_append.mp member with upc | style
      · obtain ⟨owner,-,rfl⟩ := List.mem_map.mp upc
        rfl
      · obtain ⟨existingStyle,-,rfl⟩ := List.mem_map.mp style
        rfl
    · exact numbered issue member

end Numbers

section Section

variable {runtime : Runtime} {content : List UInt8} {headers : List Text} {reading : Csv.Reading}

/-- The data section is what the reader yields after the header. -/
theorem dataSection_eq_ok (opened : dataSection runtime content = .ok (headers,reading)) :
    ∃ textContent rawHeaders, (Csv.read textContent).records = rawHeaders :: reading.records ∧
      (Csv.read textContent).failure = reading.failure := by
  unfold dataSection at opened
  split at opened
  · cases opened
  · split at opened
    · cases opened
    · cases decoded : Python.decodeUtf8Sig content with
      | error offset =>
          rw [decoded] at opened
          cases opened
      | ok textContent =>
          rw [decoded] at opened
          dsimp only at opened
          split at opened
          · cases opened
          · cases read : (Csv.read textContent).records with
            | nil =>
                rw [read] at opened
                cases failed : (Csv.read textContent).failure with
                | none =>
                    rw [failed] at opened
                    cases opened
                | some failure =>
                    rw [failed] at opened
                    cases opened
            | cons rawHeaders records =>
                rw [read] at opened
                dsimp only at opened
                split at opened
                · cases opened
                  exact ⟨textContent,rawHeaders,read,rfl⟩
                · cases opened

/-- The records after the header end on later and later lines, from the second line on. -/
theorem dataRecords_increase (opened : dataSection runtime content = .ok (headers,reading)) :
    (reading.records.Pairwise fun earlier later => earlier.lineNumber < later.lineNumber) ∧
      ∀ record ∈ reading.records, 2 ≤ record.lineNumber := by
  obtain ⟨textContent,rawHeaders,records,-⟩ := dataSection_eq_ok opened
  have increase := Csv.lineNumbers_increase {} 0 textContent.lines
  rw [← Csv.read,records] at increase
  obtain ⟨later,rest⟩ := List.pairwise_cons.mp increase
  refine ⟨rest,?_⟩
  intro record member
  have first : 0 < rawHeaders.lineNumber := by
    have header : rawHeaders ∈ (Csv.read textContent).records := by
      rw [records]
      exact List.mem_cons_self ..
    exact Csv.lineNumber_readLines header
  have second := later record member
  omega

/-- A record that cannot be read is on none of the lines where a record ends. -/
theorem failure_later (opened : dataSection runtime content = .ok (headers,reading))
    {failure : Csv.Failure} (failed : reading.failure = some failure) :
    ∀ record ∈ reading.records, record.lineNumber < failure.lineNumber := by
  obtain ⟨textContent,rawHeaders,records,same⟩ := dataSection_eq_ok opened
  intro record member
  have listed : record ∈ (Csv.read textContent).records := by
    rw [records]
    exact List.mem_cons_of_mem _ member
  exact Csv.lineNumber_lt_failure (same.trans failed) listed

theorem headerIssues_unnumbered (runtime : Runtime) (headers : List Text) :
    ∀ issue ∈ headerIssues runtime headers, issue.rowNumber = none := by
  have guarded : ∀ (present : Bool) (issue : CatalogIssue), issue.rowNumber = none →
      ∀ other ∈ (if present then [issue] else []), other.rowNumber = none := by
    intro present issue unnumbered other member
    cases present with
    | false => cases member
    | true =>
        rw [List.mem_singleton.mp member]
        exact unnumbered
  have named : ∀ (code message evidence : String) (names : List Text),
      ∀ issue ∈ namedHeaders runtime code message evidence names, issue.rowNumber = none := by
    intro code message evidence names issue member
    unfold namedHeaders at member
    split at member
    · cases member
    · rw [List.mem_singleton.mp member]
      rfl
  intro issue member
  unfold headerIssues at member
  simp only [List.mem_append] at member
  rcases member with (((blank | duplicate) | missing) | unexpected) | unnamed
  · exact guarded _ _ rfl issue blank
  · exact named _ _ _ _ issue duplicate
  · exact named _ _ _ _ issue missing
  · exact named _ _ _ _ issue unexpected
  · exact guarded _ _ rfl issue unnamed

/-- A file without a data section has one issue, or those of its headers. -/
theorem dataSection_refused {issues : List CatalogIssue}
    (refused : dataSection runtime content = .error issues) :
    (∃ field code message evidence, issues = [fileIssue field code message evidence]) ∨
      issues ≠ [] ∧ ∃ headers, issues = headerIssues runtime headers := by
  unfold dataSection at refused
  split at refused
  · cases refused
    exact .inl ⟨_,_,_,_,rfl⟩
  · split at refused
    · cases refused
      exact .inl ⟨_,_,_,_,rfl⟩
    · cases decoded : Python.decodeUtf8Sig content with
      | error offset =>
          rw [decoded] at refused
          cases refused
          exact .inl ⟨_,_,_,_,rfl⟩
      | ok textContent =>
          rw [decoded] at refused
          dsimp only at refused
          split at refused
          · cases refused
            exact .inl ⟨_,_,_,_,rfl⟩
          · cases read : (Csv.read textContent).records with
            | nil =>
                rw [read] at refused
                cases failed : (Csv.read textContent).failure with
                | none =>
                    rw [failed] at refused
                    cases refused
                    exact .inl ⟨_,_,_,_,rfl⟩
                | some failure =>
                    rw [failed] at refused
                    cases refused
                    exact .inl ⟨_,_,_,_,rfl⟩
            | cons rawHeaders records =>
                rw [read] at refused
                dsimp only at refused
                split at refused
                · cases refused
                · rename_i found
                  cases refused
                  exact .inr ⟨found,_,rfl⟩

/-- The issues of a file without a data section have no row number. -/
theorem dataSection_unnumbered {issues : List CatalogIssue}
    (refused : dataSection runtime content = .error issues) :
    ∀ issue ∈ issues, issue.rowNumber = none := by
  rcases dataSection_refused refused with ⟨field,code,message,evidence,rfl⟩ | ⟨-,headers,rfl⟩
  · intro issue member
    rw [List.mem_singleton.mp member]
    rfl
  · exact headerIssues_unnumbered runtime headers

theorem dataSection_issues {issues : List CatalogIssue}
    (refused : dataSection runtime content = .error issues) : issues ≠ [] := by
  rcases dataSection_refused refused with ⟨field,code,message,evidence,rfl⟩ | ⟨found,-⟩
  · exact List.cons_ne_nil _ _
  · exact found

end Section

section Counting

def fileNumbers (issues : List CatalogIssue) : List ℕ := issues.filterMap CatalogIssue.rowNumber

theorem fileNumbers_of_unnumbered {issues : List CatalogIssue}
    (unnumbered : ∀ issue ∈ issues, issue.rowNumber = none) : fileNumbers issues = [] := by
  rw [fileNumbers,List.filterMap_eq_nil_iff]
  exact unnumbered

/-- Each row with an issue is counted once, and each number of the file's own issues. -/
theorem length_invalidRowNumbers {issues : List CatalogIssue} {rows : List ParsedCatalogRow}
    (numbered : ∀ row ∈ rows, row.Numbered)
    (distinct : (fileNumbers issues ++ rows.map ParsedCatalogRow.rowNumber).Nodup) :
    (invalidRowNumbers (allIssues issues rows)).length =
      (fileNumbers issues).length + rows.countP fun row => row.issues ≠ [] := by
  have listed : (rows.filter fun row => row.issues ≠ []).map ParsedCatalogRow.rowNumber |>.Sublist
      (rows.map ParsedCatalogRow.rowNumber) := List.filter_sublist.map _
  have counted : (invalidRowNumbers (allIssues issues rows)).Perm (fileNumbers issues ++
      (rows.filter fun row => row.issues ≠ []).map ParsedCatalogRow.rowNumber) := by
    refine (List.perm_ext_iff_of_nodup (List.nodup_dedup _)
      (distinct.sublist (List.Sublist.append_left listed _))).mpr ?_
    intro number
    rw [List.mem_dedup,allIssues,List.filterMap_append,List.mem_append,
      List.mem_append,fileNumbers]
    apply or_congr_right
    constructor
    · intro member
      obtain ⟨issue,found,has⟩ := List.mem_filterMap.mp member
      obtain ⟨row,stored,own⟩ := List.mem_flatMap.mp found
      rw [numbered row stored issue own] at has
      refine List.mem_map.mpr ⟨row,List.mem_filter.mpr ⟨stored,?_⟩,Option.some.inj has⟩
      exact decide_eq_true (List.ne_nil_of_mem own)
    · intro member
      obtain ⟨row,found,rfl⟩ := List.mem_map.mp member
      obtain ⟨stored,invalid⟩ := List.mem_filter.mp found
      obtain ⟨issue,own⟩ := List.exists_mem_of_ne_nil _ (of_decide_eq_true invalid)
      exact List.mem_filterMap.mpr
        ⟨issue,List.mem_flatMap.mpr ⟨row,stored,own⟩,numbered row stored issue own⟩
  rw [counted.length_eq,List.length_append,List.length_map,List.countP_eq_length_filter]

end Counting

section Parsed

variable (runtime : Runtime) (content : List UInt8)

/-- The reader raises no error after the header of an accepted file, or only after the row at which
the loop stops. -/
def ReadsCleanly : Prop :=
  ∀ headers reading, dataSection runtime content = .ok (headers,reading) →
    reading.failure = none ∨ maxCatalogRows < (dataRecords reading).length

theorem parsed_numbered : ∀ row ∈ (parseCatalogCsv runtime content).rows, row.Numbered := by
  unfold parseCatalogCsv
  cases dataSection runtime content with
  | error issues => simp
  | ok opened =>
      apply validateBatchConsistency_numbered
      intro row member
      obtain ⟨record,-,rfl⟩ := List.mem_map.mp member
      exact parseRow_numbered runtime opened.1 record

/-- The rows have the numbers of the records that they were read from. -/
theorem parsed_rowNumbers {headers : List Text} {reading : Csv.Reading}
    (opened : dataSection runtime content = .ok (headers,reading)) :
    (parseCatalogCsv runtime content).rows.map ParsedCatalogRow.rowNumber =
      ((dataRecords reading).take maxCatalogRows).map Csv.Record.lineNumber := by
  rw [parseCatalogCsv,opened]
  dsimp only
  rw [validateBatchConsistency_rowNumbers,List.map_map]
  apply List.map_congr_left
  intro record _
  exact parseRow_rowNumber runtime headers record

theorem parsed_from_second : ∀ row ∈ (parseCatalogCsv runtime content).rows, 2 ≤ row.rowNumber := by
  intro row member
  cases opened : dataSection runtime content with
  | error issues =>
      rw [parseCatalogCsv,opened] at member
      cases member
  | ok section_ =>
      have listed := List.mem_map_of_mem (f := ParsedCatalogRow.rowNumber) member
      rw [parsed_rowNumbers runtime content opened] at listed
      obtain ⟨record,place,same⟩ := List.mem_map.mp listed
      rw [← same]
      exact (dataRecords_increase opened).2 record
        (List.mem_of_mem_filter (List.mem_of_mem_take place))

/-- The issues of the file have a row number when a record could not be read, and only then. -/
theorem fileNumbers_parsed {headers : List Text} {reading : Csv.Reading}
    (opened : dataSection runtime content = .ok (headers,reading)) :
    fileNumbers (parseCatalogCsv runtime content).issues =
      if maxCatalogRows < (dataRecords reading).length then []
      else (reading.failure.map Csv.Failure.lineNumber).toList := by
  have none_numbered : ∀ (present : Prop) [Decidable present] (issues : List CatalogIssue),
      fileNumbers (if present ∧ issues = [] then
        [fileIssue "file" "no_data_rows" (text "Catalog CSV has no data rows.")] else issues) =
      fileNumbers issues := by
    intro present _ issues
    split
    · rename_i nothing
      rw [nothing.2]
      rfl
    · rfl
  rw [parseCatalogCsv,opened]
  dsimp only
  rw [none_numbered]
  unfold readingIssues
  split
  · rfl
  · cases reading.failure <;> rfl

theorem readsCleanly_iff :
    ReadsCleanly runtime content ↔ fileNumbers (parseCatalogCsv runtime content).issues = [] := by
  cases opened : dataSection runtime content with
  | error issues =>
      have refused : (parseCatalogCsv runtime content).issues = issues := by
        rw [parseCatalogCsv,opened]
      rw [refused,fileNumbers_of_unnumbered (dataSection_unnumbered opened)]
      refine iff_of_true ?_ rfl
      intro headers reading accepted
      rw [opened] at accepted
      cases accepted
  | ok section_ =>
      rw [fileNumbers_parsed runtime content opened]
      constructor
      · intro clean
        split
        · rfl
        · rename_i within
          rw [(clean _ _ opened).resolve_right within]
          rfl
      · intro unnumbered headers reading accepted
        rw [opened] at accepted
        cases accepted
        split at unnumbered
        · rename_i beyond
          exact .inr beyond
        · cases failed : reading.failure with
          | none => exact .inl rfl
          | some failure => simp [failed] at unnumbered

/-- No two rows have one number, and an issue of the file has that of no row. -/
theorem parsed_distinct :
    (fileNumbers (parseCatalogCsv runtime content).issues ++
      (parseCatalogCsv runtime content).rows.map ParsedCatalogRow.rowNumber).Nodup := by
  cases opened : dataSection runtime content with
  | error issues =>
      have refused : (parseCatalogCsv runtime content) = ⟨[],issues⟩ := by
        rw [parseCatalogCsv,opened]
      rw [refused,fileNumbers_of_unnumbered (dataSection_unnumbered opened)]
      exact .nil
  | ok section_ =>
      rw [fileNumbers_parsed runtime content opened,parsed_rowNumbers runtime content opened]
      have kept : ((dataRecords section_.2).take maxCatalogRows).Sublist section_.2.records :=
        (List.take_sublist _ _).trans List.filter_sublist
      have increase := (dataRecords_increase opened).1.sublist kept
      have rows : (((dataRecords section_.2).take maxCatalogRows).map Csv.Record.lineNumber).Nodup :=
        List.pairwise_map.mpr (increase.imp fun before => before.ne)
      split
      · exact rows
      · cases failed : section_.2.failure with
        | none => exact rows
        | some failure =>
            refine List.nodup_cons.mpr ⟨?_,rows⟩
            intro member
            obtain ⟨record,place,same⟩ := List.mem_map.mp member
            exact (failure_later opened failed record (kept.subset place)).ne same

end Parsed

section Verdict

/-- The import counts the parsed rows with and without issues, and has its verdict. -/
structure Staging.Reconciles (staging : Staging) (issues : List CatalogIssue)
    (rows : List ParsedCatalogRow) : Prop where
  total : staging.catalogImport.totalRows = rows.length
  valid : staging.catalogImport.validRows = rows.countP fun row => row.issues = []
  invalid : staging.catalogImport.invalidRows = rows.countP fun row => row.issues ≠ []
  nonnegative : 0 ≤ staging.catalogImport.validRows
  reconciled : staging.catalogImport.validRows + staging.catalogImport.invalidRows =
    staging.catalogImport.totalRows
  decided : staging.catalogImport.status = if allIssues issues rows = [] then .ready else .rejected
  recorded : staging.errors = (allIssues issues rows).map persistIssue

/-- No dump of a row raises, and a JSONB column can hold each of them. -/
def Storable (runtime : Runtime) (rows : List ParsedCatalogRow) : Prop :=
  ∀ row ∈ rows, ∀ data ∈ row.normalized,
    (data.modelDump runtime).any CatalogRowData.storable = true

instance (runtime : Runtime) (rows : List ParsedCatalogRow) : Decidable (Storable runtime rows) :=
  inferInstanceAs (Decidable (∀ row ∈ rows, _))

variable {runtime : Runtime} {tables : Tables} {catalogImport : CatalogImport}
  {issues : List CatalogIssue} {rows : List ParsedCatalogRow}

theorem dumped_iff : dumped runtime rows = true ↔
    ∀ row ∈ rows, ∀ data ∈ row.normalized, (data.modelDump runtime).isSome = true := by
  simp [dumped,Option.all_eq_true]

/-- A JSONB column can hold the dumps of the rows that there are. -/
def DumpsHeld (runtime : Runtime) (rows : List ParsedCatalogRow) : Prop :=
  ∀ row ∈ rows, ∀ data ∈ row.normalized, ∀ dump ∈ data.modelDump runtime, dump.storable = true

theorem storable_iff : Storable runtime rows ↔ dumped runtime rows = true ∧
    DumpsHeld runtime rows := by
  rw [dumped_iff]
  constructor
  · intro storable
    constructor
    · intro row member data normalized
      obtain ⟨dump,done,-⟩ := (Option.any_eq_true _ _).mp (storable row member data normalized)
      rw [done]
      rfl
    · intro row member data normalized dump done
      obtain ⟨other,same,held⟩ := (Option.any_eq_true _ _).mp (storable row member data normalized)
      rw [Option.mem_def.mp done] at same
      cases same
      exact held
  · rintro ⟨done,held⟩ row member data normalized
    obtain ⟨dump,dumped⟩ := Option.isSome_iff_exists.mp (done row member data normalized)
    rw [dumped]
    exact held row member data normalized dump dumped

theorem countP_issues (rows : List ParsedCatalogRow) :
    (rows.countP fun row => row.issues = []) + (rows.countP fun row => row.issues ≠ []) =
      rows.length := by
  have total : rows.length = _ :=
    List.length_eq_countP_add_countP fun row : ParsedCatalogRow => row.issues = []
  simpa using total.symm

theorem numbered_stage (distinct : (fileNumbers issues ++
      rows.map ParsedCatalogRow.rowNumber).Nodup)
    (second : ∀ row ∈ rows, 2 ≤ row.rowNumber) :
    numbered (stage runtime tables catalogImport issues rows).rows = true := by
  have numbers : (stage runtime tables catalogImport issues rows).rows.map
      CatalogImportRow.rowNumber =
      rows.map ParsedCatalogRow.rowNumber := by
    simp [stage,stageRow,Function.comp_def]
  rw [numbered,numbers,Bool.and_eq_true,decide_eq_true_eq,List.all_eq_true]
  refine ⟨(List.nodup_append.mp distinct).2.1,?_⟩
  intro row member
  obtain ⟨parsed,listed,rfl⟩ := List.mem_map.mp member
  exact decide_eq_true (second parsed listed)

theorem stage_held_iff (runtime : Runtime) (tables : Tables) (catalogImport : CatalogImport)
    (issues : List CatalogIssue) :
    ((stage runtime tables catalogImport issues rows).rows.any fun row =>
      row.normalizedData.any fun data => !data.storable) = false ↔ DumpsHeld runtime rows := by
  simp only [stage,List.any_map,List.any_eq_false,Function.comp_def,stageRow,Option.any_eq_true,
    not_exists]
  constructor
  · intro clean row member data normalized dump done
    have staged : row.normalized.bind (CatalogRowData.modelDump runtime) = some dump := by
      rw [Option.mem_def.mp normalized]
      exact done
    simpa [staged] using clean row member dump
  · rintro held row member dump ⟨staged,refused⟩
    obtain ⟨data,normalized,done⟩ := Option.bind_eq_some_iff.mp staged
    simp [held row member data normalized dump done] at refused

/-- The counters are those of the rows when no issue of the file has a row number. -/
theorem stage_reconciles (runtime : Runtime) (tables : Tables) (catalogImport : CatalogImport)
    (numbered : ∀ row ∈ rows, row.Numbered)
    (distinct : (fileNumbers issues ++ rows.map ParsedCatalogRow.rowNumber).Nodup)
    (unnumbered : fileNumbers issues = []) :
    (stage runtime tables catalogImport issues rows).Reconciles issues rows := by
  have invalid := length_invalidRowNumbers numbered distinct
  rw [unnumbered,List.length_nil,Nat.zero_add] at invalid
  have total := countP_issues rows
  refine ⟨rfl,?_,invalid,?_,?_,?_,rfl⟩
  · simp only [stage,invalid]
    omega
  · simp only [stage,invalid]
    omega
  · simp only [stage]
    omega
  · simp [stage,List.length_eq_zero_iff]

/-- A number of no row spoils the counters. -/
theorem fileNumbers_of_reconciles (numbered : ∀ row ∈ rows, row.Numbered)
    (distinct : (fileNumbers issues ++ rows.map ParsedCatalogRow.rowNumber).Nodup)
    (reconciles : (stage runtime tables catalogImport issues rows).Reconciles issues rows) :
    fileNumbers issues = [] := by
  have counted := reconciles.invalid
  have invalid := length_invalidRowNumbers numbered distinct
  simp only [stage,invalid] at counted
  exact List.length_eq_zero_iff.mp (by omega)

theorem Staging.Reconciles.isReconciled {staging : Staging}
    (reconciles : staging.Reconciles issues rows) :
    staging.catalogImport.reconciled = true := by
  simp [CatalogImport.reconciled,reconciles.nonnegative,reconciles.reconciled]

/-- A commit keeps what is staged, or refuses it. -/
theorem Staging.commit_eq_ok {staging committed : Staging}
    (done : staging.commit = .ok committed) : committed = staging := by
  unfold Staging.commit at done
  split at done
  · cases done
  · split at done
    · cases done
    · split at done
      · cases done
      · cases done
        rfl

/-- What is committed of an import that is validating: what was staged, once every row is dumped. -/
theorem validateAndStage_eq_ok {content : List UInt8} {staging : Staging}
    (validating : catalogImport.status = .validating) :
    validateAndStage runtime tables catalogImport content = .ok staging ↔
      dumped runtime ((parseCatalogCsv runtime content).rows.map
        (appendDatabaseConflicts tables)) = true ∧
      (stage runtime tables catalogImport (parseCatalogCsv runtime content).issues
        ((parseCatalogCsv runtime content).rows.map
          (appendDatabaseConflicts tables))).commit = .ok staging := by
  rw [validateAndStage,validating]
  dsimp only
  split
  · next done => simp [done]
  · next raised => simp [raised]

theorem storable_append (runtime : Runtime) (tables : Tables) (rows : List ParsedCatalogRow) :
    Storable runtime (rows.map (appendDatabaseConflicts tables)) ↔ Storable runtime rows := by
  simp [Storable,appendDatabaseConflicts_normalized]

/-- Staging reconciles its counters with the rows and reaches a verdict exactly for the files that
the reader reads cleanly and whose documents are dumped to what a JSONB column can hold. -/
theorem staging_reaches_verdict (runtime : Runtime) (tables : Tables)
    (catalogImport : CatalogImport) (content : List UInt8)
    (validating : catalogImport.status = .validating) :
    (∃ staging, validateAndStage runtime tables catalogImport content = .ok staging ∧
      staging.Reconciles (parseCatalogCsv runtime content).issues
        ((parseCatalogCsv runtime content).rows.map (appendDatabaseConflicts tables))) ↔
    ReadsCleanly runtime content ∧ Storable runtime (parseCatalogCsv runtime content).rows := by
  have numbers : ((parseCatalogCsv runtime content).rows.map
      (appendDatabaseConflicts tables)).map ParsedCatalogRow.rowNumber =
        (parseCatalogCsv runtime content).rows.map ParsedCatalogRow.rowNumber := by
    simp [appendDatabaseConflicts_rowNumber,Function.comp_def]
  have numbered : ∀ row ∈ (parseCatalogCsv runtime content).rows.map
      (appendDatabaseConflicts tables), row.Numbered := by
    intro row member
    obtain ⟨parsed,listed,rfl⟩ := List.mem_map.mp member
    exact appendDatabaseConflicts_numbered tables (parsed_numbered runtime content parsed listed)
  have second : ∀ row ∈ (parseCatalogCsv runtime content).rows.map
      (appendDatabaseConflicts tables), 2 ≤ row.rowNumber := by
    intro row member
    obtain ⟨parsed,listed,rfl⟩ := List.mem_map.mp member
    rw [appendDatabaseConflicts_rowNumber]
    exact parsed_from_second runtime content parsed listed
  have distinct := parsed_distinct runtime content
  rw [← numbers] at distinct
  rw [readsCleanly_iff,← storable_append runtime tables]
  constructor
  · rintro ⟨staging,staged,reconciles⟩
    obtain ⟨done,committed⟩ := (validateAndStage_eq_ok validating).mp staged
    have same := Staging.commit_eq_ok committed
    subst same
    refine ⟨fileNumbers_of_reconciles numbered distinct reconciles,?_⟩
    rw [storable_iff]
    refine ⟨done,?_⟩
    rw [← stage_held_iff runtime tables catalogImport (parseCatalogCsv runtime content).issues]
    unfold Staging.commit at committed
    split at committed
    · cases committed
    · rename_i held
      exact Bool.not_eq_true _ ▸ held
  · rintro ⟨unnumbered,storable⟩
    obtain ⟨done,held⟩ := storable_iff.mp storable
    have reconciles := stage_reconciles runtime tables catalogImport numbered distinct
      unnumbered
    refine ⟨_,(validateAndStage_eq_ok validating).mpr ⟨done,?_⟩,reconciles⟩
    rw [Staging.commit,if_neg,if_neg,if_neg]
    · simp [reconciles.isReconciled]
    · simp [numbered_stage distinct second]
    · simp [(stage_held_iff runtime tables catalogImport _).mpr held]

theorem staging_reaches_verdict_sample : ∃ staging,
    validateAndStage Sample.runtime {} Sample.fullImport Sample.readableFile = .ok staging ∧
      staging.Reconciles (parseCatalogCsv Sample.runtime Sample.readableFile).issues
        ((parseCatalogCsv Sample.runtime Sample.readableFile).rows.map
          (appendDatabaseConflicts {})) := by
  have validating : Sample.fullImport.status = .validating := rfl
  have clean : ReadsCleanly Sample.runtime Sample.readableFile :=
    (readsCleanly_iff _ _).mpr (by decide +kernel)
  have storable : Storable Sample.runtime
      (parseCatalogCsv Sample.runtime Sample.readableFile).rows := by decide +kernel
  exact (staging_reaches_verdict Sample.runtime {} Sample.fullImport Sample.readableFile
    validating).mpr ⟨clean,storable⟩

/-- A record that cannot be read counts as an invalid row without being a row: of no rows, one is
invalid and minus one are valid. -/
theorem malformed_record_spoils_verdict : ¬∃ staging,
    validateAndStage Sample.runtime {} Sample.fullImport Sample.malformedFile = .ok staging ∧
      staging.Reconciles (parseCatalogCsv Sample.runtime Sample.malformedFile).issues
        ((parseCatalogCsv Sample.runtime Sample.malformedFile).rows.map
          (appendDatabaseConflicts {})) := by
  rintro ⟨staging,committed,-⟩
  have refused : (validateAndStage Sample.runtime {} Sample.fullImport
      Sample.malformedFile).toOption.isSome = false := by decide +kernel
  rw [committed] at refused
  cases refused

end Verdict

end Abacus.Catalog
