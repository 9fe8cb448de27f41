import Abacus.Model.Catalog
import Abacus.Model.CatalogCsv

/-! Validation and staging of an accepted source (`services/catalog.py`).
The rows, the issues and the counters of the import are committed together, so that a
constraint of any of them rolls all of them back.
-/
set_option autoImplicit false

namespace Abacus.Catalog

open Relational (Table OrderedDict)
open Python (Text text Json JsonObject)

inductive CatalogRowStatus where
  | valid
  | invalid
deriving DecidableEq, Repr

inductive CatalogRowAction where
  | insert
  | update
  | unchanged
deriving DecidableEq, Repr

structure CatalogImportRow where
  rowNumber : ℕ
  rawData : RawData
  normalizedData : Option CatalogRowData
  status : CatalogRowStatus
  action : Option CatalogRowAction

structure CatalogImportError where
  rowNumber : Option ℕ
  field : Option Text
  code : Text
  message : Text
  rejectedValue : Option (Column 500)
  evidence : JsonObject

/-- The issues of a row that the stored catalog is in the way of. -/
def databaseConflicts (tables : Tables) (row : ParsedCatalogRow) (data : CatalogRowData) :
    List CatalogIssue :=
  ((tables.skuByUpc data.upc).filter fun owner => owner.code ≠ data.sku).toList.map (fun owner =>
    rowIssue row.rowNumber "upc" "existing_upc_conflict"
      (text "UPC " ++ data.upc ++ text " already belongs to SKU " ++ owner.code ++ text ".")
      (some data.upc) [(text "existing_sku",jsonText owner.code)]) ++
  (((tables.skus.find? data.sku).bind fun existing =>
      tables.styleById existing.productStyleId).filter fun existingStyle =>
        existingStyle.code ≠ data.styleCode).toList.map fun existingStyle =>
    rowIssue row.rowNumber "sku" "existing_sku_style_conflict"
      (text "SKU " ++ data.sku ++ text " cannot be moved to another style.")
      (some data.sku) [(text "existing_style",jsonText existingStyle.code)]

def appendDatabaseConflicts (tables : Tables) (row : ParsedCatalogRow) : ParsedCatalogRow :=
  match row.normalized with
  | none => row
  | some data =>
      if row.issues = [] then { row with issues := databaseConflicts tables row data } else row

def ParsedCatalogRow.validData (row : ParsedCatalogRow) : Option CatalogRowData :=
  if row.issues = [] then row.normalized else none

/-- `_normalized_rows`. -/
def normalizedRows (rows : List ParsedCatalogRow) : List CatalogRowData :=
  rows.filterMap ParsedCatalogRow.validData

def rowAction (tables : Tables) (data : CatalogRowData) : CatalogRowAction :=
  match tables.styles.find? data.styleCode, tables.skus.find? data.sku,
      tables.openBinding data.epc with
  | some style, some sku, some binding =>
      if styleChanged style data || (tables.styleById sku.productStyleId).isNone ||
          skuChanged sku style data ||
          (tables.skuById binding.skuId).all fun boundSku => boundSku.code ≠ data.sku then
        .update
      else .unchanged
  | _, _, _ => .insert

/-- `_row_actions`. -/
def rowActions (tables : Tables) (rows : List CatalogRowData) : OrderedDict Text CatalogRowAction :=
  rows.foldl (fun actions data => actions.set data.epc (rowAction tables data)) Table.empty

/-- `model_dump(mode="json")` of a row, which has its texts as they are. -/
def CatalogRowData.modelDump (runtime : Runtime) (data : CatalogRowData) : Option CatalogRowData :=
  (runtime.modelDump data.styleAttributes).bind fun styleAttributes =>
    (runtime.modelDump data.attributes).map fun attributes =>
      { data with styleAttributes := styleAttributes, attributes := attributes }

def stageRow (runtime : Runtime) (actions : OrderedDict Text CatalogRowAction)
    (row : ParsedCatalogRow) : CatalogImportRow where
  rowNumber := row.rowNumber
  rawData := row.rawData
  normalizedData := row.normalized.bind (CatalogRowData.modelDump runtime)
  status := if row.issues = [] then .valid else .invalid
  action := row.validData.bind fun data => actions.get? data.epc

/-- `_persist_issue`. -/
def persistIssue (issue : CatalogIssue) : CatalogImportError where
  rowNumber := issue.rowNumber
  field := issue.field
  code := issue.code
  message := issue.message.take 500
  rejectedValue := issue.rejectedValue
  evidence := issue.evidence

structure Staging where
  catalogImport : CatalogImport
  rows : List CatalogImportRow
  errors : List CatalogImportError

def Staging.validRows (staging : Staging) : List CatalogRowData :=
  (staging.rows.filter fun row => row.status = .valid).filterMap CatalogImportRow.normalizedData

/-- A staged row as a promotion reads it back: its texts pass their validators as they are. -/
def CatalogRowData.readBack (runtime : Runtime) (data : CatalogRowData) : CatalogRowData :=
  { data with
    styleAttributes := runtime.jsonb data.styleAttributes
    attributes := runtime.jsonb data.attributes }

def Staging.readRows (runtime : Runtime) (staging : Staging) : List CatalogRowData :=
  staging.validRows.map (CatalogRowData.readBack runtime)

def allIssues (issues : List CatalogIssue) (rows : List ParsedCatalogRow) : List CatalogIssue :=
  issues ++ rows.flatMap ParsedCatalogRow.issues

/-- `len({issue.row_number for issue in all_issues if issue.row_number is not None})`. -/
def invalidRowNumbers (issues : List CatalogIssue) : List ℕ :=
  (issues.filterMap CatalogIssue.rowNumber).dedup

def dumped (runtime : Runtime) (rows : List ParsedCatalogRow) : Bool :=
  rows.all fun row => row.normalized.all fun data => (data.modelDump runtime).isSome

def stage (runtime : Runtime) (tables : Tables) (catalogImport : CatalogImport)
    (fileIssues : List CatalogIssue) (rows : List ParsedCatalogRow) : Staging :=
  let data := normalizedRows rows
  let issues := allIssues fileIssues rows
  let invalid := (invalidRowNumbers issues).length
  { rows := rows.map (stageRow runtime (rowActions tables data))
    errors := issues.map persistIssue
    catalogImport := { catalogImport with
      totalRows := rows.length
      invalidRows := invalid
      validRows := rows.length - invalid
      reconciliation := {
        validation := some ⟨rows.length,rows.length - invalid,invalid,issues.length⟩
        preview := if issues.length = 0 then
          some (buildPreview catalogImport.mode data tables) else none }
      status := if issues.length = 0 then .ready else .rejected } }

/-- The check constraints of `catalog_imports` on the counters of its rows. -/
def CatalogImport.reconciled (catalogImport : CatalogImport) : Bool :=
  0 ≤ catalogImport.validRows &&
    catalogImport.validRows + catalogImport.invalidRows = catalogImport.totalRows

def CatalogRowData.storable (data : CatalogRowData) : Bool :=
  (Json.object data.styleAttributes).storable && (Json.object data.attributes).storable

/-- The unique and the check constraint of `catalog_import_rows`. -/
def numbered (rows : List CatalogImportRow) : Bool :=
  (rows.map CatalogImportRow.rowNumber).Nodup && rows.all fun row => 2 ≤ row.rowNumber

inductive StagingFailure where
  | notValidatable (status : CatalogImportStatus)
  | serializationError
  | dataError
  | integrityError (constraint : String)
deriving DecidableEq, Repr

def Staging.commit (staging : Staging) : Except StagingFailure Staging :=
  if staging.rows.any fun row => row.normalizedData.any fun data => !data.storable then
    .error .dataError
  else if !numbered staging.rows then .error (.integrityError "catalog_import_rows")
  else if !staging.catalogImport.reconciled then .error (.integrityError "catalog_imports")
  else .ok staging

/-- `validate_and_stage_catalog_import` of an import with its source. -/
def validateAndStage (runtime : Runtime) (tables : Tables) (catalogImport : CatalogImport)
    (content : List UInt8) : Except StagingFailure Staging :=
  match catalogImport.status with
  | .ready | .completed | .rejected | .failed => .ok ⟨catalogImport,[],[]⟩
  | .processing => .error (.notValidatable .processing)
  | .validating =>
      let parsed := parseCatalogCsv runtime content
      let rows := parsed.rows.map (appendDatabaseConflicts tables)
      if dumped runtime rows then (stage runtime tables catalogImport parsed.issues rows).commit
      else .error .serializationError

end Abacus.Catalog
