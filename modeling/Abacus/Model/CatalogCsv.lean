import Abacus.Library.Csv
import Abacus.Library.OrderedDict
import Abacus.Model.CatalogRows

/-! Parsing of a catalog file (`parse_catalog_csv` in `services/catalog.py`).
A record of the reader becomes a row with its issues. Issues of the file have no row
number, except the one of a record that the reader could not read.
-/
set_option autoImplicit false

namespace Abacus.Catalog

open Relational (OrderedDict Table)
open Python (CodePoint Text text Json JsonObject)

def maxCatalogFileBytes : ℕ := 10 * 1024 * 1024

def maxCatalogRows : ℕ := 100000

def maxAttributeBytes : ℕ := 16384

def maxAttributeJsonDepth : ℕ := 64

def requiredHeaders : List Text :=
  ["style_code","style_name","sku","upc","color","size","epc"].map text

def optionalHeaders : List Text := ["attributes","style_attributes"].map text

def attributePrefix : Text := text "attr."

structure CatalogIssue where
  rowNumber : Option ℕ
  field : Option Text
  code : Text
  message : Text
  rejectedValue : Option (Column 500) := none
  evidence : JsonObject := []

/-- The cells of a row under their headers, and the cells that no header is for. -/
structure RawData where
  cells : List (Text × Text)
  extraColumns : List Text := []

/-- `raw_data.get(field)`. -/
def RawData.get? (rawData : RawData) (field : Text) : Option Text := rawData.cells.lookup field

/-- `raw_data.get(field, "")`, also for a header that every file has. -/
def RawData.get (rawData : RawData) (field : Text) : Text := (rawData.get? field).getD []

structure ParsedCatalogRow where
  rowNumber : ℕ
  rawData : RawData
  normalized : Option CatalogRowData := none
  issues : List CatalogIssue := []

structure CatalogParseResult where
  rows : List ParsedCatalogRow
  issues : List CatalogIssue

def jsonNumber (number : ℕ) : Json := .scalar (.number .integer number)

def jsonText (value : Text) : Json := .scalar (.string value)

def jsonTexts (values : List Text) : Json := .array (values.map jsonText)

theorem shortened_bound (value : Text) : (value.take 497 ++ text "...").length ≤ 500 := by
  have dots : (text "...").length = 3 := rfl
  rw [List.length_append,List.length_take,dots]
  omega

/-- `_safe_value` of a text. -/
def safeValue (value : Text) : Column 500 :=
  if bound : value.length ≤ 500 then ⟨value,bound⟩
  else ⟨value.take 497 ++ text "...",shortened_bound value⟩

section Attributes

def tooDeep (fieldName : Text) : Text :=
  fieldName ++ text " must not exceed " ++ digits maxAttributeJsonDepth ++
    text " nested JSON levels"

mutual

/-- `_validate_json_value`: what was put on the stack last is looked at first. -/
def validateJsonValue (fieldName : Text) (depth : ℕ) : Json → Except Text Unit
  | .scalar value =>
      if maxAttributeJsonDepth < depth then .error (tooDeep fieldName)
      else
        match value with
        | .infinity _ => .error (text "non-finite JSON number is not allowed")
        | _ => .ok ()
  | .array elements =>
      if maxAttributeJsonDepth < depth then .error (tooDeep fieldName)
      else validateElements fieldName (depth + 1) elements
  | .object members =>
      if maxAttributeJsonDepth < depth then .error (tooDeep fieldName)
      else validateMembers fieldName (depth + 1) members

def validateElements (fieldName : Text) (depth : ℕ) : List Json → Except Text Unit
  | [] => .ok ()
  | element :: elements =>
      match validateElements fieldName depth elements with
      | .error message => .error message
      | .ok _ => validateJsonValue fieldName depth element

def validateMembers (fieldName : Text) (depth : ℕ) : List (Text × Json) → Except Text Unit
  | [] => .ok ()
  | (_,value) :: members =>
      match validateMembers fieldName depth members with
      | .error message => .error message
      | .ok _ => validateJsonValue fieldName depth value

end

def parseAttributes (runtime : Runtime) (value fieldName : Text) : Except Text JsonObject :=
  let attributesValue := value.strip
  if attributesValue = [] then .ok []
  else if maxAttributeBytes < (attributesValue.map Text.utf8Size).sum then
    .error (fieldName ++ text " must be at most " ++ digits maxAttributeBytes ++
      text " UTF-8 bytes")
  else
    match runtime.loads attributesValue with
    | .error .recursion => .error (tooDeep fieldName)
    | .error (.invalid message) => .error message
    | .ok (.object members) =>
        (validateJsonValue fieldName 0 (.object members)).map fun _ => members
    | .ok _ => .error (fieldName ++ text " must contain a JSON object")

/-- `attributes[name] = value`. -/
def setMember (members : JsonObject) (name : Text) (value : Json) : JsonObject :=
  if members.any fun member => member.1 = name then
    members.map fun member => if member.1 = name then (name,value) else member
  else members ++ [(name,value)]

def addAttributeColumn (rawData : RawData) (attributes : JsonObject) (header : Text) :
    Except Text JsonObject :=
  let value := (rawData.get header).strip
  if value = [] then .ok attributes
  else
    let attributeName := header.drop attributePrefix.length
    if (attributes.lookup attributeName).any fun stored =>
        stored.asPython ≠ (jsonText value).asPython then
      .error (text "attribute '" ++ attributeName ++
        text "' is defined differently in attributes and " ++ header)
    else .ok (setMember attributes attributeName (jsonText value))

/-- `_canonical_attributes`. -/
def canonicalAttributes (runtime : Runtime) (rawData : RawData) (attributeHeaders : List Text) :
    Except Text JsonObject :=
  (parseAttributes runtime (rawData.get (text "attributes")) (text "attributes")).bind
    fun attributes => attributeHeaders.foldlM (addAttributeColumn rawData) attributes

end Attributes

section Headers

def sorted (values : List Text) : List Text := values.insertionSort fun left right => left ≤ right

def fileIssue (field code : String) (message : Text) (evidence : JsonObject := []) :
    CatalogIssue where
  rowNumber := none
  field := some (text field)
  code := text code
  message := message
  evidence := evidence

def namedHeaders (runtime : Runtime) (code message evidence : String) (names : List Text) :
    List CatalogIssue :=
  if names = [] then []
  else [fileIssue "header" code (text message ++ runtime.repr (jsonTexts names))
    [(text evidence,jsonTexts names)]]

def headerIssues (runtime : Runtime) (headers : List Text) : List CatalogIssue :=
  let duplicates := sorted (headers.filter fun header => 1 < headers.count header).dedup
  let missing := sorted (requiredHeaders.filter fun header => header ∉ headers)
  let unexpected := sorted (headers.filter fun header =>
    header ∉ requiredHeaders && header ∉ optionalHeaders &&
      !Text.isPrefixOf attributePrefix header)
  (if headers.any fun header => header = [] then
    [fileIssue "header" "blank_header" (text "CSV headers cannot be blank.")] else []) ++
  namedHeaders runtime "duplicate_header" "CSV headers must be unique: " "duplicates" duplicates ++
  namedHeaders runtime "missing_header" "Required CSV headers are missing: " "missing" missing ++
  namedHeaders runtime "unexpected_header" "Unsupported CSV headers: " "unexpected" unexpected ++
  (if headers.any fun header => header = attributePrefix then
    [fileIssue "header" "invalid_attribute_header"
      (text "Attribute columns must use attr.<name>.")] else [])

def dataSection (runtime : Runtime) (content : List UInt8) :
    Except (List CatalogIssue) (List Text × Csv.Reading) :=
  if maxCatalogFileBytes < content.length then
    .error [fileIssue "file" "file_too_large"
      (text "Catalog CSV must not exceed " ++ digits maxCatalogFileBytes ++ text " bytes.")
      [(text "received_bytes",jsonNumber content.length)]]
  else if content = [] then
    .error [fileIssue "file" "empty_file" (text "Catalog CSV cannot be empty.")]
  else
    match Python.decodeUtf8Sig content with
    | .error offset =>
        .error [fileIssue "file" "invalid_encoding" (text "Catalog CSV must use UTF-8 encoding.")
          [(text "byte_offset",jsonNumber offset)]]
    | .ok textContent =>
        if textContent.contains 0 then
          .error [fileIssue "file" "invalid_character" (text "Catalog CSV contains a null byte.")]
        else
          let reading := Csv.read textContent
          match reading.records, reading.failure with
          | [], none =>
              .error [fileIssue "file" "empty_file" (text "Catalog CSV cannot be empty.")]
          | [], some failure => .error [fileIssue "file" "malformed_csv" failure.message]
          | rawHeaders :: records, failure =>
              let headers := rawHeaders.values.map fun header => runtime.lower header.strip
              match headerIssues runtime headers with
              | [] => .ok (headers,⟨records,failure⟩)
              | issues => .error issues

end Headers

section Rows

def rowIssue (rowNumber : ℕ) (field code : String) (message : Text) (rejected : Option Text)
    (evidence : JsonObject := []) : CatalogIssue where
  rowNumber := some rowNumber
  field := some (text field)
  code := text code
  message := message
  rejectedValue := rejected.map safeValue
  evidence := evidence

/-- `_validation_issues`. -/
def validationIssues (rowNumber : ℕ) (rawData : RawData) (errors : List FieldError) :
    List CatalogIssue :=
  errors.map fun error =>
    { rowNumber := some rowNumber, field := some error.field, code := text "invalid_field",
      message := error.message, rejectedValue := (rawData.get? error.field).map safeValue }

def candidate (rawData : RawData) (styleAttributes attributes : JsonObject) : Candidate where
  styleCode := rawData.get (text "style_code")
  styleName := rawData.get (text "style_name")
  sku := rawData.get (text "sku")
  upc := rawData.get (text "upc")
  color := rawData.get (text "color")
  size := rawData.get (text "size")
  epc := rawData.get (text "epc")
  styleAttributes := styleAttributes
  attributes := attributes

def cellsOf (headers values : List Text) : List (Text × Text) :=
  headers.zipIdx.map fun header => (header.1,values.getD header.2 [])

def parseRow (runtime : Runtime) (headers : List Text) (record : Csv.Record) : ParsedCatalogRow :=
  let rowNumber := record.lineNumber
  let values := record.values
  let rawData : RawData := ⟨cellsOf headers values,values.drop headers.length⟩
  let refused := fun issues => { rowNumber := rowNumber, rawData := rawData, issues := issues }
  if values.length ≠ headers.length then
    refused [rowIssue rowNumber "row" "column_count_mismatch"
      (text "Expected " ++ digits headers.length ++ text " columns but received " ++
        digits values.length ++ text ".") none
      [(text "expected",jsonNumber headers.length),(text "received",jsonNumber values.length)]]
  else
    match canonicalAttributes runtime rawData
        (headers.filter fun header => Text.isPrefixOf attributePrefix header) with
    | .error message =>
        refused [rowIssue rowNumber "attributes" "invalid_attributes" message
          (rawData.get? (text "attributes"))]
    | .ok attributes =>
        match parseAttributes runtime (rawData.get (text "style_attributes"))
            (text "style_attributes") with
        | .error message =>
            refused [rowIssue rowNumber "style_attributes" "invalid_style_attributes" message
              (rawData.get? (text "style_attributes"))]
        | .ok styleAttributes =>
            match modelValidate runtime (candidate rawData styleAttributes attributes) with
            | .error errors => refused (validationIssues rowNumber rawData errors)
            | .ok data => { rowNumber := rowNumber, rawData := rawData, normalized := some data }

def blank (record : Csv.Record) : Bool := record.values.all fun value => value.strip = []

def dataRecords (reading : Csv.Reading) : List Csv.Record :=
  reading.records.filter fun record => !blank record

/-- The issues of the file after its header: of too many rows, at which the loop stops, or of a
record that cannot be read. -/
def readingIssues (reading : Csv.Reading) : List CatalogIssue :=
  if maxCatalogRows < (dataRecords reading).length then
    [fileIssue "file" "too_many_rows"
      (text "Catalog CSV must not exceed " ++ digits maxCatalogRows ++ text " data rows.")]
  else
    match reading.failure with
    | some failure => [rowIssue failure.lineNumber "row" "malformed_csv" failure.message none]
    | none => []

end Rows

section Consistency

/-- `(data.style_name, style_attributes_json)`. -/
def CatalogRowData.styleSignature (data : CatalogRowData) : Text × Json :=
  (data.styleName,(Json.object data.styleAttributes).dumps)

/-- `(data.style_code, data.upc, data.color, data.size, attributes_json)`. -/
def CatalogRowData.skuSignature (data : CatalogRowData) : Text × Text × Text × Text × Json :=
  (data.styleCode,data.upc,data.color,data.size,(Json.object data.attributes).dumps)

/-- What the rows before defined, and at which row. -/
structure Seen where
  styles : OrderedDict Text (ℕ × Text × Json) := Table.empty
  skus : OrderedDict Text (ℕ × Text × Text × Text × Text × Json) := Table.empty
  upcs : OrderedDict Text (ℕ × Text) := Table.empty
  epcs : OrderedDict Text (ℕ × Text) := Table.empty

/-- `setdefault`, or the row of the first definition when that was a different one. -/
def define {Signature : Type} [DecidableEq Signature] (seen : OrderedDict Text (ℕ × Signature))
    (key : Text) (rowNumber : ℕ) (signature : Signature) :
    OrderedDict Text (ℕ × Signature) × Option ℕ :=
  match seen.get? key with
  | some prior => if prior.2 ≠ signature then (seen,some prior.1) else (seen,none)
  | none => (seen.set key (rowNumber,signature),none)

/-- `_add_conflict`. -/
def conflict (row : ParsedCatalogRow) (fieldName code : String) (message : Text) (firstRow : ℕ) :
    CatalogIssue :=
  rowIssue row.rowNumber fieldName code message (row.rawData.get? (text fieldName))
    [(text "first_seen_at_row",jsonNumber firstRow)]

def epcConflict (row : ParsedCatalogRow) (data : CatalogRowData) (prior : ℕ × Text) :
    CatalogIssue :=
  if prior.2 = data.sku then
    conflict row "epc" "duplicate_epc"
      (text "EPC " ++ data.epc ++ text " is duplicated in this import.") prior.1
  else
    conflict row "epc" "epc_conflict"
      (text "EPC " ++ data.epc ++ text " maps to more than one SKU in this import.") prior.1

def checkRow (seen : Seen) (row : ParsedCatalogRow) : Seen × ParsedCatalogRow :=
  match row.normalized with
  | none => (seen,row)
  | some data =>
      let style := define seen.styles data.styleCode row.rowNumber data.styleSignature
      let sku := define seen.skus data.sku row.rowNumber data.skuSignature
      let upc := define seen.upcs data.upc row.rowNumber data.sku
      let epc := seen.epcs.get? data.epc
      ({ styles := style.1, skus := sku.1, upcs := upc.1,
         epcs := if epc.isSome then seen.epcs else seen.epcs.set data.epc (row.rowNumber,data.sku) },
       { row with issues := row.issues ++
          (style.2.toList.map (conflict row "style_code" "style_definition_conflict"
            (text "Style " ++ data.styleCode ++
              text " has conflicting definitions in this import."))) ++
          (sku.2.toList.map (conflict row "sku" "sku_definition_conflict"
            (text "SKU " ++ data.sku ++ text " has conflicting definitions in this import."))) ++
          (upc.2.toList.map (conflict row "upc" "upc_conflict"
            (text "UPC " ++ data.upc ++ text " maps to more than one SKU in this import."))) ++
          epc.toList.map (epcConflict row data) })

/-- `_validate_batch_consistency`. -/
def validateBatchConsistency (seen : Seen) : List ParsedCatalogRow → List ParsedCatalogRow
  | [] => []
  | row :: rows =>
      (checkRow seen row).2 :: validateBatchConsistency (checkRow seen row).1 rows

end Consistency

/-- `parse_catalog_csv`. -/
def parseCatalogCsv (runtime : Runtime) (content : List UInt8) : CatalogParseResult :=
  match dataSection runtime content with
  | .error issues => ⟨[],issues⟩
  | .ok (headers,reading) =>
      let rows := ((dataRecords reading).take maxCatalogRows).map (parseRow runtime headers)
      let issues := readingIssues reading
      { rows := validateBatchConsistency {} rows,
        issues := if rows = [] ∧ issues = [] then
            [fileIssue "file" "no_data_rows" (text "Catalog CSV has no data rows.")]
          else issues }

end Abacus.Catalog
