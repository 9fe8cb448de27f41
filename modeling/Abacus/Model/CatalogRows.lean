import Abacus.Library.Json
import Abacus.Model.Basic

/-! Rows of a catalog file (`schemas/catalog.py`).
Unicode tables, the JSON decoder and the rendering of values belong to the interpreter, the dump of
a dictionary to the schema library, and what a JSONB column gives back to the database: they are
fields of `Runtime`.
-/
set_option autoImplicit false

namespace Abacus.Catalog

open Python (CodePoint Text text Json JsonObject)

inductive JsonError where
  | invalid (message : Text)
  | recursion
deriving DecidableEq

structure Runtime where
  upper : Text → Text
  lower : Text → Text
  isDigit : CodePoint → Bool
  /-- `int` of one character, or the message of its `ValueError`. -/
  int : CodePoint → Except Text ℕ
  /-- `json.loads` with the source's `parse_constant`, which refuses `NaN` and the infinities. -/
  loads : Text → Except JsonError Json
  /-- `str` of a value that is no string. -/
  repr : Json → Text
  /-- `model_dump(mode="json")` of a dictionary, unless it raises. -/
  modelDump : JsonObject → Option JsonObject
  /-- What a JSONB column gives back. -/
  jsonb : JsonObject → JsonObject

/-- A `String(limit)` value. -/
abbrev Column (limit : ℕ) := {value : Text // value.length ≤ limit}

def digits (number : ℕ) : Text := text (toString number)

def productCodeStart (character : CodePoint) : Bool :=
  (65 ≤ character && character ≤ 90) || (48 ≤ character && character ≤ 57)

/-- `PRODUCT_CODE_PATTERN.fullmatch`. -/
def isProductCode : Text → Bool
  | [] => false
  | first :: rest =>
      productCodeStart first &&
        rest.all fun character => productCodeStart character || (text "._-").contains character

def normalizeProductCode (runtime : Runtime) (value fieldName : Text) (maxLength : ℕ) :
    Except Text (Column maxLength) :=
  let normalized := runtime.upper value.strip
  if normalized = [] then .error (fieldName ++ text " is required")
  else if bound : normalized.length ≤ maxLength then
    if isProductCode normalized then .ok ⟨normalized,bound⟩
    else .error (fieldName ++
      text " may contain only letters, digits, periods, underscores, and hyphens")
  else .error (fieldName ++ text " must be at most " ++ digits maxLength ++ text " characters")

def removeSpacesAnd (separators : Text) (value : Text) : Text :=
  value.filter fun character => !(Text.isSpace character || separators.contains character)

/-- Weights three and one in turn, from the last digit of the payload on. -/
def gtinSum (runtime : Runtime) (weight : ℕ) : Text → Except Text ℕ
  | [] => .ok 0
  | digit :: rest =>
      (runtime.int digit).bind fun value =>
        (gtinSum runtime (4 - weight) rest).map fun others => value * weight + others

def gtinLengths : List ℕ := [8,12,13,14]

theorem gtinLengths_le {length : ℕ} (member : length ∈ gtinLengths) : length ≤ 14 := by
  simp only [gtinLengths,List.mem_cons,List.not_mem_nil,or_false] at member
  omega

def normalizeUpc (runtime : Runtime) (value : Text) : Except Text (Column 14) :=
  let normalized := removeSpacesAnd (text "-") value
  if gtin : normalized.all runtime.isDigit ∧ normalized.length ∈ gtinLengths then
    (gtinSum runtime 3 normalized.dropLast.reverse).bind fun sum =>
      (runtime.int (normalized.getLastD 0)).bind fun check =>
        if check = (10 - sum % 10) % 10 then .ok ⟨normalized,gtinLengths_le gtin.2⟩
        else .error (text "upc has an invalid GTIN check digit")
  else .error (text "upc must be a valid 8, 12, 13, or 14 digit GTIN")

def lowerOrDigit (character : CodePoint) : Bool :=
  (97 ≤ character && character ≤ 122) || (48 ≤ character && character ≤ 57)

/-- What `EPC_URI_PATTERN` allows after `urn:epc:id:` or `urn:epc:tag:`. -/
def isEpcScheme (value : Text) : Bool :=
  let scheme := value.takeWhile fun character => lowerOrDigit character || character = 45
  let rest := value.dropWhile fun character => lowerOrDigit character || character = 45
  match rest with
  | 58 :: identity =>
      !scheme.isEmpty && !identity.isEmpty &&
        identity.all fun character => lowerOrDigit character || (text ".*%_-").contains character
  | _ => false

/-- `EPC_URI_PATTERN.fullmatch`. -/
def isEpcUri (value : Text) : Bool :=
  [text "urn:epc:id:",text "urn:epc:tag:"].any fun start =>
    Text.isPrefixOf start value && isEpcScheme (value.drop start.length)

def isHexadecimal (character : CodePoint) : Bool :=
  (48 ≤ character && character ≤ 57) || (65 ≤ character && character ≤ 70)

theorem hexadecimal_bound {value : Text} (bounded : value.length ≤ 64) : value.length ≤ 128 :=
  bounded.trans (Nat.le_of_ble_eq_true rfl)

def normalizeEpc (runtime : Runtime) (value : Text) : Except Text (Column 128) :=
  let stripped := value.strip
  if stripped = [] then .error (text "epc is required")
  else if Text.isPrefixOf (text "urn:epc:") (runtime.lower stripped) then
    let normalizedUri := runtime.lower stripped
    if bound : normalizedUri.length ≤ 128 then
      if isEpcUri normalizedUri then .ok ⟨normalizedUri,bound⟩
      else .error (text "epc must be a valid EPC URI or hexadecimal EPC")
    else .error (text "epc must be a valid EPC URI or hexadecimal EPC")
  else
    let withoutPrefix :=
      if Text.isPrefixOf (text "0x") (runtime.lower stripped) then stripped.drop 2 else stripped
    let normalizedHex := runtime.upper (removeSpacesAnd (text ":-") withoutPrefix)
    if bound : normalizedHex.length ≤ 64 then
      if 16 ≤ normalizedHex.length ∧ normalizedHex.length % 2 = 0 ∧
          normalizedHex.all isHexadecimal then
        .ok ⟨normalizedHex,hexadecimal_bound bound⟩
      else .error (text "epc must be 16 to 64 hexadecimal characters with an even length")
    else .error (text "epc must be 16 to 64 hexadecimal characters with an even length")

/-- `_normalize_label`. -/
def normalizeLabel (value fieldName : Text) (maxLength : ℕ) : Except Text (Column maxLength) :=
  let normalized := List.intercalate (text " ") value.strip.words
  if normalized = [] then .error (fieldName ++ text " is required")
  else if bound : normalized.length ≤ maxLength then .ok ⟨normalized,bound⟩
  else .error (fieldName ++ text " must be at most " ++ digits maxLength ++ text " characters")

/-- A row that passed its schema: its texts are within the bounds of their validators. -/
structure CatalogRowData where
  styleCode : Text
  styleName : Text
  sku : Text
  upc : Text
  color : Text
  size : Text
  epc : Text
  styleAttributes : JsonObject
  attributes : JsonObject
  styleCodeBound : styleCode.length ≤ 64
  styleNameBound : styleName.length ≤ 255
  skuBound : sku.length ≤ 128
  upcBound : upc.length ≤ 14
  colorBound : color.length ≤ 128
  sizeBound : size.length ≤ 64
  epcBound : epc.length ≤ 128

structure Candidate where
  styleCode : Text
  styleName : Text
  sku : Text
  upc : Text
  color : Text
  size : Text
  epc : Text
  styleAttributes : JsonObject
  attributes : JsonObject

structure FieldError where
  field : Text
  message : Text

def fieldErrors {α : Type} (field : Text) : Except Text α → List FieldError
  | .ok _ => []
  | .error message => [⟨field,text "Value error, " ++ message⟩]

/-- `CatalogRowData.model_validate`: every field is validated, and every failure is reported. -/
def modelValidate (runtime : Runtime) (candidate : Candidate) :
    Except (List FieldError) CatalogRowData :=
  let styleCode := normalizeProductCode runtime candidate.styleCode (text "style_code") 64
  let styleName := normalizeLabel candidate.styleName (text "style_name") 255
  let sku := normalizeProductCode runtime candidate.sku (text "sku") 128
  let upc := normalizeUpc runtime candidate.upc
  let color := normalizeLabel candidate.color (text "color") 128
  let size := normalizeLabel candidate.size (text "size") 64
  let epc := normalizeEpc runtime candidate.epc
  match styleCode, styleName, sku, upc, color, size, epc with
  | .ok styleCode, .ok styleName, .ok sku, .ok upc, .ok color, .ok size, .ok epc =>
      .ok {
        styleCode := styleCode, styleName := styleName, sku := sku, upc := upc, color := color,
        size := size, epc := epc, styleAttributes := candidate.styleAttributes,
        attributes := candidate.attributes, styleCodeBound := styleCode.2,
        styleNameBound := styleName.2, skuBound := sku.2, upcBound := upc.2,
        colorBound := color.2, sizeBound := size.2, epcBound := epc.2 }
  | styleCode, styleName, sku, upc, color, size, epc =>
      .error (fieldErrors (text "style_code") styleCode ++
        fieldErrors (text "style_name") styleName ++ fieldErrors (text "sku") sku ++
        fieldErrors (text "upc") upc ++ fieldErrors (text "color") color ++
        fieldErrors (text "size") size ++ fieldErrors (text "epc") epc)

end Abacus.Catalog
