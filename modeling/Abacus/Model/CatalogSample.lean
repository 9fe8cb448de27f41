import Abacus.Model.CatalogStaging

/-! A small catalog: files of one style, and an interpreter that knows ASCII and hardly any JSON.
The rows of a shirt are validated here, so that its style can have any attributes.
-/
set_option autoImplicit false

namespace Abacus.Catalog.Sample

open Python (CodePoint Text text Json JsonObject)

def upper (character : CodePoint) : CodePoint :=
  if 97 ≤ character ∧ character ≤ 122 then character - 32 else character

def lower (character : CodePoint) : CodePoint :=
  if 65 ≤ character ∧ character ≤ 90 then character + 32 else character

def runtime : Runtime where
  upper value := value.map upper
  lower value := value.map lower
  isDigit character := 48 ≤ character && character ≤ 57
  int character := .ok (character - 48)
  loads _ := .error .recursion
  repr _ := []
  modelDump document := some document
  jsonb document := document

/-- A text as UTF-8. -/
def bytes (literal : String) : List UInt8 := literal.toByteArray.data.toList

def file (lines : List UInt8) : List UInt8 :=
  bytes "style_code,style_name,sku,upc,color,size,epc\n" ++ lines

def readableFile : List UInt8 := file (bytes "TEE,Tee,TEE-1,12345670,Red,M,0011223344556677\n")

/-- The record of the file goes on after a closing quote. -/
def malformedFile : List UInt8 :=
  file (bytes "\"TEE\"S,Tee,TEE-1,12345670,Red,M,0011223344556677\n")

def failure {Result : Type} : Except PromotionFailure Result → Option PromotionFailure
  | .error failure => some failure
  | .ok _ => none

theorem error_of_failure {Result : Type} {called : Except PromotionFailure Result}
    {raised : PromotionFailure} (failed : failure called = some raised) : called = .error raised := by
  cases called with
  | error failure => exact congrArg Except.error (Option.some.inj failed)
  | ok result => cases failed

def quoted (value : Text) : Text := Csv.quote :: value ++ [Csv.quote]

def longCategory : Text := List.replicate 129 120

def categoryDocument : Text := 123 :: quoted (text "category") ++ 58 :: quoted longCategory ++ [125]

def categoryRuntime : Runtime :=
  { runtime with
    loads := fun value =>
      if value = categoryDocument then .ok (.object [(text "category",jsonText longCategory)])
      else .error .recursion }

def categoryFile : List UInt8 :=
  bytes "style_code,style_name,sku,upc,color,size,epc,style_attributes\n" ++
    bytes "TEE,Tee,TEE-1,12345670,Red,M,0011223344556677," ++
      categoryDocument.map UInt8.ofNat ++ bytes "\n"

/-- The JSON object in which a value escapes a null character. -/
def escapedDocument : Text := 123 :: quoted (text "a") ++ 58 :: quoted (92 :: text "u0000") ++ [125]

def escapedRuntime : Runtime :=
  { runtime with
    loads := fun value =>
      if value = escapedDocument then .ok (.object [(text "a",jsonText [0])])
      else .error .recursion }

def escapedFile : List UInt8 :=
  bytes "style_code,style_name,sku,upc,color,size,epc,attributes\n" ++
    bytes "TEE,Tee,TEE-1,12345670,Red,M,0011223344556677," ++
      escapedDocument.map UInt8.ofNat ++ bytes "\n"

def escapedMember (escape number : String) : Text :=
  quoted (92 :: text escape) ++ 58 :: text number

def high : Text := escapedMember "ud800" "1"

def low : Text := escapedMember "udc00" "2"

/-- A name of the object is an unpaired surrogate. -/
def surrogateDocument : Text := 123 :: high ++ [125]

def highLowDocument : Text := 123 :: high ++ 44 :: low ++ [125]

def lowHighDocument : Text := 123 :: low ++ 44 :: high ++ [125]

def numberMember (name number : ℕ) : Python.Member := ([name],.scalar (.number .integer number))

/-- A name as UTF-8 with replacement characters. -/
def lossyName (name : Text) : Text :=
  name.flatMap fun character =>
    if 0xD800 ≤ character ∧ character ≤ 0xDFFF then [0xFFFD,0xFFFD,0xFFFD] else [character]

def lossyDump (document : JsonObject) : JsonObject :=
  if (Json.object document).storable then document
  else document.foldl (fun dumped member => setMember dumped (lossyName member.1) member.2) []

/-- The interpreter that can read these documents, and a dump that replaces the surrogates. -/
def lossyRuntime : Runtime :=
  { runtime with
    loads := fun value =>
      if value = surrogateDocument then .ok (.object [numberMember 0xD800 1])
      else if value = highLowDocument then
        .ok (.object [numberMember 0xD800 1,numberMember 0xDC00 2])
      else if value = lowHighDocument then
        .ok (.object [numberMember 0xDC00 2,numberMember 0xD800 1])
      else .error .recursion
    modelDump := fun document => some (lossyDump document) }

def cell (value : Text) : Text :=
  Csv.quote :: value.flatMap (fun character =>
    if character = Csv.quote then [Csv.quote,Csv.quote] else [character]) ++ [Csv.quote]

def styledFile (lines : List (String × Text)) : List UInt8 :=
  bytes "style_code,style_name,sku,upc,color,size,epc,style_attributes\n" ++
    lines.flatMap fun line => bytes line.1 ++ (cell line.2).map UInt8.ofNat ++ bytes "\n"

def surrogateFile : List UInt8 :=
  styledFile [("TEE,Tee,TEE-1,12345670,Red,M,0011223344556677,",surrogateDocument)]

/-- Two rows define a style with the same members in another order. -/
def shuffledFile : List UInt8 :=
  styledFile [("TEE,Tee,TEE-1,12345670,Red,M,0011223344556677,",highLowDocument),
    ("TEE,Tee,TEE-2,96385074,Red,L,0011223344556688,",lowHighDocument)]

def fullImport : CatalogImport := { id := 1, mode := .full }

def secondImport : CatalogImport := { id := 2, mode := .full }

/-- The row of a shirt of which the style has the attributes. -/
def shirt (styleAttributes : JsonObject) : List CatalogRowData :=
  (modelValidate runtime {
    styleCode := text "TEE", styleName := text "Tee", sku := text "TEE-1", upc := text "12345670",
    color := text "Red", size := text "M", epc := text "0011223344556677",
    styleAttributes := styleAttributes, attributes := [] }).toOption.toList

def organic (value : Json) : JsonObject := [(text "organic",value)]

def one : Json := .scalar (.number .integer 1)

def truth : Json := .scalar (.bool true)

def reached (promoted : Except PromotionError (Outcome × Tables)) : Tables :=
  (promoted.toOption.map Prod.snd).getD {}

def imported (runtime : Runtime) (content : List UInt8) : Tables :=
  reached (promoteRows runtime {} ⟨1,.full,5⟩
    (((validateAndStage runtime {} fullImport content).toOption.map
      (Staging.readRows runtime)).getD []))

/-- The catalog with a shirt whose style counts it as organic with a number. -/
def stocked : Tables := reached (promoteRows runtime {} ⟨1,.full,5⟩ (shirt (organic one)))

def stockCall : PromotionCall :=
  ⟨{ id := 1, mode := .full, status := .ready, validRows := 1 },shirt (organic one),5⟩

def deltaCall : PromotionCall :=
  ⟨{ id := 2, mode := .delta, status := .ready, validRows := 1 },shirt [],6⟩

end Abacus.Catalog.Sample
