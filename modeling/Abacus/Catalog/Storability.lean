import Abacus.Catalog.Documents

/-! What the staging of a file writes, and whether the database can hold it.
The text of a file has no character that a column refuses. A JSON escape brings such a
character back into a document, and nothing looks at the document again.
-/
set_option autoImplicit false

namespace Abacus.Catalog

open Relational (Table)
open Python (CodePoint Text text Json JsonObject IsSurrogate)

section Texts

def Held (character : CodePoint) : Prop := character ≠ 0 ∧ ¬IsSurrogate character

def HeldText (value : Text) : Prop := ∀ character ∈ value, Held character

instance : DecidablePred IsSurrogate :=
  fun character => inferInstanceAs (Decidable (0xD800 ≤ character ∧ character ≤ 0xDFFF))

instance : DecidablePred Held :=
  fun character => inferInstanceAs (Decidable (character ≠ 0 ∧ ¬IsSurrogate character))

instance : DecidablePred HeldText :=
  fun value => inferInstanceAs (Decidable (∀ character ∈ value, Held character))

theorem storableText_iff {value : Text} : Json.storableText value = true ↔ HeldText value := by
  simp [Json.storableText,HeldText,Held,IsSurrogate,imp_iff_not_or]

variable {value other : Text}

theorem HeldText.append (held : HeldText value) (others : HeldText other) :
    HeldText (value ++ other) := by
  intro character member
  rcases List.mem_append.mp member with first | second
  · exact held character first
  · exact others character second

theorem HeldText.of_subset (held : HeldText value) (subset : ∀ character ∈ other, character ∈ value) :
    HeldText other := fun character member => held character (subset character member)

theorem held_nil : HeldText [] := nofun

theorem held_ascii {character : ℕ} (present : character ≠ 0) (ascii : character < 128) :
    Held character := by
  refine ⟨present,?_⟩
  unfold IsSurrogate
  omega

theorem held_digits (number : ℕ) : HeldText (digits number) := by
  intro character member
  obtain ⟨digit,listed,rfl⟩ := List.mem_map.mp member
  rw [Nat.toString_eq_ofList_toDigits,String.toList_ofList] at listed
  have decimal := Nat.isDigit_of_mem_toDigits (by decide) (by decide) listed
  rw [Char.isDigit,Bool.and_eq_true,decide_eq_true_eq,decide_eq_true_eq] at decimal
  have least : 48 ≤ digit.toNat := decimal.1
  have most : digit.toNat ≤ 57 := decimal.2
  exact held_ascii (by omega) (by omega)

theorem HeldText.strip (held : HeldText value) : HeldText value.strip := by
  apply held.of_subset
  intro character member
  have first := List.mem_reverse.mp member
  have second := List.mem_reverse.mp ((List.dropWhile_sublist _).subset first)
  exact (List.dropWhile_sublist _).subset second

theorem HeldText.removeSpaces (held : HeldText value) (separators : Text) :
    HeldText (removeSpacesAnd separators value) :=
  held.of_subset fun _ member => List.mem_of_mem_filter member

theorem held_wordsFrom {word : Text} (begun : HeldText word) (held : HeldText value) :
    ∀ complete ∈ Python.Text.wordsFrom word value, HeldText complete := by
  induction value generalizing word with
  | nil =>
      rw [Python.Text.wordsFrom]
      split
      · exact nofun
      · simpa using begun
  | cons character rest ih =>
      have later : HeldText rest := held.of_subset fun _ => List.mem_cons_of_mem _
      have first := held character List.mem_cons_self
      rw [Python.Text.wordsFrom]
      split
      · split
        · exact ih held_nil later
        · exact List.forall_mem_cons.mpr ⟨begun,ih held_nil later⟩
      · have grown : HeldText (word ++ [character]) := begun.append (by simpa [HeldText] using first)
        exact ih grown later

theorem held_intercalate {words : List Text} (held : ∀ word ∈ words, HeldText word) :
    HeldText (List.intercalate (text " ") words) := by
  have blank : HeldText (text " ") := by decide
  induction words with
  | nil => exact held_nil
  | cons word words ih =>
      obtain ⟨first,others⟩ := List.forall_mem_cons.mp held
      by_cases last : words = []
      · rw [last,List.intercalate_singleton]
        exact first
      · rw [List.intercalate_cons_of_ne_nil last]
        exact (first.append blank).append (ih others)

theorem held_safeValue (held : HeldText value) : HeldText (safeValue value).1 := by
  unfold safeValue
  split
  · exact held
  · have dots : HeldText (text "...") := by decide
    exact (held.of_subset fun _ => List.mem_of_mem_take).append dots

end Texts

section Interpreter

/-- What the interpreter is documented to do with texts that a column can hold: it maps their
letters to letters and names them in its messages. -/
structure Interpreter (runtime : Runtime) : Prop where
  upper : ∀ value, HeldText value → HeldText (runtime.upper value)
  lower : ∀ value, HeldText value → HeldText (runtime.lower value)
  int : ∀ character message, Held character → runtime.int character = .error message →
    HeldText message
  loads : ∀ value message, HeldText value → runtime.loads value = .error (.invalid message) →
    HeldText message
  repr : ∀ names, (∀ name ∈ names, HeldText name) → HeldText (runtime.repr (jsonTexts names))

def HeldResult {limit : ℕ} (result : Except Text (Column limit)) : Prop :=
  (∀ value, result = .ok value → HeldText value.1) ∧
    ∀ message, result = .error message → HeldText message

variable {runtime : Runtime} {value fieldName : Text}

theorem HeldResult.ok {limit : ℕ} {value : Column limit} (held : HeldText value.1) :
    HeldResult (.ok value) := by
  refine ⟨?_,nofun⟩
  rintro _ ⟨⟩
  exact held

theorem HeldResult.error {limit : ℕ} {message : Text} (held : HeldText message) :
    HeldResult (.error message : Except Text (Column limit)) := by
  refine ⟨nofun,?_⟩
  rintro _ ⟨⟩
  exact held

theorem held_productCode (interpreter : Interpreter runtime) (held : HeldText value)
    (named : HeldText fieldName) (maxLength : ℕ) :
    HeldResult (normalizeProductCode runtime value fieldName maxLength) := by
  have required : HeldText (text " is required") := by decide
  have pattern : HeldText
      (text " may contain only letters, digits, periods, underscores, and hyphens") := by decide
  have atMost : HeldText (text " must be at most ") := by decide
  have characters : HeldText (text " characters") := by decide
  unfold normalizeProductCode
  dsimp only
  split
  · exact .error (named.append required)
  · split
    · split
      · exact .ok (interpreter.upper _ held.strip)
      · exact .error (named.append pattern)
    · exact .error (((named.append atMost).append (held_digits maxLength)).append characters)

theorem held_label (held : HeldText value) (named : HeldText fieldName) (maxLength : ℕ) :
    HeldResult (normalizeLabel value fieldName maxLength) := by
  have required : HeldText (text " is required") := by decide
  have atMost : HeldText (text " must be at most ") := by decide
  have characters : HeldText (text " characters") := by decide
  unfold normalizeLabel
  dsimp only
  split
  · exact .error (named.append required)
  · split
    · exact .ok (held_intercalate (held_wordsFrom held_nil held.strip))
    · exact .error (((named.append atMost).append (held_digits maxLength)).append characters)

theorem held_gtinSum (interpreter : Interpreter runtime) (held : HeldText value) {weight : ℕ}
    {message : Text} (failed : gtinSum runtime weight value = .error message) : HeldText message := by
  induction value generalizing weight with
  | nil => cases failed
  | cons digit rest ih =>
      have later : HeldText rest := held.of_subset fun _ => List.mem_cons_of_mem _
      rw [gtinSum] at failed
      cases read : runtime.int digit with
      | error unread =>
          rw [read] at failed
          cases failed
          exact interpreter.int digit message (held digit List.mem_cons_self) read
      | ok digitValue =>
          rw [read] at failed
          cases others : gtinSum runtime (4 - weight) rest with
          | error unread =>
              rw [others] at failed
              cases failed
              exact ih later others
          | ok sum =>
              rw [others] at failed
              cases failed

theorem held_upc (interpreter : Interpreter runtime) (held : HeldText value) :
    HeldResult (normalizeUpc runtime value) := by
  have gtin : HeldText (text "upc must be a valid 8, 12, 13, or 14 digit GTIN") := by decide
  have check : HeldText (text "upc has an invalid GTIN check digit") := by decide
  have kept : HeldText (removeSpacesAnd (text "-") value) := held.removeSpaces _
  have payload : HeldText (removeSpacesAnd (text "-") value).dropLast.reverse :=
    kept.of_subset fun _ member => (List.dropLast_sublist _).subset (List.mem_reverse.mp member)
  unfold normalizeUpc
  dsimp only
  split
  · next valid =>
      cases summed : gtinSum runtime 3 (removeSpacesAnd (text "-") value).dropLast.reverse with
      | error message => exact .error (held_gtinSum interpreter payload summed)
      | ok sum =>
          cases read : runtime.int ((removeSpacesAnd (text "-") value).getLastD 0) with
          | error message =>
              have last : (removeSpacesAnd (text "-") value).getLastD 0 ∈
                  removeSpacesAnd (text "-") value := by
                have present : removeSpacesAnd (text "-") value ≠ [] := by
                  intro none
                  rw [none] at valid
                  exact absurd valid.2 (by decide)
                rw [List.getLastD_eq_getLast?,List.getLast?_eq_some_getLast present]
                exact List.getLast_mem present
              exact .error (interpreter.int _ message (kept _ last) read)
          | ok digit =>
              simp only [Except.bind]
              split
              · exact .ok kept
              · exact .error check
  · exact .error gtin

theorem held_epc (interpreter : Interpreter runtime) (held : HeldText value) :
    HeldResult (normalizeEpc runtime value) := by
  have required : HeldText (text "epc is required") := by decide
  have uri : HeldText (text "epc must be a valid EPC URI or hexadecimal EPC") := by decide
  have hexadecimal : HeldText
      (text "epc must be 16 to 64 hexadecimal characters with an even length") := by decide
  have stripped := held.strip
  have dropped : HeldText (value.strip.drop 2) := stripped.of_subset fun _ => List.mem_of_mem_drop
  unfold normalizeEpc
  dsimp only
  split
  · exact .error required
  · split
    · split
      · split
        · exact .ok (interpreter.lower _ stripped)
        · exact .error uri
      · exact .error uri
    · generalize inner : (if Text.isPrefixOf (text "0x") (runtime.lower value.strip) then
        value.strip.drop 2 else value.strip) = digits
      have heldDigits : HeldText digits := by
        rw [← inner]
        split
        · exact dropped
        · exact stripped
      split
      · split
        · exact .ok (interpreter.upper _ (heldDigits.removeSpaces _))
        · exact .error hexadecimal
      · exact .error hexadecimal

end Interpreter

section Validation

variable {runtime : Runtime}

structure Candidate.Held (candidate : Candidate) : Prop where
  styleCode : HeldText candidate.styleCode
  styleName : HeldText candidate.styleName
  sku : HeldText candidate.sku
  upc : HeldText candidate.upc
  color : HeldText candidate.color
  size : HeldText candidate.size
  epc : HeldText candidate.epc

structure CatalogRowData.HeldTexts (data : CatalogRowData) : Prop where
  styleCode : HeldText data.styleCode
  styleName : HeldText data.styleName
  sku : HeldText data.sku
  upc : HeldText data.upc
  color : HeldText data.color
  size : HeldText data.size
  epc : HeldText data.epc

def FieldError.Held (error : FieldError) : Prop := HeldText error.field ∧ HeldText error.message

theorem held_fieldErrors {limit : ℕ} {result : Except Text (Column limit)} {field : Text}
    (named : HeldText field) (held : HeldResult result) :
    ∀ error ∈ fieldErrors field result, error.Held := by
  have prefixed : HeldText (text "Value error, ") := by decide
  cases result with
  | ok value => exact nofun
  | error message =>
      intro error member
      rw [fieldErrors,List.mem_singleton] at member
      subst member
      exact ⟨named,prefixed.append (held.2 message rfl)⟩

/-- The row that passes has texts that a column holds. -/
theorem held_modelValidate (interpreter : Interpreter runtime) {candidate : Candidate}
    (held : candidate.Held) :
    (∀ data, modelValidate runtime candidate = .ok data → data.HeldTexts) ∧
      ∀ errors, modelValidate runtime candidate = .error errors → ∀ error ∈ errors, error.Held := by
  have styleCodeName : HeldText (text "style_code") := by decide
  have styleNameName : HeldText (text "style_name") := by decide
  have skuName : HeldText (text "sku") := by decide
  have upcName : HeldText (text "upc") := by decide
  have colorName : HeldText (text "color") := by decide
  have sizeName : HeldText (text "size") := by decide
  have epcName : HeldText (text "epc") := by decide
  have styleCode := held_productCode interpreter held.styleCode styleCodeName 64
  have styleName := held_label held.styleName styleNameName 255
  have sku := held_productCode interpreter held.sku skuName 128
  have upc := held_upc interpreter held.upc
  have color := held_label held.color colorName 128
  have size := held_label held.size sizeName 64
  have epc := held_epc interpreter held.epc
  unfold modelValidate
  dsimp only
  split
  · next styleCodeOk styleNameOk skuOk upcOk colorOk sizeOk epcOk =>
      refine ⟨?_,nofun⟩
      rintro _ ⟨⟩
      exact ⟨styleCode.1 _ styleCodeOk,styleName.1 _ styleNameOk,sku.1 _ skuOk,upc.1 _ upcOk,
        color.1 _ colorOk,size.1 _ sizeOk,epc.1 _ epcOk⟩
  · refine ⟨nofun,?_⟩
    rintro _ ⟨⟩
    simp only [List.forall_mem_append]
    exact ⟨⟨⟨⟨⟨⟨held_fieldErrors styleCodeName styleCode,held_fieldErrors styleNameName styleName⟩,
      held_fieldErrors skuName sku⟩,held_fieldErrors upcName upc⟩,held_fieldErrors colorName color⟩,
      held_fieldErrors sizeName size⟩,held_fieldErrors epcName epc⟩

end Validation

section Documents

variable {runtime : Runtime} {value fieldName : Text} {members : JsonObject}

theorem storableMembers_iff : Json.storableMembers members = true ↔
    ∀ member ∈ members, HeldText member.1 ∧ member.2.storable = true := by
  induction members with
  | nil => simp [Json.storableMembers]
  | cons member members ih =>
      obtain ⟨name,document⟩ := member
      rw [Json.storableMembers,List.forall_mem_cons,Bool.and_eq_true,Bool.and_eq_true,
        storableText_iff,ih]

theorem storable_object : (Json.object members).storable = true ↔
    ∀ member ∈ members, HeldText member.1 ∧ member.2.storable = true := by
  rw [Json.storable,storableMembers_iff]

theorem held_tooDeep (named : HeldText fieldName) : HeldText (tooDeep fieldName) := by
  have exceed : HeldText (text " must not exceed ") := by decide
  have levels : HeldText (text " nested JSON levels") := by decide
  exact ((named.append exceed).append (held_digits _)).append levels

mutual

theorem held_validateJsonValue (named : HeldText fieldName) (depth : ℕ) (message : Text) :
    (document : Json) → validateJsonValue fieldName depth document = .error message →
      HeldText message
  | .scalar value => by
      intro failed
      simp only [validateJsonValue] at failed
      split at failed
      · cases failed
        exact held_tooDeep named
      · split at failed
        · cases failed
          decide
        · cases failed
  | .array elements => by
      intro failed
      rw [validateJsonValue] at failed
      split at failed
      · cases failed
        exact held_tooDeep named
      · exact held_validateElements named (depth + 1) message elements failed
  | .object members => by
      intro failed
      rw [validateJsonValue] at failed
      split at failed
      · cases failed
        exact held_tooDeep named
      · exact held_validateMembers named (depth + 1) message members failed

theorem held_validateElements (named : HeldText fieldName) (depth : ℕ) (message : Text) :
    (elements : List Json) → validateElements fieldName depth elements = .error message →
      HeldText message
  | [] => by
      intro failed
      cases failed
  | element :: elements => by
      intro failed
      rw [validateElements] at failed
      split at failed
      · next later =>
          cases failed
          exact held_validateElements named depth message elements later
      · exact held_validateJsonValue named depth message element failed

theorem held_validateMembers (named : HeldText fieldName) (depth : ℕ) (message : Text) :
    (members : List (Text × Json)) → validateMembers fieldName depth members = .error message →
      HeldText message
  | [] => by
      intro failed
      cases failed
  | (name,value) :: members => by
      intro failed
      rw [validateMembers] at failed
      split at failed
      · next later =>
          cases failed
          exact held_validateMembers named depth message members later
      · exact held_validateJsonValue named depth message value failed

end

theorem held_parseAttributes (interpreter : Interpreter runtime) (held : HeldText value)
    (named : HeldText fieldName) {message : Text}
    (failed : parseAttributes runtime value fieldName = .error message) : HeldText message := by
  have atMost : HeldText (text " must be at most ") := by decide
  have bytes : HeldText (text " UTF-8 bytes") := by decide
  have object : HeldText (text " must contain a JSON object") := by decide
  unfold parseAttributes at failed
  dsimp only at failed
  split at failed
  · cases failed
  · split at failed
    · cases failed
      exact ((named.append atMost).append (held_digits _)).append bytes
    · split at failed
      · cases failed
        exact held_tooDeep named
      · next said =>
          cases failed
          exact interpreter.loads _ _ held.strip said
      · next decoded loaded =>
          cases validated : validateJsonValue fieldName 0 (.object decoded) with
          | error said =>
              rw [validated] at failed
              cases failed
              exact held_validateJsonValue named 0 _ _ validated
          | ok checked =>
              rw [validated] at failed
              cases failed
      · cases failed
        exact named.append object

end Documents

section Columns

variable {runtime : Runtime} {rawData : RawData} {members : JsonObject} {header value : Text}

structure RawData.Held (rawData : RawData) : Prop where
  cells : ∀ cell ∈ rawData.cells, HeldText cell.1 ∧ HeldText cell.2
  extraColumns : ∀ extra ∈ rawData.extraColumns, HeldText extra

theorem RawData.Held.get? (held : rawData.Held) {field : Text}
    (found : rawData.get? field = some value) : HeldText value := by
  obtain ⟨before,after,split,-⟩ := List.lookup_eq_some_iff.mp found
  exact (held.cells (field,value) (by rw [split]; simp)).2

theorem RawData.Held.get (held : rawData.Held) (field : Text) : HeldText (rawData.get field) := by
  unfold RawData.get
  cases found : rawData.get? field with
  | none => exact held_nil
  | some value => exact held.get? found

theorem held_addAttributeColumn (named : HeldText header) {message : Text}
    (failed : addAttributeColumn rawData members header = .error message) : HeldText message := by
  have opening : HeldText (text "attribute '") := by decide
  have defined : HeldText (text "' is defined differently in attributes and ") := by decide
  have heldName : HeldText (header.drop attributePrefix.length) :=
    named.of_subset fun _ => List.mem_of_mem_drop
  unfold addAttributeColumn at failed
  dsimp only at failed
  split at failed
  · cases failed
  · split at failed
    · cases failed
      exact ((opening.append heldName).append defined).append named
    · cases failed

theorem held_addAttributeColumns {headers : List Text}
    (named : ∀ header ∈ headers, HeldText header) {message : Text}
    (failed : headers.foldlM (addAttributeColumn rawData) members = .error message) :
    HeldText message := by
  induction headers generalizing members with
  | nil => cases failed
  | cons header headers ih =>
      rw [List.foldlM_cons] at failed
      obtain ⟨first,others⟩ := List.forall_mem_cons.mp named
      cases one : addAttributeColumn rawData members header with
      | error said =>
          rw [one] at failed
          cases failed
          exact held_addAttributeColumn first one
      | ok middle =>
          rw [one] at failed
          exact ih others failed

theorem held_canonicalAttributes (interpreter : Interpreter runtime) (held : rawData.Held)
    {headers : List Text} (named : ∀ header ∈ headers, HeldText header) {message : Text}
    (failed : canonicalAttributes runtime rawData headers = .error message) : HeldText message := by
  have attributes : HeldText (text "attributes") := by decide
  unfold canonicalAttributes at failed
  cases parsed : parseAttributes runtime (rawData.get (text "attributes")) (text "attributes") with
  | error said =>
      rw [parsed] at failed
      cases failed
      exact held_parseAttributes interpreter (held.get _) attributes parsed
  | ok members =>
      rw [parsed] at failed
      exact held_addAttributeColumns named failed

end Columns

section Rows

variable {runtime : Runtime} {headers : List Text} {record : Csv.Record}

structure CatalogIssue.Held (issue : CatalogIssue) : Prop where
  field : ∀ field ∈ issue.field, HeldText field
  code : HeldText issue.code
  message : HeldText issue.message
  rejectedValue : ∀ value ∈ issue.rejectedValue, HeldText value.1
  evidence : (Json.object issue.evidence).storable = true

structure ParsedCatalogRow.Held (row : ParsedCatalogRow) : Prop where
  rawData : row.rawData.Held
  normalized : ∀ data ∈ row.normalized, data.HeldTexts
  issues : ∀ issue ∈ row.issues, issue.Held

theorem held_rowIssue (rowNumber : ℕ) {field code : String} {message : Text} {rejected : Option Text}
    {evidence : JsonObject} (named : HeldText (text field)) (coded : HeldText (text code))
    (said : HeldText message) (rejects : ∀ value ∈ rejected, HeldText value)
    (shown : (Json.object evidence).storable = true) :
    (rowIssue rowNumber field code message rejected evidence).Held := by
  refine ⟨?_,coded,said,?_,shown⟩
  · rintro _ ⟨⟩
    exact named
  · intro value member
    obtain ⟨cell,present,rfl⟩ := Option.map_eq_some_iff.mp member
    exact held_safeValue (rejects cell present)

theorem held_cellsOf (named : ∀ header ∈ headers, HeldText header)
    (held : ∀ value ∈ record.values, HeldText value) :
    RawData.Held ⟨cellsOf headers record.values,record.values.drop headers.length⟩ := by
  constructor
  · intro cell member
    obtain ⟨header,listed,rfl⟩ := List.mem_map.mp member
    refine ⟨named header.1 (List.fst_mem_of_mem_zipIdx listed),?_⟩
    rw [List.getD_eq_getElem?_getD]
    cases found : record.values[header.2]? with
    | none => exact held_nil
    | some value => exact held value (List.mem_of_getElem? found)
  · exact fun extra member => held extra (List.mem_of_mem_drop member)

theorem held_candidate {rawData : RawData} (held : rawData.Held)
    (styleAttributes attributes : JsonObject) : (candidate rawData styleAttributes attributes).Held :=
  ⟨held.get _,held.get _,held.get _,held.get _,held.get _,held.get _,held.get _⟩

theorem storable_numbers {first second : Text} (named : HeldText first) (others : HeldText second)
    (left right : ℕ) :
    (Json.object [(first,jsonNumber left),(second,jsonNumber right)]).storable = true := by
  rw [storable_object]
  simp [named,others,jsonNumber,Json.storable]

/-- All texts of a parsed row can be held. -/
theorem held_parseRow (interpreter : Interpreter runtime)
    (named : ∀ header ∈ headers, HeldText header)
    (held : ∀ value ∈ record.values, HeldText value) :
    (parseRow runtime headers record).Held := by
  have cells := held_cellsOf named held
  have attributeHeaders : ∀ header ∈ headers.filter fun header =>
      Text.isPrefixOf attributePrefix header, HeldText header :=
    fun header member => named header (List.mem_of_mem_filter member)
  have none_rejected : ∀ value ∈ (none : Option Text), HeldText value := by simp
  unfold parseRow
  dsimp only
  split
  · refine ⟨cells,by simp,?_⟩
    intro issue member
    rw [List.mem_singleton] at member
    subst member
    have expected : HeldText (text "Expected ") := by decide
    have columns : HeldText (text " columns but received ") := by decide
    have point : HeldText (text ".") := by decide
    exact held_rowIssue _ (by decide) (by decide)
      ((((expected.append (held_digits _)).append columns).append (held_digits _)).append point)
      none_rejected (storable_numbers (by decide) (by decide) _ _)
  · split
    · next message failed =>
        refine ⟨cells,by simp,?_⟩
        intro issue member
        rw [List.mem_singleton] at member
        subst member
        exact held_rowIssue _ (by decide) (by decide)
          (held_canonicalAttributes interpreter cells attributeHeaders failed)
          (fun value found => cells.get? found) rfl
    · next attributes canonical =>
        split
        · next message failed =>
            refine ⟨cells,by simp,?_⟩
            intro issue member
            rw [List.mem_singleton] at member
            subst member
            exact held_rowIssue _ (by decide) (by decide)
              (held_parseAttributes interpreter (cells.get _) (by decide) failed)
              (fun value found => cells.get? found) rfl
        · next styleAttributes parsed =>
            have validated :=
              held_modelValidate interpreter (held_candidate cells styleAttributes attributes)
            split
            · next errors refused =>
                refine ⟨cells,by simp,?_⟩
                intro issue member
                obtain ⟨error,listed,rfl⟩ := List.mem_map.mp member
                have said := validated.2 errors refused error listed
                have coded : HeldText (text "invalid_field") := by decide
                refine ⟨?_,coded,said.2,?_,rfl⟩
                · rintro _ ⟨⟩
                  exact said.1
                · intro value found
                  obtain ⟨cell,present,rfl⟩ := Option.map_eq_some_iff.mp found
                  exact held_safeValue (cells.get? present)
            · next data passed =>
                refine ⟨cells,?_,by simp⟩
                rintro _ ⟨⟩
                exact validated.1 data passed

end Rows

section Conflicts

variable {row : ParsedCatalogRow} {data : CatalogRowData}

theorem storable_number {name : Text} (named : HeldText name) (number : ℕ) :
    (Json.object [(name,jsonNumber number)]).storable = true := by
  rw [storable_object]
  simp [named,jsonNumber,Json.storable]

theorem storable_text {name value : Text} (named : HeldText name) (held : HeldText value) :
    (Json.object [(name,jsonText value)]).storable = true := by
  rw [storable_object]
  simp [named,jsonText,Json.storable,storableText_iff.mpr held]

theorem held_conflict (held : row.Held) {fieldName code : String} {message : Text}
    (named : HeldText (text fieldName)) (coded : HeldText (text code)) (said : HeldText message)
    (firstRow : ℕ) : (conflict row fieldName code message firstRow).Held :=
  held_rowIssue _ named coded said (fun _ found => held.rawData.get? found)
    (storable_number (by decide) firstRow)

theorem held_epcConflict (held : row.Held) (texts : data.HeldTexts) (prior : ℕ × Text) :
    (epcConflict row data prior).Held := by
  have epc : HeldText (text "EPC ") := by decide
  have duplicated : HeldText (text " is duplicated in this import.") := by decide
  have several : HeldText (text " maps to more than one SKU in this import.") := by decide
  unfold epcConflict
  split
  · exact held_conflict held (by decide) (by decide) ((epc.append texts.epc).append duplicated) _
  · exact held_conflict held (by decide) (by decide) ((epc.append texts.epc).append several) _

theorem held_checkRow (seen : Seen) (held : row.Held) : (checkRow seen row).2.Held := by
  unfold checkRow
  split
  · exact held
  · next data normalized =>
      have texts := held.normalized data normalized
      have style : HeldText (text "Style ") := by decide
      have sku : HeldText (text "SKU ") := by decide
      have upc : HeldText (text "UPC ") := by decide
      have definitions : HeldText (text " has conflicting definitions in this import.") := by decide
      have several : HeldText (text " maps to more than one SKU in this import.") := by decide
      refine ⟨held.rawData,held.normalized,?_⟩
      dsimp only
      simp only [List.forall_mem_append]
      refine ⟨⟨⟨⟨held.issues,?_⟩,?_⟩,?_⟩,?_⟩
      · intro issue member
        obtain ⟨prior,-,rfl⟩ := List.mem_map.mp member
        exact held_conflict held (by decide) (by decide)
          ((style.append texts.styleCode).append definitions) prior
      · intro issue member
        obtain ⟨prior,-,rfl⟩ := List.mem_map.mp member
        exact held_conflict held (by decide) (by decide)
          ((sku.append texts.sku).append definitions) prior
      · intro issue member
        obtain ⟨prior,-,rfl⟩ := List.mem_map.mp member
        exact held_conflict held (by decide) (by decide)
          ((upc.append texts.upc).append several) prior
      · intro issue member
        obtain ⟨prior,-,rfl⟩ := List.mem_map.mp member
        exact held_epcConflict held texts prior

theorem held_batch (seen : Seen) {rows : List ParsedCatalogRow} (held : ∀ row ∈ rows, row.Held) :
    ∀ row ∈ validateBatchConsistency seen rows, row.Held := by
  induction rows generalizing seen with
  | nil => exact nofun
  | cons row rows ih =>
      obtain ⟨first,others⟩ := List.forall_mem_cons.mp held
      rw [validateBatchConsistency]
      exact List.forall_mem_cons.mpr ⟨held_checkRow seen first,ih _ others⟩

structure Tables.Held (tables : Tables) : Prop where
  styles : ∀ style ∈ tables.styles.rows, HeldText style.code
  skus : ∀ sku ∈ tables.skus.rows, HeldText sku.code

theorem held_databaseConflicts {tables : Tables} (stored : tables.Held) (texts : data.HeldTexts) :
    ∀ issue ∈ databaseConflicts tables row data, issue.Held := by
  have upc : HeldText (text "UPC ") := by decide
  have belongs : HeldText (text " already belongs to SKU ") := by decide
  have point : HeldText (text ".") := by decide
  have sku : HeldText (text "SKU ") := by decide
  have moved : HeldText (text " cannot be moved to another style.") := by decide
  unfold databaseConflicts
  rw [List.forall_mem_append]
  constructor
  · intro issue member
    obtain ⟨owner,found,rfl⟩ := List.mem_map.mp member
    have present := (Option.filter_eq_some_iff.mp (Option.mem_toList.mp found)).1
    have code := stored.skus owner (List.mem_of_find?_eq_some present)
    refine held_rowIssue _ (by decide) (by decide)
      ((((upc.append texts.upc).append belongs).append code).append point) ?_
      (storable_text (by decide) code)
    rintro _ ⟨⟩
    exact texts.upc
  · intro issue member
    obtain ⟨style,found,rfl⟩ := List.mem_map.mp member
    have present := (Option.filter_eq_some_iff.mp (Option.mem_toList.mp found)).1
    obtain ⟨existing,-,owned⟩ := Option.bind_eq_some_iff.mp present
    have code := stored.styles style (List.mem_of_find?_eq_some owned)
    refine held_rowIssue _ (by decide) (by decide) ((sku.append texts.sku).append moved) ?_
      (storable_text (by decide) code)
    rintro _ ⟨⟩
    exact texts.sku

theorem held_appendDatabaseConflicts {tables : Tables} (stored : tables.Held) (held : row.Held) :
    (appendDatabaseConflicts tables row).Held := by
  unfold appendDatabaseConflicts
  split
  · exact held
  · next data normalized =>
      split
      · exact ⟨held.rawData,held.normalized,
          held_databaseConflicts stored (held.normalized data normalized)⟩
      · exact held

end Conflicts

section Files

variable {runtime : Runtime} {content : List UInt8} {headers : List Text} {reading : Csv.Reading}

theorem held_fileIssue {field code : String} {message : Text} {evidence : JsonObject}
    (named : HeldText (text field)) (coded : HeldText (text code)) (said : HeldText message)
    (shown : (Json.object evidence).storable = true) :
    (fileIssue field code message evidence).Held := by
  refine ⟨?_,coded,said,by simp [fileIssue],shown⟩
  rintro _ ⟨⟩
  exact named

theorem storable_texts {name : Text} (named : HeldText name) {values : List Text}
    (held : ∀ value ∈ values, HeldText value) :
    (Json.object [(name,jsonTexts values)]).storable = true := by
  have elements : Json.storableElements (values.map jsonText) = true := by
    induction values with
    | nil => rfl
    | cons value values ih =>
        obtain ⟨first,others⟩ := List.forall_mem_cons.mp held
        rw [List.map_cons,Json.storableElements,ih others,Bool.and_true,jsonText,Json.storable]
        exact storableText_iff.mpr first
  rw [storable_object]
  simpa [named,jsonTexts,Json.storable] using elements

theorem held_namedHeaders (interpreter : Interpreter runtime) {code message evidence : String}
    {names : List Text} (coded : HeldText (text code)) (said : HeldText (text message))
    (named : HeldText (text evidence)) (held : ∀ name ∈ names, HeldText name) :
    ∀ issue ∈ namedHeaders runtime code message evidence names, issue.Held := by
  unfold namedHeaders
  split
  · exact nofun
  · intro issue member
    rw [List.mem_singleton] at member
    subst member
    exact held_fileIssue (by decide) coded (said.append (interpreter.repr names held))
      (storable_texts named held)

theorem mem_sorted {values : List Text} {value : Text} : value ∈ sorted values ↔ value ∈ values :=
  (List.perm_insertionSort _ values).mem_iff

theorem held_headerIssues (interpreter : Interpreter runtime)
    (held : ∀ header ∈ headers, HeldText header) :
    ∀ issue ∈ headerIssues runtime headers, issue.Held := by
  have required : ∀ header ∈ requiredHeaders, HeldText header := by decide
  unfold headerIssues
  dsimp only
  simp only [List.forall_mem_append]
  refine ⟨⟨⟨⟨?_,?_⟩,?_⟩,?_⟩,?_⟩
  · split
    · intro issue member
      rw [List.mem_singleton] at member
      subst member
      exact held_fileIssue (by decide) (by decide) (by decide) rfl
    · exact nofun
  · refine held_namedHeaders interpreter (by decide) (by decide) (by decide) ?_
    intro name member
    exact held name (List.mem_of_mem_filter (List.mem_dedup.mp (mem_sorted.mp member)))
  · refine held_namedHeaders interpreter (by decide) (by decide) (by decide) ?_
    intro name member
    exact required name (List.mem_of_mem_filter (mem_sorted.mp member))
  · refine held_namedHeaders interpreter (by decide) (by decide) (by decide) ?_
    intro name member
    exact held name (List.mem_of_mem_filter (mem_sorted.mp member))
  · split
    · intro issue member
      rw [List.mem_singleton] at member
      subst member
      exact held_fileIssue (by decide) (by decide) (by decide) rfl
    · exact nofun

/-- The decoded text of a file without a null byte has only characters that a column holds. -/
theorem held_decoded {decoded : Text} (decoding : Python.decodeUtf8Sig content = .ok decoded)
    (present : decoded.contains 0 = false) : HeldText decoded := by
  intro character member
  refine ⟨?_,Python.decodeUtf8Sig_scalars decoding character member⟩
  rintro rfl
  rw [List.contains_iff_mem.mpr member] at present
  cases present

/-- What is read of a file, whether it has a data section or not. -/
theorem held_dataSection (interpreter : Interpreter runtime) (content : List UInt8) :
    (∀ issues, dataSection runtime content = .error issues → ∀ issue ∈ issues, issue.Held) ∧
      ∀ headers reading, dataSection runtime content = .ok (headers,reading) →
        (∀ header ∈ headers, HeldText header) ∧
          (∀ record ∈ reading.records, ∀ value ∈ record.values, HeldText value) ∧
            ∀ failure ∈ reading.failure, HeldText failure.message := by
  have said : ∀ message ∈ Csv.messages, HeldText message := by decide
  have large : HeldText (text "Catalog CSV must not exceed ") := by decide
  have bytes : HeldText (text " bytes.") := by decide
  have one : ∀ {issue : CatalogIssue}, issue.Held → ∀ other ∈ [issue], other.Held := by
    intro issue held other member
    rw [List.mem_singleton.mp member]
    exact held
  unfold dataSection
  split
  · refine ⟨?_,nofun⟩
    rintro _ ⟨⟩
    exact one (held_fileIssue (by decide) (by decide) ((large.append (held_digits _)).append bytes)
      (storable_number (by decide) _))
  · split
    · refine ⟨?_,nofun⟩
      rintro _ ⟨⟩
      exact one (held_fileIssue (by decide) (by decide) (by decide) rfl)
    · split
      · refine ⟨?_,nofun⟩
        rintro _ ⟨⟩
        exact one (held_fileIssue (by decide) (by decide) (by decide)
          (storable_number (by decide) _))
      · next decoded decoding =>
          split
          · refine ⟨?_,nofun⟩
            rintro _ ⟨⟩
            exact one (held_fileIssue (by decide) (by decide) (by decide) rfl)
          · next present =>
              have characters := held_decoded decoding (Bool.not_eq_true _ ▸ present)
              have values := Csv.read_characters characters
              dsimp only
              split
              · refine ⟨?_,nofun⟩
                rintro _ ⟨⟩
                exact one (held_fileIssue (by decide) (by decide) (by decide) rfl)
              · next failure records failed =>
                  refine ⟨?_,nofun⟩
                  rintro _ ⟨⟩
                  exact one (held_fileIssue (by decide) (by decide)
                    (said _ (Csv.message_of_failure failed)) rfl)
              · next rawHeaders records listed =>
                  have named : ∀ header ∈ rawHeaders.values.map fun header =>
                      runtime.lower header.strip, HeldText header := by
                    intro header member
                    obtain ⟨raw,inside,rfl⟩ := List.mem_map.mp member
                    have first := values rawHeaders (by rw [listed]; simp) raw inside
                    exact interpreter.lower _ (HeldText.strip first)
                  have issues := held_headerIssues interpreter named
                  split
                  · refine ⟨nofun,?_⟩
                    rintro _ _ ⟨⟩
                    refine ⟨named,?_,?_⟩
                    · intro record member
                      exact values record (by rw [listed]; exact List.mem_cons_of_mem _ member)
                    · intro failure found
                      exact said _ (Csv.message_of_failure found)
                  · refine ⟨?_,nofun⟩
                    rintro _ ⟨⟩
                    exact issues

theorem held_readingIssues (said : ∀ failure ∈ reading.failure, HeldText failure.message) :
    ∀ issue ∈ readingIssues reading, issue.Held := by
  have many : HeldText (text "Catalog CSV must not exceed ") := by decide
  have rows : HeldText (text " data rows.") := by decide
  unfold readingIssues
  split
  · intro issue member
    rw [List.mem_singleton] at member
    subst member
    exact held_fileIssue (by decide) (by decide) ((many.append (held_digits _)).append rows) rfl
  · split
    · next failure found =>
        intro issue member
        rw [List.mem_singleton] at member
        subst member
        exact held_rowIssue _ (by decide) (by decide) (said failure found) (by simp) rfl
    · exact nofun

/-- What holds of every document that the cells of a file give a row that passes its validators. -/
def EachDocument (runtime : Runtime) (content : List UInt8) (P : JsonObject → Prop) : Prop :=
  ∀ headers reading, dataSection runtime content = .ok (headers,reading) →
    ∀ record ∈ (dataRecords reading).take maxCatalogRows,
      (parseRow runtime headers record).normalized.isSome = true →
        ∀ attributes styleAttributes,
          canonicalAttributes runtime (cellsRead headers record)
            (headers.filter fun header => Text.isPrefixOf attributePrefix header) = .ok attributes →
          parseAttributes runtime ((cellsRead headers record).get (text "style_attributes"))
            (text "style_attributes") = .ok styleAttributes →
          P attributes ∧ P styleAttributes

/-- All texts of a parsed file can be held. -/
theorem held_parseCatalogCsv (interpreter : Interpreter runtime) (content : List UInt8) :
    (∀ issue ∈ (parseCatalogCsv runtime content).issues, issue.Held) ∧
      ∀ row ∈ (parseCatalogCsv runtime content).rows, row.Held := by
  obtain ⟨refused,opened⟩ := held_dataSection interpreter content
  unfold parseCatalogCsv
  cases sections : dataSection runtime content with
  | error issues => exact ⟨refused issues sections,nofun⟩
  | ok parts =>
      obtain ⟨headers,reading⟩ := parts
      obtain ⟨named,values,said⟩ := opened headers reading sections
      dsimp only
      constructor
      · split
        · intro issue member
          rw [List.mem_singleton] at member
          subst member
          exact held_fileIssue (by decide) (by decide) (by decide) rfl
        · exact held_readingIssues said
      · apply held_batch
        intro row member
        obtain ⟨record,listed,rfl⟩ := List.mem_map.mp member
        have stored := List.mem_of_mem_filter (List.mem_of_mem_take listed)
        exact held_parseRow interpreter named (values record stored)

/-- The documents of the parsed rows are those of the cells they were read from. -/
theorem eachDocument_iff {P : JsonObject → Prop} : EachDocument runtime content P ↔
    ∀ row ∈ (parseCatalogCsv runtime content).rows, ∀ data ∈ row.normalized,
      P data.attributes ∧ P data.styleAttributes := by
  constructor
  · intro each row member data normalized
    obtain ⟨headers,reading,opened,record,listed,same⟩ := mem_parsed member
    rw [Option.mem_def.mp normalized] at same
    obtain ⟨canonical,parsed⟩ := parseRow_documents same.symm
    exact each headers reading opened record listed (by rw [← same]; rfl) _ _ canonical parsed
  · intro each headers reading opened record listed present attributes styleAttributes canonical
      parsed
    obtain ⟨data,normalized⟩ := Option.isSome_iff_exists.mp present
    obtain ⟨own,style⟩ := parseRow_documents normalized
    rw [canonical] at own
    rw [parsed] at style
    cases own
    cases style
    have member : some data ∈ (parseCatalogCsv runtime content).rows.map
        ParsedCatalogRow.normalized := by
      rw [parseCatalogCsv,opened]
      dsimp only
      rw [validateBatchConsistency_normalized]
      exact List.mem_map.mpr ⟨_,List.mem_map_of_mem listed,normalized⟩
    obtain ⟨row,stored,same⟩ := List.mem_map.mp member
    exact each row stored data same

end Files

section Staged

/-- What a validation adds to its session for an import that is validating, unless a dump raises
before. -/
def staged (runtime : Runtime) (tables : Tables) (catalogImport : CatalogImport)
    (content : List UInt8) : Option Staging :=
  let parsed := parseCatalogCsv runtime content
  let rows := parsed.rows.map (appendDatabaseConflicts tables)
  if dumped runtime rows then some (stage runtime tables catalogImport parsed.issues rows) else none

theorem validateAndStage_validating (runtime : Runtime) (tables : Tables)
    {catalogImport : CatalogImport} (content : List UInt8)
    (validating : catalogImport.status = .validating) :
    validateAndStage runtime tables catalogImport content =
      (staged runtime tables catalogImport content).elim (.error .serializationError)
        Staging.commit := by
  rw [validateAndStage,validating,staged]
  dsimp only
  split <;> rfl

def DocumentsDumped (runtime : Runtime) (content : List UInt8) : Prop :=
  EachDocument runtime content fun document => (runtime.modelDump document).isSome = true

def DocumentsHeld (runtime : Runtime) (content : List UInt8) : Prop :=
  EachDocument runtime content fun document =>
    ∀ dump ∈ runtime.modelDump document, (Json.object dump).storable = true

structure CatalogImportError.Held (error : CatalogImportError) : Prop where
  field : ∀ field ∈ error.field, HeldText field
  code : HeldText error.code
  message : HeldText error.message
  rejectedValue : ∀ value ∈ error.rejectedValue, HeldText value.1
  evidence : (Json.object error.evidence).storable = true

structure CatalogImportRow.Held (row : CatalogImportRow) : Prop where
  rawData : row.rawData.Held
  texts : ∀ data ∈ row.normalizedData, data.HeldTexts
  documents : ∀ data ∈ row.normalizedData, data.storable = true

structure Staging.Held (staging : Staging) : Prop where
  rows : ∀ row ∈ staging.rows, row.Held
  errors : ∀ error ∈ staging.errors, error.Held

theorem held_persistIssue {issue : CatalogIssue} (held : issue.Held) : (persistIssue issue).Held :=
  ⟨held.field,held.code,held.message.of_subset fun _ => List.mem_of_mem_take,held.rejectedValue,
    held.evidence⟩

variable {runtime : Runtime} {content : List UInt8} {tables : Tables}
  {catalogImport : CatalogImport} {issues : List CatalogIssue} {rows : List ParsedCatalogRow}

/-- A dump has the texts of its row. -/
theorem held_modelDump {data dump : CatalogRowData} (held : data.HeldTexts)
    (done : data.modelDump runtime = some dump) : dump.HeldTexts := by
  rw [modelDump_eq_stored (by rw [done]; rfl)] at done
  cases done
  exact ⟨held.styleCode,held.styleName,held.sku,held.upc,held.color,held.size,held.epc⟩

theorem held_stage_iff (heldIssues : ∀ issue ∈ issues, issue.Held)
    (held : ∀ row ∈ rows, row.Held) :
    (stage runtime tables catalogImport issues rows).Held ↔ DumpsHeld runtime rows := by
  constructor
  · intro all row member data normalized dump done
    refine (all.rows _ (List.mem_map_of_mem member)).documents dump ?_
    exact Option.bind_eq_some_iff.mpr ⟨data,normalized,done⟩
  · intro dumps
    constructor
    · intro row member
      obtain ⟨parsed,listed,rfl⟩ := List.mem_map.mp member
      refine ⟨(held parsed listed).rawData,?_,?_⟩
      · intro dump stored
        obtain ⟨data,normalized,done⟩ := Option.bind_eq_some_iff.mp stored
        exact held_modelDump ((held parsed listed).normalized data normalized) done
      · intro dump stored
        obtain ⟨data,normalized,done⟩ := Option.bind_eq_some_iff.mp stored
        exact dumps parsed listed data normalized dump done
    · intro error member
      obtain ⟨issue,listed,rfl⟩ := List.mem_map.mp member
      apply held_persistIssue
      rcases List.mem_append.mp listed with file | own
      · exact heldIssues issue file
      · obtain ⟨row,inside,place⟩ := List.mem_flatMap.mp own
        exact (held row inside).issues issue place

theorem commit_dataError_iff :
    (stage runtime tables catalogImport issues rows).commit = .error .dataError ↔
      ¬DumpsHeld runtime rows := by
  rw [← stage_held_iff runtime tables catalogImport issues,Staging.commit]
  split
  · next refused => simp [refused]
  · next kept =>
      refine ⟨?_,fun refused => absurd (Bool.not_eq_true _ ▸ kept) refused⟩
      intro failed
      split at failed
      · cases failed
      · split at failed <;> cases failed

theorem dumped_append_iff : dumped runtime ((parseCatalogCsv runtime content).rows.map
    (appendDatabaseConflicts tables)) = true ↔ DocumentsDumped runtime content := by
  have both (data : CatalogRowData) : (data.modelDump runtime).isSome = true ↔
      (runtime.modelDump data.attributes).isSome = true ∧
        (runtime.modelDump data.styleAttributes).isSome = true := by
    cases own : runtime.modelDump data.attributes <;>
      cases style : runtime.modelDump data.styleAttributes <;>
        simp [CatalogRowData.modelDump,own,style]
  rw [dumped_iff,DocumentsDumped,eachDocument_iff]
  simp [appendDatabaseConflicts_normalized,both]

theorem staged_of_dumped (tables : Tables) (catalogImport : CatalogImport)
    (done : DocumentsDumped runtime content) : staged runtime tables catalogImport content =
      some (stage runtime tables catalogImport (parseCatalogCsv runtime content).issues
        ((parseCatalogCsv runtime content).rows.map (appendDatabaseConflicts tables))) :=
  if_pos (dumped_append_iff.mpr done)

/-- Where every document has a dump, the dumps of the rows are those of the documents. -/
theorem dumpsHeld_append_iff (done : DocumentsDumped runtime content) :
    DumpsHeld runtime ((parseCatalogCsv runtime content).rows.map
      (appendDatabaseConflicts tables)) ↔ DocumentsHeld runtime content := by
  rw [DocumentsDumped,eachDocument_iff] at done
  rw [DocumentsHeld,eachDocument_iff]
  have each : ∀ row ∈ (parseCatalogCsv runtime content).rows, ∀ data ∈ row.normalized,
      ((∀ dump ∈ data.modelDump runtime, dump.storable = true) ↔
        (∀ dump ∈ runtime.modelDump data.attributes, (Json.object dump).storable = true) ∧
          ∀ dump ∈ runtime.modelDump data.styleAttributes, (Json.object dump).storable = true) := by
    intro row member data normalized
    obtain ⟨own,style⟩ := done row member data normalized
    obtain ⟨ownDump,ownDone⟩ := Option.isSome_iff_exists.mp own
    obtain ⟨styleDump,styleDone⟩ := Option.isSome_iff_exists.mp style
    simp [CatalogRowData.modelDump,ownDone,styleDone,CatalogRowData.storable,and_comm]
  simp only [DumpsHeld,List.forall_mem_map,appendDatabaseConflicts_normalized]
  exact forall₂_congr fun row member => forall₂_congr fun data normalized =>
    each row member data normalized

/-- All that is staged can be held exactly when the dumps of the documents can, or one of them
raises before anything is staged, and the transaction fails on its strings when it is not so. -/
theorem staged_held_iff (runtime : Runtime) (interpreter : Interpreter runtime) (tables : Tables)
    (stored : tables.Held) (catalogImport : CatalogImport) (content : List UInt8) :
    ((∀ staging, staged runtime tables catalogImport content = some staging → staging.Held) ↔
      (DocumentsDumped runtime content → DocumentsHeld runtime content)) ∧
      (catalogImport.status = .validating →
        (validateAndStage runtime tables catalogImport content = .error .dataError ↔
          DocumentsDumped runtime content ∧ ¬DocumentsHeld runtime content)) := by
  obtain ⟨issues,rows⟩ := held_parseCatalogCsv interpreter content
  have held : ∀ row ∈ (parseCatalogCsv runtime content).rows.map (appendDatabaseConflicts tables),
      row.Held := by
    intro row member
    obtain ⟨parsed,listed,rfl⟩ := List.mem_map.mp member
    exact held_appendDatabaseConflicts stored (rows parsed listed)
  by_cases done : DocumentsDumped runtime content
  · have staging := staged_of_dumped tables catalogImport done
    constructor
    · rw [staging]
      simp only [Option.some.injEq,forall_eq',done,forall_const]
      rw [held_stage_iff issues held,dumpsHeld_append_iff done]
    · intro validating
      rw [validateAndStage_validating runtime tables content validating,staging,Option.elim_some,
        commit_dataError_iff,dumpsHeld_append_iff done]
      exact (and_iff_right done).symm
  · have nothing : staged runtime tables catalogImport content = none :=
      if_neg (mt dumped_append_iff.mp done)
    constructor
    · rw [nothing]
      exact iff_of_true (fun _ => nofun) (fun dumped => absurd dumped done)
    · intro validating
      rw [validateAndStage_validating runtime tables content validating,nothing,Option.elim_none]
      exact iff_of_false nofun (fun failed => done failed.1)

theorem Sample.interpreter : Interpreter Sample.escapedRuntime := by
  have letters : ∀ change : CodePoint → CodePoint, (∀ character, Held character →
      Held (change character)) → ∀ value, HeldText value → HeldText (value.map change) := by
    intro change kept value held character member
    obtain ⟨source,listed,rfl⟩ := List.mem_map.mp member
    exact kept source (held source listed)
  have raised (character : ℕ) (least : 97 ≤ character) (most : character ≤ 122) :
      Held (character - 32) := held_ascii (by omega) (by omega)
  have lowered (character : ℕ) (most : character ≤ 90) : Held (character + 32) :=
    held_ascii (by omega) (by omega)
  constructor
  · apply letters
    intro character held
    unfold Sample.upper
    split
    · next letter => exact raised character letter.1 letter.2
    · exact held
  · apply letters
    intro character held
    unfold Sample.lower
    split
    · next letter => exact lowered character letter.2
    · exact held
  · exact fun _ _ _ => nofun
  · intro value message _ failed
    dsimp only [Sample.escapedRuntime] at failed
    split at failed <;> cases failed
  · exact fun _ _ => held_nil

theorem Sample.escapedRuntime_dumped (content : List UInt8) :
    DocumentsDumped Sample.escapedRuntime content :=
  fun _ _ _ _ _ _ _ _ _ _ => ⟨rfl,rfl⟩

theorem staged_held_iff_sample : Interpreter Sample.escapedRuntime ∧ Tables.Held {} ∧
    ∃ staging, staged Sample.escapedRuntime {} Sample.fullImport Sample.readableFile =
      some staging ∧ staging.Held ∧
    validateAndStage Sample.escapedRuntime {} Sample.fullImport Sample.readableFile ≠
      .error .dataError := by
  have stored : Tables.Held {} := ⟨nofun,nofun⟩
  have dumps : DumpsHeld Sample.escapedRuntime ((parseCatalogCsv Sample.escapedRuntime
      Sample.readableFile).rows.map (appendDatabaseConflicts {})) := by
    have storable : Storable Sample.escapedRuntime ((parseCatalogCsv Sample.escapedRuntime
        Sample.readableFile).rows.map (appendDatabaseConflicts {})) := by decide +kernel
    exact (storable_iff.mp storable).2
  have done := Sample.escapedRuntime_dumped Sample.readableFile
  have documents := (dumpsHeld_append_iff done).mp dumps
  obtain ⟨all,transaction⟩ := staged_held_iff Sample.escapedRuntime Sample.interpreter {} stored
    Sample.fullImport Sample.readableFile
  have begun := staged_of_dumped {} Sample.fullImport done
  exact ⟨Sample.interpreter,stored,_,begun,all.mpr (fun _ => documents) _ begun,
    fun failed => ((transaction rfl).mp failed).2 documents⟩

/-- The file has no null byte, and an attribute of its row is decoded to one. -/
theorem escaped_null_staged : Interpreter Sample.escapedRuntime ∧ Tables.Held {} ∧
    (∃ staging, staged Sample.escapedRuntime {} Sample.fullImport Sample.escapedFile =
      some staging ∧ ¬staging.Held) ∧
    validateAndStage Sample.escapedRuntime {} Sample.fullImport Sample.escapedFile =
      .error .dataError := by
  have begun := staged_of_dumped {} Sample.fullImport
    (Sample.escapedRuntime_dumped Sample.escapedFile)
  have refused : ((stage Sample.escapedRuntime {} Sample.fullImport
      (parseCatalogCsv Sample.escapedRuntime Sample.escapedFile).issues
        ((parseCatalogCsv Sample.escapedRuntime Sample.escapedFile).rows.map
          (appendDatabaseConflicts {}))).rows.any
      fun row => row.normalizedData.any fun data => !data.storable) = true := by decide +kernel
  have failed : ¬DumpsHeld Sample.escapedRuntime ((parseCatalogCsv Sample.escapedRuntime
      Sample.escapedFile).rows.map (appendDatabaseConflicts {})) := by
    rw [← stage_held_iff Sample.escapedRuntime {} Sample.fullImport
      (parseCatalogCsv Sample.escapedRuntime Sample.escapedFile).issues,refused]
    simp
  refine ⟨Sample.interpreter,⟨nofun,nofun⟩,⟨_,begun,?_⟩,?_⟩
  · intro held
    obtain ⟨row,member,present⟩ := List.any_eq_true.mp refused
    obtain ⟨data,normalized,unstorable⟩ := (Option.any_eq_true _ _).mp present
    rw [(held.rows row member).documents data normalized] at unstorable
    cases unstorable
  · rw [validateAndStage_validating _ _ _ rfl,begun,Option.elim_some]
    exact commit_dataError_iff.mpr failed

end Staged

end Abacus.Catalog
