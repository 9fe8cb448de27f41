import Abacus.Catalog.Nested
import Abacus.Catalog.Validated

/-! The documents of a row, from its cells to what is staged of them.
Every document of a parsed row is fine, and a fine document that a JSONB column can hold is staged
as it is.
-/
set_option autoImplicit false

namespace Abacus.Catalog

open Python (Text text Json JsonObject)

section Fine

variable {members : JsonObject} {name value fieldName : Text} {document : Json}

/-- Below the document itself there is a level less to go. -/
theorem fine_iff : Fine document ↔ document.finite = true ∧ ∀ child ∈ document.children,
    ∀ depth node, child.At depth node → depth + 1 ≤ maxAttributeJsonDepth ∧ node.finite = true := by
  constructor
  · intro fine
    refine ⟨(fine 0 document .root).2,?_⟩
    intro child member depth node inside
    exact fine (depth + 1) node (Json.at_of_child member inside)
  · rintro ⟨finite,below⟩ depth node inside
    rcases Json.at_cases inside with ⟨rfl,rfl⟩ | ⟨child,member,lower,rfl,inner⟩
    · exact ⟨Nat.zero_le _,finite⟩
    · exact below child member lower node inner

theorem mem_setMember {member : Python.Member} {value : Json}
    (listed : member ∈ setMember members name value) :
    member ∈ members ∨ member = (name,value) := by
  unfold setMember at listed
  split at listed
  · obtain ⟨old,stored,rfl⟩ := List.mem_map.mp listed
    split
    · exact .inr rfl
    · exact .inl stored
  · rcases List.mem_append.mp listed with old | new
    · exact .inl old
    · exact .inr (List.mem_singleton.mp new)

theorem fine_setMember (fine : Fine (.object members)) :
    Fine (.object (setMember members name (jsonText value))) := by
  rw [fine_iff] at fine ⊢
  refine ⟨rfl,?_⟩
  intro child listed depth node inside
  obtain ⟨member,stored,rfl⟩ := List.mem_map.mp listed
  rcases mem_setMember stored with old | rfl
  · exact fine.2 member.2 (List.mem_map_of_mem old) depth node inside
  · rcases Json.at_cases inside with ⟨rfl,rfl⟩ | ⟨below,none,-⟩
    · exact ⟨by decide,rfl⟩
    · cases none

theorem fine_of_validated (validated : validateJsonValue fieldName 0 document = .ok ()) :
    Fine document := by
  rw [← validateIteratively_eq,validateIteratively,Worklist.run_ok_iff] at validated
  exact (clear_iff_fine fieldName).mp (validated _ (List.mem_singleton_self _))

variable {runtime : Runtime} {rawData : RawData} {headers : List Text}

theorem fine_parseAttributes (parsed : parseAttributes runtime value fieldName = .ok members) :
    Fine (.object members) := by
  unfold parseAttributes at parsed
  dsimp only at parsed
  split at parsed
  · cases parsed
    rw [fine_iff]
    exact ⟨rfl,by simp [Json.children]⟩
  · split at parsed
    · cases parsed
    · split at parsed
      · cases parsed
      · cases parsed
      · next decoded _ =>
          cases validated : validateJsonValue fieldName 0 (.object decoded) with
          | error message =>
              rw [validated] at parsed
              cases parsed
          | ok checked =>
              rw [validated] at parsed
              cases parsed
              exact fine_of_validated validated
      · cases parsed

theorem fine_addAttributeColumn {header : Text} {after : JsonObject} (fine : Fine (.object members))
    (added : addAttributeColumn rawData members header = .ok after) : Fine (.object after) := by
  unfold addAttributeColumn at added
  dsimp only at added
  split at added
  · cases added
    exact fine
  · split at added
    · cases added
    · cases added
      exact fine_setMember fine

theorem fine_addAttributeColumns {after : JsonObject} (fine : Fine (.object members))
    (added : headers.foldlM (addAttributeColumn rawData) members = .ok after) :
    Fine (.object after) := by
  induction headers generalizing members with
  | nil =>
      cases added
      exact fine
  | cons header headers ih =>
      rw [List.foldlM_cons] at added
      cases one : addAttributeColumn rawData members header with
      | error message =>
          rw [one] at added
          cases added
      | ok middle =>
          rw [one] at added
          exact ih (fine_addAttributeColumn fine one) added

theorem fine_canonicalAttributes
    (canonical : canonicalAttributes runtime rawData headers = .ok members) :
    Fine (.object members) := by
  unfold canonicalAttributes at canonical
  cases parsed : parseAttributes runtime (rawData.get (text "attributes")) (text "attributes") with
  | error message =>
      rw [parsed] at canonical
      cases canonical
  | ok start =>
      rw [parsed] at canonical
      exact fine_addAttributeColumns (fine_parseAttributes parsed) canonical

end Fine

section Parsed

variable {runtime : Runtime} {headers : List Text} {record : Csv.Record} {data : CatalogRowData}

theorem modelValidate_documents {candidate : Candidate}
    (passed : modelValidate runtime candidate = .ok data) :
    data.attributes = candidate.attributes ∧ data.styleAttributes = candidate.styleAttributes := by
  unfold modelValidate at passed
  dsimp only at passed
  split at passed
  · cases passed
    exact ⟨rfl,rfl⟩
  · cases passed

def cellsRead (headers : List Text) (record : Csv.Record) : RawData :=
  ⟨cellsOf headers record.values,record.values.drop headers.length⟩

/-- A row that passes its validators has the documents of its cells. -/
theorem parseRow_documents (normalized : (parseRow runtime headers record).normalized = some data) :
    canonicalAttributes runtime (cellsRead headers record)
        (headers.filter fun header => Text.isPrefixOf attributePrefix header) =
          .ok data.attributes ∧
      parseAttributes runtime ((cellsRead headers record).get (text "style_attributes"))
        (text "style_attributes") = .ok data.styleAttributes := by
  unfold parseRow at normalized
  dsimp only at normalized
  split at normalized
  · cases normalized
  · split at normalized
    · cases normalized
    · next attributes canonical =>
        split at normalized
        · cases normalized
        · next styleAttributes parsed =>
            split at normalized
            · cases normalized
            · next passed =>
                cases normalized
                obtain ⟨own,style⟩ := modelValidate_documents passed
                rw [own,style]
                exact ⟨canonical,parsed⟩

/-- The rows of a file, before they are checked against each other. -/
theorem mem_parsed {content : List UInt8} {row : ParsedCatalogRow}
    (member : row ∈ (parseCatalogCsv runtime content).rows) :
    ∃ headers reading, dataSection runtime content = .ok (headers,reading) ∧
      ∃ record ∈ (dataRecords reading).take maxCatalogRows,
        row.normalized = (parseRow runtime headers record).normalized := by
  unfold parseCatalogCsv at member
  cases opened : dataSection runtime content with
  | error issues =>
      rw [opened] at member
      cases member
  | ok section_ =>
      rw [opened] at member
      have listed := List.mem_map_of_mem (f := ParsedCatalogRow.normalized) member
      rw [validateBatchConsistency_normalized] at listed
      obtain ⟨parsed,inside,same⟩ := List.mem_map.mp listed
      obtain ⟨record,place,rfl⟩ := List.mem_map.mp inside
      exact ⟨section_.1,section_.2,rfl,record,place,same.symm⟩

theorem validData_normalized {row : ParsedCatalogRow} (valid : row.validData = some data) :
    row.normalized = some data := by
  unfold ParsedCatalogRow.validData at valid
  split at valid
  · exact valid
  · cases valid

/-- The parser lets no document through that is not fine. -/
theorem fine_parsed (runtime : Runtime) (content : List UInt8) :
    ∀ data ∈ normalizedRows (parseCatalogCsv runtime content).rows,
      Fine (.object data.attributes) ∧ Fine (.object data.styleAttributes) := by
  intro data listed
  obtain ⟨row,member,valid⟩ := List.mem_filterMap.mp listed
  obtain ⟨headers,reading,-,record,-,same⟩ := mem_parsed member
  rw [validData_normalized valid] at same
  obtain ⟨canonical,parsed⟩ := parseRow_documents same.symm
  exact ⟨fine_canonicalAttributes canonical,fine_parseAttributes parsed⟩

end Parsed

section Dumps

variable {runtime : Runtime} {document column : JsonObject}

/-- What `model_dump` is documented to do with a document that has no unpaired surrogate: nothing. -/
def Runtime.DumpsClean (runtime : Runtime) : Prop :=
  ∀ document : JsonObject, Fine (.object document) → (Json.object document).storable = true →
    runtime.modelDump document = some document

theorem stored_of_storable (dumps : runtime.DumpsClean) (fine : Fine (.object document))
    (storable : (Json.object document).storable = true) : runtime.stored document = document := by
  rw [Runtime.stored,dumps document fine storable]
  rfl

/-- A document that a column of the catalog has already is staged as it is. -/
theorem stored_of_same (dumps : runtime.DumpsClean) (fine : Fine (.object document))
    (storable : (Json.object column).storable = true) (equal : same column document) :
    runtime.stored document = document := by
  apply stored_of_storable dumps fine
  rw [← Json.storable_of_asPython equal]
  exact storable

end Dumps

namespace Sample

theorem runtime_dumpsClean : runtime.DumpsClean := fun _ _ _ => rfl

theorem lossyRuntime_dumpsClean : lossyRuntime.DumpsClean := by
  intro document _ storable
  change some (lossyDump document) = some document
  rw [lossyDump,if_pos storable]

end Sample

end Abacus.Catalog
