import Abacus.Model.Catalog

/-! What the first pass of a promotion writes.
The three loops are read off the tables that they start from: no entity of a file has two
entries, so that every entry finds what was there before the promotion.
-/
set_option autoImplicit false

namespace Abacus.Catalog

open Relational (Table OrderedDict Identified Upsert attachAll)
open Python (Text text Json JsonObject)

/-- What the consistency checks of a file leave: rows that agree on every entity they share. -/
structure Consistent (rows : List CatalogRowData) : Prop where
  epcs : (rows.map CatalogRowData.epc).Nodup
  styles : ∀ row ∈ rows, ∀ other ∈ rows, row.styleCode = other.styleCode →
    row.styleName = other.styleName ∧
      (Json.object row.styleAttributes).dumps = (Json.object other.styleAttributes).dumps
  skus : ∀ row ∈ rows, ∀ other ∈ rows, row.sku = other.sku →
    row.styleCode = other.styleCode ∧ row.upc = other.upc ∧ row.color = other.color ∧
      row.size = other.size ∧
      (Json.object row.attributes).dumps = (Json.object other.attributes).dumps
  upcs : ∀ row ∈ rows, ∀ other ∈ rows, row.upc = other.upc → row.sku = other.sku

/-- Rows that agree on every entity they share, apart from its documents. -/
structure Keyed (rows : List CatalogRowData) : Prop where
  epcs : (rows.map CatalogRowData.epc).Nodup
  styles : ∀ row ∈ rows, ∀ other ∈ rows, row.styleCode = other.styleCode →
    row.styleName = other.styleName
  skus : ∀ row ∈ rows, ∀ other ∈ rows, row.sku = other.sku →
    row.styleCode = other.styleCode ∧ row.upc = other.upc ∧ row.color = other.color ∧
      row.size = other.size
  upcs : ∀ row ∈ rows, ∀ other ∈ rows, row.upc = other.upc → row.sku = other.sku

theorem Consistent.keyed {rows : List CatalogRowData} (consistent : Consistent rows) :
    Keyed rows where
  epcs := consistent.epcs
  styles := fun row member other listed same => (consistent.styles row member other listed same).1
  skus := by
    intro row member other listed same
    obtain ⟨style,upc,color,size,-⟩ := consistent.skus row member other listed same
    exact ⟨style,upc,color,size⟩
  upcs := consistent.upcs

structure Tables.WellFormed (tables : Tables) : Prop where
  styleIds : Identified ProductStyle.id tables.styles tables.nextId
  skuIds : Identified Sku.id tables.skus tables.nextId
  productIds : Identified Product.id tables.products tables.nextId
  variantIds : Identified ProductVariant.id tables.variants tables.nextId
  upcs : ∀ sku ∈ tables.skus.rows, ∀ other ∈ tables.skus.rows, sku.upc = other.upc → sku = other
  skuStyle : ∀ sku ∈ tables.skus.rows, ∃ style ∈ tables.styles.rows, style.id = sku.productStyleId
  bindingSku : ∀ binding ∈ tables.bindings, ∃ sku ∈ tables.skus.rows, sku.id = binding.skuId
  oneOpen : ((tables.bindings.filter EpcBinding.isOpen).map EpcBinding.epc).Nodup
  intervals : ∀ binding ∈ tables.bindings, binding.valid = true
  disjoint : tables.bindings.Pairwise EpcBinding.Apart
  variantProduct : ∀ variant ∈ tables.variants.rows,
    ∃ product ∈ tables.products.rows, product.id = variant.productId

theorem Tables.WellFormed.empty : ({} : Tables).WellFormed where
  styleIds := Identified.empty 0
  skuIds := Identified.empty 0
  productIds := Identified.empty 0
  variantIds := Identified.empty 0
  upcs := by simp
  skuStyle := by simp
  bindingSku := by simp
  oneOpen := by simp
  intervals := by simp
  disjoint := by simp
  variantProduct := by simp

def ConflictFree (tables : Tables) (rows : List CatalogRowData) : Prop :=
  ∀ row ∈ rows, promotionConflict tables row.sku row = none

/-- Every binding began before the promotion, and none ends after it. -/
def Tables.Before (tables : Tables) (effectiveAt : Time) : Prop :=
  ∀ binding ∈ tables.bindings, binding.effectiveFrom < effectiveAt ∧
    ∀ effectiveTo ∈ binding.effectiveTo, effectiveTo ≤ effectiveAt

section Entities

variable {rows : List CatalogRowData} {code : Text} {data : CatalogRowData}

theorem of_mem_styles (listed : (code,data) ∈ (entityData rows).styles.rows) :
    data ∈ rows ∧ data.styleCode = code :=
  ⟨(OrderedDict.mem_firstOf listed).2,(OrderedDict.mem_firstOf listed).1.symm⟩

theorem of_mem_skus (listed : (code,data) ∈ (entityData rows).skus.rows) :
    data ∈ rows ∧ data.sku = code :=
  ⟨(OrderedDict.mem_firstOf listed).2,(OrderedDict.mem_firstOf listed).1.symm⟩

theorem of_mem_epcs (listed : (code,data) ∈ (entityData rows).epcs.rows) :
    data ∈ rows ∧ data.epc = code :=
  ⟨(OrderedDict.mem_ofList listed).2,(OrderedDict.mem_ofList listed).1.symm⟩

theorem contains_styles : (entityData rows).styles.contains code = true ↔
    ∃ row ∈ rows, row.styleCode = code := OrderedDict.contains_firstOf

theorem contains_skus : (entityData rows).skus.contains code = true ↔
    ∃ row ∈ rows, row.sku = code := OrderedDict.contains_firstOf

theorem contains_epcs : (entityData rows).epcs.contains code = true ↔
    ∃ row ∈ rows, row.epc = code := OrderedDict.contains_ofList

theorem styles_keys_iff : code ∈ (entityData rows).styles.rows.map Prod.fst ↔
    ∃ row ∈ rows, row.styleCode = code := by
  rw [← contains_styles,OrderedDict.contains_iff]
  simp

theorem skus_keys_iff : code ∈ (entityData rows).skus.rows.map Prod.fst ↔
    ∃ row ∈ rows, row.sku = code := by
  rw [← contains_skus,OrderedDict.contains_iff]
  simp

theorem epcs_keys_iff : code ∈ (entityData rows).epcs.rows.map Prod.fst ↔
    ∃ row ∈ rows, row.epc = code := by
  rw [← contains_epcs,OrderedDict.contains_iff]
  simp

/-- The entry of an EPC is the one row that has it. -/
theorem epc_entry (keyed : Keyed rows) {row : CatalogRowData} (member : row ∈ rows) :
    (row.epc,row) ∈ (entityData rows).epcs.rows := by
  obtain ⟨last,listed⟩ : ∃ last, (row.epc,last) ∈ (entityData rows).epcs.rows :=
    OrderedDict.exists_ofList member
  obtain ⟨stored,same⟩ := of_mem_epcs listed
  have equal : last = row := List.inj_on_of_nodup_map keyed.epcs stored member same
  rw [equal] at listed
  exact listed

end Entities

section Revisions

theorem styleChanged_eq_false {style : ProductStyle} {data : CatalogRowData} :
    styleChanged style data = false ↔ style.name = data.styleName ∧
      same style.attributes data.styleAttributes ∧ style.active = true := by
  simp [styleChanged,and_assoc]

theorem skuChanged_eq_false {sku : Sku} {style : ProductStyle} {data : CatalogRowData} :
    skuChanged sku style data = false ↔ sku.productStyleId = style.id ∧ sku.upc = data.upc ∧
      sku.color = data.color ∧ sku.size = data.size ∧ same sku.attributes data.attributes ∧
        sku.active = true := by
  simp [skuChanged,and_assoc]

/-- The loop leaves a style alone only when it has the data of the file already. -/
theorem reviseStyle_eq (data : CatalogRowData) (style : ProductStyle) :
    reviseStyle data style =
      { style with
        name := data.styleName, attributes := assign style.attributes data.styleAttributes,
        active := true } := by
  unfold reviseStyle
  split
  · rfl
  · rename_i unchanged
    obtain ⟨name,attributes,active⟩ := styleChanged_eq_false.mp (Bool.not_eq_true _ ▸ unchanged)
    rw [assign,if_pos attributes,← name,← active]

theorem reviseSku_eq (data : CatalogRowData × ProductStyle) (sku : Sku) :
    reviseSku data sku =
      { sku with
        productStyleId := data.2.id, upc := data.1.upc, color := data.1.color, size := data.1.size,
        attributes := assign sku.attributes data.1.attributes, active := true } := by
  unfold reviseSku
  split
  · rfl
  · rename_i unchanged
    obtain ⟨style,upc,color,size,attributes,active⟩ :=
      skuChanged_eq_false.mp (Bool.not_eq_true _ ▸ unchanged)
    rw [assign,if_pos attributes,← style,← upc,← color,← size,← active]

end Revisions

/-- The style loop. -/
def stylePass (tables : Tables) (rows : List CatalogRowData) :=
  styleUpsert.all tables.styles tables.nextId (entityData rows).styles.rows

def styleOf (tables : Tables) (rows : List CatalogRowData) (row : CatalogRowData) :
    Option ProductStyle :=
  (stylePass tables rows).1.find? row.styleCode

/-- The SKU loop. -/
def skuPass (tables : Tables) (rows : List CatalogRowData)
    (entries : List (Text × CatalogRowData × ProductStyle)) :=
  skuUpsert.all tables.skus (stylePass tables rows).2.1 entries

def skuOf (tables : Tables) (rows : List CatalogRowData)
    (entries : List (Text × CatalogRowData × ProductStyle)) (row : CatalogRowData) : Option Sku :=
  (skuPass tables rows entries).1.find? row.sku

structure Pass (tables : Tables) (rows : List CatalogRowData) where
  skuEntries : List (Text × CatalogRowData × ProductStyle)
  epcEntries : List (Text × CatalogRowData × Sku)
  skusAttached : attachAll (styleOf tables rows) (entityData rows).skus.rows = some skuEntries
  epcsAttached :
    attachAll (skuOf tables rows skuEntries) (entityData rows).epcs.rows = some epcEntries

namespace Pass

variable {tables : Tables} {rows : List CatalogRowData}

section Styles

theorem styles_distinct : ((entityData rows).styles.rows.map Prod.fst).Nodup :=
  (entityData rows).styles.unique

/-- A named style is written over the one before by the first row of the file that names it. -/
theorem style_named (tables : Tables) {row : CatalogRowData} (member : row ∈ rows) :
    ∃ data fresh, data ∈ rows ∧ data.styleCode = row.styleCode ∧ tables.nextId ≤ fresh ∧
      (stylePass tables rows).1.find? row.styleCode =
        some (styleUpsert.written tables.styles fresh row.styleCode data) := by
  obtain ⟨data,listed⟩ : ∃ data, (row.styleCode,data) ∈ (entityData rows).styles.rows :=
    OrderedDict.exists_firstOf member
  obtain ⟨stored,keyed⟩ := of_mem_styles listed
  obtain ⟨fresh,later,found⟩ :=
    styleUpsert.find?_all_of_mem tables.styles tables.nextId styles_distinct listed
  exact ⟨data,fresh,stored,keyed,later,found⟩

theorem style_unnamed (tables : Tables) {code : Text} (unnamed : ∀ row ∈ rows, row.styleCode ≠ code) :
    (stylePass tables rows).1.find? code = tables.styles.find? code := by
  apply styleUpsert.find?_all_of_absent
  rw [styles_keys_iff]
  rintro ⟨row,member,same⟩
  exact unnamed row member same

theorem style_kept {style : ProductStyle} {code : Text}
    (found : tables.styles.find? code = some style) :
    ∃ after, (stylePass tables rows).1.find? code = some after ∧ after.id = style.id :=
  styleUpsert.kept_all tables.styles tables.nextId styles_distinct found

end Styles

section Skus

variable (pass : Pass tables rows)

theorem skus_distinct : (pass.skuEntries.map Prod.fst).Nodup := by
  rw [Relational.attachAll_keys pass.skusAttached]
  exact (entityData rows).skus.unique

/-- A named SKU is written by the first row of the file that names it, under the style of that
row. -/
theorem sku_named {row : CatalogRowData} (member : row ∈ rows) :
    ∃ data style fresh, data ∈ rows ∧ data.sku = row.sku ∧
      (stylePass tables rows).1.find? data.styleCode = some style ∧ tables.nextId ≤ fresh ∧
      (skuPass tables rows pass.skuEntries).1.find? row.sku =
        some (skuUpsert.written tables.skus fresh row.sku (data,style)) := by
  obtain ⟨data,listed⟩ : ∃ data, (row.sku,data) ∈ (entityData rows).skus.rows :=
    OrderedDict.exists_firstOf member
  obtain ⟨stored,keyed⟩ := of_mem_skus listed
  obtain ⟨style,attached,target⟩ := Relational.mem_attachAll pass.skusAttached listed
  obtain ⟨fresh,later,found⟩ := skuUpsert.find?_all_of_mem tables.skus
    (stylePass tables rows).2.1 pass.skus_distinct attached
  have grown : tables.nextId ≤ (stylePass tables rows).2.1 :=
    styleUpsert.next_all tables.styles tables.nextId _
  exact ⟨data,style,fresh,stored,keyed,target,grown.trans later,found⟩

theorem sku_unnamed {code : Text} (unnamed : ∀ row ∈ rows, row.sku ≠ code) :
    (skuPass tables rows pass.skuEntries).1.find? code = tables.skus.find? code := by
  apply skuUpsert.find?_all_of_absent
  rw [Relational.attachAll_keys pass.skusAttached,skus_keys_iff]
  rintro ⟨row,member,same⟩
  exact unnamed row member same

theorem sku_kept {sku : Sku} {code : Text} (found : tables.skus.find? code = some sku) :
    ∃ after, (skuPass tables rows pass.skuEntries).1.find? code = some after ∧ after.id = sku.id :=
  skuUpsert.kept_all tables.skus _ pass.skus_distinct found

end Skus

end Pass

section Bindings

variable (promotion : Promotion) (existing : Text → Option EpcBinding)

def rebinds (entry : Text × CatalogRowData × Sku) : Bool :=
  (existing entry.1).any fun binding => binding.skuId ≠ entry.2.2.id

def ends (entries : List (Text × CatalogRowData × Sku)) (binding : EpcBinding) : Bool :=
  binding.isOpen && entries.any fun entry => entry.1 = binding.epc && rebinds existing entry

def rebound (entries : List (Text × CatalogRowData × Sku)) (binding : EpcBinding) : EpcBinding :=
  if ends existing entries binding then binding.close promotion.effectiveAt else binding

def opened (entries : List (Text × CatalogRowData × Sku)) : List EpcBinding :=
  (entries.filter fun entry => (existing entry.1).isNone || rebinds existing entry).map fun entry =>
    newBinding promotion entry.1 entry.2.2

def epcChange (entry : Text × CatalogRowData × Sku) : Change :=
  if (existing entry.1).isNone then .inserted
  else if rebinds existing entry then .updated
  else .unchanged

theorem ends_cons_of_steady {entry : Text × CatalogRowData × Sku}
    {entries : List (Text × CatalogRowData × Sku)} (steady : rebinds existing entry = false)
    (binding : EpcBinding) : ends existing (entry :: entries) binding = ends existing entries binding := by
  simp [ends,steady]

theorem ends_cons_of_ne {entry : Text × CatalogRowData × Sku}
    {entries : List (Text × CatalogRowData × Sku)} {binding : EpcBinding}
    (apart : entry.1 ≠ binding.epc) :
    ends existing (entry :: entries) binding = ends existing entries binding := by
  simp [ends,apart]

theorem rebound_of_absent {entries : List (Text × CatalogRowData × Sku)} {binding : EpcBinding}
    (absent : binding.epc ∉ entries.map Prod.fst) :
    rebound promotion existing entries binding = binding := by
  unfold rebound ends
  rw [if_neg]
  simp only [Bool.and_eq_true,List.any_eq_true,decide_eq_true_eq]
  rintro ⟨-,entry,member,same,-⟩
  exact absent (List.mem_map.mpr ⟨entry,member,same⟩)

theorem rebound_closed {entries : List (Text × CatalogRowData × Sku)} {binding : EpcBinding}
    (closed : binding.isOpen = false) : rebound promotion existing entries binding = binding := by
  simp [rebound,ends,closed]

theorem rebound_cons_of_steady {entry : Text × CatalogRowData × Sku}
    {entries : List (Text × CatalogRowData × Sku)} (steady : rebinds existing entry = false) :
    rebound promotion existing (entry :: entries) = rebound promotion existing entries := by
  funext binding
  rw [rebound,rebound,ends_cons_of_steady existing steady]

/-- Closing the open binding of the first entry, then those of the others. -/
theorem rebound_cons {entry : Text × CatalogRowData × Sku}
    {entries : List (Text × CatalogRowData × Sku)} (rebinding : rebinds existing entry = true)
    (binding : EpcBinding) :
    rebound promotion existing entries
        (if binding.epc = entry.1 && binding.isOpen then binding.close promotion.effectiveAt
          else binding) =
      rebound promotion existing (entry :: entries) binding := by
  by_cases same : binding.epc = entry.1
  · cases isOpen : binding.isOpen with
    | true =>
        have closed : (binding.close promotion.effectiveAt).isOpen = false := rfl
        rw [if_pos (by simp [same]),rebound_closed promotion existing closed,rebound,if_pos]
        simp [ends,isOpen,same,rebinding]
    | false =>
        rw [if_neg (by simp),rebound_closed promotion existing isOpen,
          rebound_closed promotion existing isOpen]
  · rw [if_neg (by simp [same]),rebound,rebound,ends_cons_of_ne existing (Ne.symm same)]

theorem bindEpcs_eq {entries : List (Text × CatalogRowData × Sku)}
    (distinct : (entries.map Prod.fst).Nodup) (bindings : List EpcBinding) :
    bindEpcs promotion existing bindings entries =
      (bindings.map (rebound promotion existing entries) ++ opened promotion existing entries,
        entries.map (epcChange existing)) := by
  induction entries generalizing bindings with
  | nil =>
      have unchanged : bindings.map (rebound promotion existing []) = bindings := by
        rw [List.map_congr_left (g := id),List.map_id]
        intro binding _
        exact rebound_of_absent promotion existing (List.not_mem_nil)
      simp [bindEpcs,unchanged,opened]
  | cons entry entries ih =>
      obtain ⟨epc,data,sku⟩ := entry
      rw [List.map_cons,List.nodup_cons] at distinct
      have kept : rebound promotion existing entries (newBinding promotion epc sku) =
          newBinding promotion epc sku := rebound_of_absent promotion existing distinct.1
      rw [bindEpcs]
      cases found : existing epc with
      | none =>
          have steady : rebinds existing (epc,data,sku) = false := by simp [rebinds,found]
          dsimp only
          rw [ih distinct.2,List.map_append,List.map_singleton,kept,
            rebound_cons_of_steady promotion existing steady]
          simp [opened,epcChange,found]
      | some binding =>
          dsimp only
          by_cases changed : binding.skuId = sku.id
          · have steady : rebinds existing (epc,data,sku) = false := by
              simp [rebinds,found,changed]
            rw [if_neg (by simp [changed]),ih distinct.2,
              rebound_cons_of_steady promotion existing steady]
            simp [opened,epcChange,found,steady]
          · have rebinding : rebinds existing (epc,data,sku) = true := by
              simp [rebinds,found,changed]
            have same : (closeBinding promotion.effectiveAt epc bindings).map
                  (rebound promotion existing entries) =
                bindings.map (rebound promotion existing ((epc,data,sku) :: entries)) := by
              rw [closeBinding,List.map_map]
              apply List.map_congr_left
              intro other _
              exact rebound_cons promotion existing rebinding other
            rw [if_pos (by simp [changed]),ih distinct.2,List.map_append,List.map_singleton,kept,same]
            simp [opened,epcChange,found,rebinding]

end Bindings

/-- Every loop finds what it refers to, since the loop before has written it. -/
theorem exists_pass (tables : Tables) (rows : List CatalogRowData) : Nonempty (Pass tables rows) := by
  have styles : ∀ entry ∈ (entityData rows).skus.rows,
      ∃ style, styleOf tables rows entry.2 = some style := by
    intro entry listed
    obtain ⟨data,fresh,-,-,-,found⟩ :=
      Pass.style_named tables (OrderedDict.mem_firstOf listed).2
    exact ⟨_,found⟩
  obtain ⟨skuEntries,skusAttached⟩ := Relational.attachAll_of_found styles
  have distinct : (skuEntries.map Prod.fst).Nodup := by
    rw [Relational.attachAll_keys skusAttached]
    exact (entityData rows).skus.unique
  have skus : ∀ entry ∈ (entityData rows).epcs.rows,
      ∃ sku, skuOf tables rows skuEntries entry.2 = some sku := by
    intro entry listed
    obtain ⟨data,first⟩ : ∃ data, (entry.2.sku,data) ∈ (entityData rows).skus.rows :=
      OrderedDict.exists_firstOf (OrderedDict.mem_ofList listed).2
    obtain ⟨style,attached,-⟩ := Relational.mem_attachAll skusAttached first
    obtain ⟨fresh,-,found⟩ :=
      skuUpsert.find?_all_of_mem tables.skus (stylePass tables rows).2.1 distinct attached
    exact ⟨_,found⟩
  obtain ⟨epcEntries,epcsAttached⟩ := Relational.attachAll_of_found skus
  exact ⟨⟨skuEntries,epcEntries,skusAttached,epcsAttached⟩⟩

namespace Pass

variable {tables : Tables} {rows : List CatalogRowData} (pass : Pass tables rows)
  (promotion : Promotion)

theorem epcs_distinct : (pass.epcEntries.map Prod.fst).Nodup := by
  rw [Relational.attachAll_keys pass.epcsAttached]
  exact (entityData rows).epcs.unique

def written : Tables :=
  { tables with
    styles := (stylePass tables rows).1
    skus := (skuPass tables rows pass.skuEntries).1
    bindings := tables.bindings.map (rebound promotion tables.openBinding pass.epcEntries) ++
      opened promotion tables.openBinding pass.epcEntries
    nextId := (skuPass tables rows pass.skuEntries).2.1 }

def after : Tables :=
  if promotion.mode = .full then
    deactivateOmitted (entityData rows) promotion.effectiveAt (pass.written promotion)
  else pass.written promotion

def omitted (promotion : Promotion) (number : ℕ) : ℕ := if promotion.mode = .full then number else 0

def outcome : Outcome where
  mode := promotion.mode
  effectiveAt := promotion.effectiveAt
  styles := .tally ((stylePass tables rows).2.2.map styleChange)
    (omitted promotion ((pass.written promotion).styles.rows.countP fun style =>
      !(entityData rows).styles.contains style.code && style.active))
  skus := .tally ((skuPass tables rows pass.skuEntries).2.2.map skuChange)
    (omitted promotion ((pass.written promotion).skus.rows.countP fun sku =>
      !(entityData rows).skus.contains sku.code && sku.active))
  epcBindings := .tally (pass.epcEntries.map (epcChange tables.openBinding))
    (omitted promotion ((pass.written promotion).bindings.countP fun binding =>
      !(entityData rows).epcs.contains binding.epc && binding.isOpen))

end Pass

def firstConflict (tables : Tables) (rows : List CatalogRowData) : Option Text :=
  (entityData rows).skus.rows.findSome? fun entry => promotionConflict tables entry.1 entry.2

/-- Past the conflicts the loops decide everything but the constraints on the intervals. -/
theorem applyPromotion_eq {tables : Tables} {rows : List CatalogRowData} (pass : Pass tables rows)
    (promotion : Promotion) (free : firstConflict tables rows = none) :
    applyPromotion tables promotion rows =
      checked (pass.outcome promotion) (pass.after promotion) := by
  have skus : attachAll (fun row : CatalogRowData => (styleUpsert.all tables.styles tables.nextId
      (entityData rows).styles.rows).1.find? row.styleCode) (entityData rows).skus.rows =
        some pass.skuEntries := pass.skusAttached
  have epcs : attachAll (fun row : CatalogRowData => (skuUpsert.all tables.skus
      (styleUpsert.all tables.styles tables.nextId (entityData rows).styles.rows).2.1
        pass.skuEntries).1.find? row.sku) (entityData rows).epcs.rows =
          some pass.epcEntries := pass.epcsAttached
  rw [firstConflict] at free
  simp only [applyPromotion,free,skus,epcs,bindEpcs_eq promotion _ pass.epcs_distinct]
  rfl

theorem firstConflict_eq_none {tables : Tables} {rows : List CatalogRowData}
    (free : ConflictFree tables rows) : firstConflict tables rows = none := by
  rw [firstConflict,List.findSome?_eq_none_iff]
  intro entry listed
  obtain ⟨member,same⟩ := of_mem_skus listed
  rw [← same]
  exact free entry.2 member

theorem violatedConstraint_eq_none {bindings : List EpcBinding} :
    violatedConstraint bindings = none ↔
      (∀ binding ∈ bindings, binding.valid = true) ∧ bindings.Pairwise EpcBinding.Apart := by
  rw [violatedConstraint,← List.all_eq_true]
  cases bindings.all EpcBinding.valid with
  | false => simp
  | true => simp

theorem checked_of_none {outcome : Outcome} {after : Tables}
    (held : violatedConstraint after.bindings = none) : checked outcome after = .ok (outcome,after) := by
  rw [checked,held]

/-- What was written passes unchanged, or a constraint does not hold of it. -/
theorem checked_cases (outcome : Outcome) (after : Tables) :
    (violatedConstraint after.bindings = none ∧ checked outcome after = .ok (outcome,after)) ∨
      ∃ constraint, violatedConstraint after.bindings = some constraint ∧
        checked outcome after = .error (.integrityError constraint) := by
  unfold checked
  cases violatedConstraint after.bindings with
  | none => exact .inl ⟨rfl,rfl⟩
  | some constraint => exact .inr ⟨constraint,rfl,rfl⟩

/-- A promotion that gets through went through the loops, and its bindings keep their
constraints. -/
theorem applyPromotion_eq_ok {tables after : Tables} {rows : List CatalogRowData}
    {promotion : Promotion} {outcome : Outcome}
    (applied : applyPromotion tables promotion rows = .ok (outcome,after)) :
    firstConflict tables rows = none ∧ ∃ pass : Pass tables rows, outcome = pass.outcome promotion ∧
      after = pass.after promotion ∧ violatedConstraint after.bindings = none := by
  cases free : firstConflict tables rows with
  | some message =>
      rw [firstConflict] at free
      simp only [applyPromotion,free] at applied
      cases applied
  | none =>
      obtain ⟨pass⟩ := exists_pass tables rows
      rw [applyPromotion_eq pass promotion free] at applied
      rcases checked_cases (pass.outcome promotion) (pass.after promotion) with
        ⟨held,same⟩ | ⟨constraint,-,refused⟩
      · rw [same] at applied
        cases applied
        exact ⟨rfl,pass,rfl,rfl,held⟩
      · rw [refused] at applied
        cases applied

end Abacus.Catalog
