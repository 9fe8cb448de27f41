import Abacus.Library.Machine
import Abacus.Library.Upsert
import Abacus.Model.CatalogRows
import Abacus.Model.Schema

/-! Promotion of catalog imports (`services/catalog.py`).
One pass writes styles, SKUs and EPC bindings, and a second one projects them to products,
variants and tags. Both run inside one savepoint.
-/
set_option autoImplicit false

namespace Abacus.Catalog

open Relational (Table OrderedDict Upsert attachAll)
open Python (Text text Json JsonObject)

section Columns

/-- `==` of two dictionaries. -/
def same (left right : JsonObject) : Prop :=
  (Json.object left).asPython = (Json.object right).asPython

instance (left right : JsonObject) : Decidable (same left right) :=
  inferInstanceAs (Decidable (_ = _))

/-- An assigned document reaches its column unless it compares equal to the loaded one: the ORM
leaves such a column out of the `UPDATE`. -/
def assign (loaded assigned : JsonObject) : JsonObject :=
  if same loaded assigned then loaded else assigned

def Runtime.str (runtime : Runtime) : Json → Text
  | .scalar (.string value) => value
  | value => runtime.repr value

/-- `str(attributes.get("category") or "UNCATEGORIZED").strip()`. -/
def category (runtime : Runtime) (attributes : JsonObject) : Text :=
  let value := attributes.lookup (text "category")
  Text.strip (if value.any Json.truthy then runtime.str (value.getD (.scalar .null))
    else text "UNCATEGORIZED")

end Columns

structure ProductStyle where
  id : Uuid
  code : Text
  name : Text
  attributes : JsonObject
  active : Bool

structure Sku where
  id : Uuid
  productStyleId : Uuid
  productVariantId : Option Uuid
  code : Text
  upc : Text
  color : Text
  size : Text
  attributes : JsonObject
  active : Bool

structure EpcBinding where
  skuId : Uuid
  epc : Text
  effectiveFrom : Time
  effectiveTo : Option Time
  sourceImportId : Uuid

structure Product where
  id : Uuid
  styleCode : Text
  name : Text
  category : Text
  attributes : JsonObject
  active : Bool

structure ProductVariant where
  id : Uuid
  productId : Uuid
  color : Text
  active : Bool

structure RfidTag where
  epc : Text
  skuId : Uuid
  sourceImportId : Uuid
  active : Bool

def ProductStyle.deactivate (style : ProductStyle) : ProductStyle := { style with active := false }

def Sku.deactivate (sku : Sku) : Sku := { sku with active := false }

def Sku.toVariant (sku : Sku) (variantId : Uuid) : Sku :=
  { sku with productVariantId := some variantId }

def EpcBinding.isOpen (binding : EpcBinding) : Bool := binding.effectiveTo.isNone

def EpcBinding.close (effectiveAt : Time) (binding : EpcBinding) : EpcBinding :=
  { binding with effectiveTo := some effectiveAt }

/-- `ck_epc_bindings_valid_interval`. -/
def EpcBinding.valid (binding : EpcBinding) : Bool :=
  binding.effectiveTo.all fun effectiveTo => binding.effectiveFrom < effectiveTo

/-- `&&` of the ranges of two bindings of one EPC. -/
def EpcBinding.overlaps (binding other : EpcBinding) : Bool :=
  binding.epc = other.epc &&
    other.effectiveTo.all (fun effectiveTo => binding.effectiveFrom < effectiveTo) &&
    binding.effectiveTo.all fun effectiveTo => other.effectiveFrom < effectiveTo

/-- `ex_epc_bindings_no_overlap`. -/
def EpcBinding.Apart (binding other : EpcBinding) : Prop := binding.overlaps other = false

instance : DecidableRel EpcBinding.Apart := fun binding other =>
  inferInstanceAs (Decidable (binding.overlaps other = false))

def violatedConstraint (bindings : List EpcBinding) : Option String :=
  if !bindings.all EpcBinding.valid then some "ck_epc_bindings_valid_interval"
  else if ¬bindings.Pairwise EpcBinding.Apart then some "ex_epc_bindings_no_overlap"
  else none

def Product.deactivate (product : Product) : Product := { product with active := false }

def ProductVariant.key (variant : ProductVariant) : Uuid × Text := (variant.productId,variant.color)

def ProductVariant.deactivate (variant : ProductVariant) : ProductVariant :=
  { variant with active := false }

def RfidTag.deactivate (tag : RfidTag) : RfidTag := { tag with active := false }

@[simp] theorem ProductStyle.deactivate_code (style : ProductStyle) :
    style.deactivate.code = style.code := rfl

@[simp] theorem Sku.deactivate_code (sku : Sku) : sku.deactivate.code = sku.code := rfl

@[simp] theorem Product.deactivate_styleCode (product : Product) :
    product.deactivate.styleCode = product.styleCode := rfl

@[simp] theorem ProductVariant.deactivate_key (variant : ProductVariant) :
    variant.deactivate.key = variant.key := rfl

@[simp] theorem RfidTag.deactivate_epc (tag : RfidTag) : tag.deactivate.epc = tag.epc := rfl

/-- The catalog tables of a tenant. New rows get their ids in turn, so that no id is used twice. -/
structure Tables where
  styles : Table ProductStyle.code := Table.empty
  skus : Table Sku.code := Table.empty
  bindings : List EpcBinding := []
  products : Table Product.styleCode := Table.empty
  variants : Table ProductVariant.key := Table.empty
  tags : Table RfidTag.epc := Table.empty
  nextId : Uuid := 0

namespace Tables

def styleById (tables : Tables) (id : Uuid) : Option ProductStyle :=
  tables.styles.rows.find? fun style => style.id = id

def skuById (tables : Tables) (id : Uuid) : Option Sku :=
  tables.skus.rows.find? fun sku => sku.id = id

def skuByUpc (tables : Tables) (upc : Text) : Option Sku :=
  tables.skus.rows.find? fun sku => sku.upc = upc

def productById (tables : Tables) (id : Uuid) : Option Product :=
  tables.products.rows.find? fun product => product.id = id

def openBinding (tables : Tables) (epc : Text) : Option EpcBinding :=
  tables.bindings.find? fun binding => binding.epc = epc && binding.isOpen

end Tables

inductive CatalogImportMode where
  | delta
  | full
deriving DecidableEq, Repr

structure Counter where
  inserted : ℕ := 0
  updated : ℕ := 0
  unchanged : ℕ := 0
  deactivated : ℕ := 0
deriving DecidableEq, Repr

/-- The counter that one entity of the file increments. -/
inductive Change where
  | inserted
  | updated
  | unchanged
deriving DecidableEq, Repr

def Counter.tally (changes : List Change) (deactivated : ℕ) : Counter where
  inserted := changes.count .inserted
  updated := changes.count .updated
  unchanged := changes.count .unchanged
  deactivated := deactivated

/-- The first row of every style, the first of every SKU, and the last of every EPC. -/
structure EntityData where
  styles : OrderedDict Text CatalogRowData
  skus : OrderedDict Text CatalogRowData
  epcs : OrderedDict Text CatalogRowData

def entityData (rows : List CatalogRowData) : EntityData where
  styles := OrderedDict.firstOf CatalogRowData.styleCode rows
  skus := OrderedDict.firstOf CatalogRowData.sku rows
  epcs := OrderedDict.ofList CatalogRowData.epc rows

def styleChanged (style : ProductStyle) (data : CatalogRowData) : Bool :=
  style.name ≠ data.styleName || !(same style.attributes data.styleAttributes) || !style.active

def skuChanged (sku : Sku) (style : ProductStyle) (data : CatalogRowData) : Bool :=
  sku.productStyleId ≠ style.id || sku.upc ≠ data.upc || sku.color ≠ data.color ||
    sku.size ≠ data.size || !(same sku.attributes data.attributes) || !sku.active

section Preview

structure Preview where
  mode : CatalogImportMode
  styles : Counter
  skus : Counter
  epcBindings : Counter
  rows : ℕ
deriving DecidableEq

def previewStyle (tables : Tables) (code : Text) (data : CatalogRowData) : Change :=
  match tables.styles.find? code with
  | none => .inserted
  | some existingStyle => if styleChanged existingStyle data then .updated else .unchanged

def previewSku (tables : Tables) (code : Text) (data : CatalogRowData) : Change :=
  match tables.skus.find? code, tables.styles.find? data.styleCode with
  | none, _ => .inserted
  | some _, none => .updated
  | some existingSku, some targetStyle =>
      if skuChanged existingSku targetStyle data then .updated else .unchanged

def previewEpc (tables : Tables) (epc : Text) (data : CatalogRowData) : Change :=
  match tables.openBinding epc with
  | none => .inserted
  | some binding =>
      match tables.skuById binding.skuId with
      | none => .updated
      | some boundSku => if boundSku.code ≠ data.sku then .updated else .unchanged

def buildPreview (mode : CatalogImportMode) (rows : List CatalogRowData) (tables : Tables) :
    Preview :=
  let data := entityData rows
  let omitted := fun number => if mode = .full then number else 0
  { mode := mode
    styles := .tally (data.styles.rows.map fun entry => previewStyle tables entry.1 entry.2)
      (omitted (tables.styles.rows.countP fun style =>
        style.active && !data.styles.contains style.code))
    skus := .tally (data.skus.rows.map fun entry => previewSku tables entry.1 entry.2)
      (omitted (tables.skus.rows.countP fun sku => sku.active && !data.skus.contains sku.code))
    epcBindings := .tally (data.epcs.rows.map fun entry => previewEpc tables entry.1 entry.2)
      (omitted (tables.bindings.countP fun binding =>
        binding.isOpen && !data.epcs.contains binding.epc))
    rows := rows.length }

end Preview

structure Promotion where
  importId : Uuid
  mode : CatalogImportMode
  effectiveAt : Time

structure Outcome where
  mode : CatalogImportMode
  effectiveAt : Time
  styles : Counter
  skus : Counter
  epcBindings : Counter
deriving DecidableEq

/-- What ends a promotion: the first two fail the import, the others leave the worker's call. -/
inductive PromotionError where
  | conflict (message : Text)
  | integrityError (constraint : String)
  | dataError
  | keyError
deriving DecidableEq

section Writers

def createStyle (code : Text) (data : CatalogRowData) (fresh : Uuid) : ProductStyle where
  id := fresh
  code := code
  name := data.styleName
  attributes := data.styleAttributes
  active := true

def reviseStyle (data : CatalogRowData) (style : ProductStyle) : ProductStyle :=
  if styleChanged style data then
    { style with
      name := data.styleName, attributes := assign style.attributes data.styleAttributes,
      active := true }
  else style

def createSku (code : Text) (data : CatalogRowData × ProductStyle) (fresh : Uuid) : Sku where
  id := fresh
  productStyleId := data.2.id
  productVariantId := none
  code := code
  upc := data.1.upc
  color := data.1.color
  size := data.1.size
  attributes := data.1.attributes
  active := true

def reviseSku (data : CatalogRowData × ProductStyle) (sku : Sku) : Sku :=
  if skuChanged sku data.2 data.1 then
    { sku with
      productStyleId := data.2.id, upc := data.1.upc, color := data.1.color, size := data.1.size,
      attributes := assign sku.attributes data.1.attributes, active := true }
  else sku

def createProduct (runtime : Runtime) (styleCode : Text) (row : CatalogRowData) (fresh : Uuid) :
    Product where
  id := fresh
  styleCode := styleCode
  name := row.styleName
  category := category runtime row.styleAttributes
  attributes := row.styleAttributes
  active := true

def reviseProduct (runtime : Runtime) (row : CatalogRowData) (product : Product) : Product :=
  { product with
    name := row.styleName, category := category runtime row.styleAttributes,
    attributes := assign product.attributes row.styleAttributes, active := true }

def createVariant (key : Uuid × Text) (_ : Unit) (fresh : Uuid) : ProductVariant :=
  ⟨fresh,key.1,key.2,true⟩

def reviseVariant (_ : Unit) (variant : ProductVariant) : ProductVariant :=
  { variant with active := true }

theorem reviseStyle_code (data : CatalogRowData) (style : ProductStyle) :
    (reviseStyle data style).code = style.code := by
  unfold reviseStyle
  split <;> rfl

theorem reviseStyle_id (data : CatalogRowData) (style : ProductStyle) :
    (reviseStyle data style).id = style.id := by
  unfold reviseStyle
  split <;> rfl

theorem reviseSku_code (data : CatalogRowData × ProductStyle) (sku : Sku) :
    (reviseSku data sku).code = sku.code := by
  unfold reviseSku
  split <;> rfl

theorem reviseSku_id (data : CatalogRowData × ProductStyle) (sku : Sku) :
    (reviseSku data sku).id = sku.id := by
  unfold reviseSku
  split <;> rfl

def styleUpsert : Upsert ProductStyle.code ProductStyle.id CatalogRowData where
  create := createStyle
  revise := reviseStyle
  key_create _ _ _ := rfl
  id_create _ _ _ := rfl
  key_revise := reviseStyle_code
  id_revise := reviseStyle_id

def skuUpsert : Upsert Sku.code Sku.id (CatalogRowData × ProductStyle) where
  create := createSku
  revise := reviseSku
  key_create _ _ _ := rfl
  id_create _ _ _ := rfl
  key_revise := reviseSku_code
  id_revise := reviseSku_id

def productUpsert (runtime : Runtime) : Upsert Product.styleCode Product.id CatalogRowData where
  create := createProduct runtime
  revise := reviseProduct runtime
  key_create _ _ _ := rfl
  id_create _ _ _ := rfl
  key_revise _ _ := rfl
  id_revise _ _ := rfl

def variantUpsert : Upsert ProductVariant.key ProductVariant.id Unit where
  create := createVariant
  revise := reviseVariant
  key_create _ _ _ := rfl
  id_create _ _ _ := rfl
  key_revise _ _ := rfl
  id_revise _ _ := rfl

end Writers

section Apply

def promotionConflict (tables : Tables) (code : Text) (data : CatalogRowData) : Option Text :=
  match (tables.skuByUpc data.upc).filter fun owner => owner.code ≠ code with
  | some owner => some (text "UPC " ++ data.upc ++ text " now belongs to SKU " ++ owner.code ++
      text "; revalidate the import.")
  | none =>
      match (tables.skus.find? code).bind fun existing => tables.styleById existing.productStyleId with
      | none => none
      | some existingStyle =>
          if existingStyle.code ≠ data.styleCode then
            some (text "SKU " ++ code ++ text " now belongs to style " ++ existingStyle.code ++
              text "; revalidate the import.")
          else none

def styleChange (found : CatalogRowData × Option ProductStyle) : Change :=
  match found.2 with
  | none => .inserted
  | some style => if styleChanged style found.1 then .updated else .unchanged

def skuChange (found : (CatalogRowData × ProductStyle) × Option Sku) : Change :=
  match found.2 with
  | none => .inserted
  | some sku => if skuChanged sku found.1.2 found.1.1 then .updated else .unchanged

def newBinding (promotion : Promotion) (epc : Text) (sku : Sku) : EpcBinding where
  skuId := sku.id
  epc := epc
  effectiveFrom := promotion.effectiveAt
  effectiveTo := none
  sourceImportId := promotion.importId

def closeBinding (effectiveAt : Time) (epc : Text) (bindings : List EpcBinding) : List EpcBinding :=
  bindings.map fun binding =>
    if binding.epc = epc && binding.isOpen then binding.close effectiveAt else binding

def bindEpcs (promotion : Promotion) (existing : Text → Option EpcBinding)
    (bindings : List EpcBinding) : List (Text × CatalogRowData × Sku) → List EpcBinding × List Change
  | [] => (bindings,[])
  | (epc,_,sku) :: entries =>
      match existing epc with
      | none =>
          let rest := bindEpcs promotion existing (bindings ++ [newBinding promotion epc sku]) entries
          (rest.1,.inserted :: rest.2)
      | some binding =>
          if binding.skuId ≠ sku.id then
            let rest := bindEpcs promotion existing
              (closeBinding promotion.effectiveAt epc bindings ++ [newBinding promotion epc sku]) entries
            (rest.1,.updated :: rest.2)
          else
            let rest := bindEpcs promotion existing bindings entries
            (rest.1,.unchanged :: rest.2)

def deactivateOmitted (data : EntityData) (effectiveAt : Time) (tables : Tables) : Tables :=
  { tables with
    skus := tables.skus.updateWhere (fun sku => !data.skus.contains sku.code && sku.active)
      Sku.deactivate Sku.deactivate_code
    styles := tables.styles.updateWhere
      (fun style => !data.styles.contains style.code && style.active)
      ProductStyle.deactivate ProductStyle.deactivate_code
    bindings := tables.bindings.map fun binding =>
      if !data.epcs.contains binding.epc && binding.isOpen then binding.close effectiveAt
      else binding }

/-- What was written, unless a constraint of `epc_bindings` does not hold of it. -/
def checked (outcome : Outcome) (after : Tables) : Except PromotionError (Outcome × Tables) :=
  match violatedConstraint after.bindings with
  | some constraint => .error (.integrityError constraint)
  | none => .ok (outcome,after)

/-- `_apply_promotion`. -/
def applyPromotion (tables : Tables) (promotion : Promotion) (rows : List CatalogRowData) :
    Except PromotionError (Outcome × Tables) :=
  let data := entityData rows
  match data.skus.rows.findSome? fun entry => promotionConflict tables entry.1 entry.2 with
  | some message => .error (.conflict message)
  | none =>
      let styles := styleUpsert.all tables.styles tables.nextId data.styles.rows
      match attachAll (fun row => styles.1.find? row.styleCode) data.skus.rows with
      | none => .error .keyError
      | some skuEntries =>
          let skus := skuUpsert.all tables.skus styles.2.1 skuEntries
          match attachAll (fun row => skus.1.find? row.sku) data.epcs.rows with
          | none => .error .keyError
          | some epcEntries =>
              let bound := bindEpcs promotion tables.openBinding tables.bindings epcEntries
              let written : Tables := { tables with
                styles := styles.1, skus := skus.1, bindings := bound.1, nextId := skus.2.1 }
              let after := if promotion.mode = .full then
                deactivateOmitted data promotion.effectiveAt written else written
              let omitted := fun number => if promotion.mode = .full then number else 0
              checked {
                mode := promotion.mode
                effectiveAt := promotion.effectiveAt
                styles := .tally (styles.2.2.map styleChange)
                  (omitted (written.styles.rows.countP fun style =>
                    !data.styles.contains style.code && style.active))
                skus := .tally (skus.2.2.map skuChange)
                  (omitted (written.skus.rows.countP fun sku =>
                    !data.skus.contains sku.code && sku.active))
                epcBindings := .tally bound.2
                  (omitted (written.bindings.countP fun binding =>
                    !data.epcs.contains binding.epc && binding.isOpen)) } after

end Apply

section Project

def tagOf (promotion : Promotion) (epc : Text) (sku : Sku) (existing : Option RfidTag) : RfidTag :=
  match existing with
  | none => ⟨epc,sku.id,promotion.importId,true⟩
  | some tag =>
      { tag with skuId := sku.id, sourceImportId := promotion.importId, active := true }

/-- One row of the second loop of the projection. -/
def projectRow (promotion : Promotion) (tables : Tables) (row : CatalogRowData) :
    Except PromotionError Tables :=
  match tables.products.find? row.styleCode with
  | none => .error .keyError
  | some product =>
      let key := (product.id,row.color)
      let variant := variantUpsert.written tables.variants tables.nextId key ()
      match tables.skus.find? row.sku with
      | none => .error (.conflict (text "SKU " ++ row.sku ++ text " was not promoted"))
      | some sku =>
          .ok { tables with
            variants := tables.variants.put variant
            nextId := Upsert.nextAfter tables.variants tables.nextId key
            skus := tables.skus.put (sku.toVariant variant.id)
            tags := tables.tags.put (tagOf promotion row.epc sku (tables.tags.find? row.epc)) }

/-- The second loop of the projection. -/
def projectRows (promotion : Promotion) (tables : Tables) :
    List CatalogRowData → Except PromotionError Tables
  | [] => .ok tables
  | row :: rows => (projectRow promotion tables row).bind fun after => projectRows promotion after rows

def suppliedVariant (rows : List CatalogRowData) (tables : Tables) (variant : ProductVariant) : Bool :=
  (tables.productById variant.productId).any fun product =>
    rows.any fun row => row.styleCode = product.styleCode && row.color = variant.color

def retireOmitted (rows : List CatalogRowData) (tables : Tables) : Tables :=
  { tables with
    products := tables.products.updateWhere
      (fun product => !rows.any fun row => row.styleCode = product.styleCode)
      Product.deactivate Product.deactivate_styleCode
    variants := tables.variants.updateWhere (fun variant => !suppliedVariant rows tables variant)
      ProductVariant.deactivate ProductVariant.deactivate_key
    tags := tables.tags.updateWhere (fun tag => !rows.any fun row => row.epc = tag.epc)
      RfidTag.deactivate RfidTag.deactivate_epc }

/-- `_sync_architecture_catalog_projection`. -/
def syncProjection (runtime : Runtime) (tables : Tables) (promotion : Promotion)
    (rows : List CatalogRowData) : Except PromotionError Tables :=
  let supplied := OrderedDict.ofList CatalogRowData.styleCode rows
  let products := (productUpsert runtime).all tables.products tables.nextId supplied.rows
  (projectRows promotion { tables with products := products.1, nextId := products.2.1 } rows).bind
    fun projected =>
      if promotion.mode = .full then
        if projected.variants.rows.all fun variant =>
            (projected.productById variant.productId).isSome then
          .ok (retireOmitted rows projected)
        else .error .keyError
      else .ok projected

end Project

section Limits

def ProductStyle.fits (style : ProductStyle) : Bool :=
  style.code.length ≤ 64 && style.name.length ≤ 255

def Sku.fits (sku : Sku) : Bool :=
  sku.code.length ≤ 128 && sku.upc.length ≤ 14 && sku.color.length ≤ 128 && sku.size.length ≤ 64

def EpcBinding.fits (binding : EpcBinding) : Bool := binding.epc.length ≤ 128

def Product.fits (product : Product) : Bool :=
  product.styleCode.length ≤ 64 && product.name.length ≤ 255 && product.category.length ≤ 128

def ProductVariant.fits (variant : ProductVariant) : Bool := variant.color.length ≤ 128

def RfidTag.fits (tag : RfidTag) : Bool := tag.epc.length ≤ 128

def Tables.fits (tables : Tables) : Bool :=
  tables.styles.rows.all ProductStyle.fits && tables.skus.rows.all Sku.fits &&
    tables.bindings.all EpcBinding.fits && tables.products.rows.all Product.fits &&
    tables.variants.rows.all ProductVariant.fits && tables.tags.rows.all RfidTag.fits

end Limits

/-- The savepoint of a promotion. -/
def promoteRows (runtime : Runtime) (tables : Tables) (promotion : Promotion)
    (rows : List CatalogRowData) : Except PromotionError (Outcome × Tables) :=
  (applyPromotion tables promotion rows).bind fun applied =>
    (syncProjection runtime applied.2 promotion rows).bind fun after =>
      if after.fits then .ok (applied.1,after) else .error .dataError

inductive CatalogImportStatus where
  | validating
  | ready
  | processing
  | completed
  | rejected
  | failed
deriving DecidableEq, Repr

structure ValidationSummary where
  rowsReceived : ℕ
  validRows : ℤ
  invalidRows : ℕ
  errorCount : ℕ
deriving DecidableEq

structure Reconciliation where
  validation : Option ValidationSummary := none
  preview : Option Preview := none
  promotionError : Option Text := none
  actual : Option Outcome := none
deriving DecidableEq

structure CatalogImport where
  id : Uuid
  mode : CatalogImportMode
  status : CatalogImportStatus := .validating
  totalRows : ℕ := 0
  validRows : ℤ := 0
  invalidRows : ℕ := 0
  insertedCount : ℕ := 0
  updatedCount : ℕ := 0
  unchangedCount : ℕ := 0
  deactivatedCount : ℕ := 0
  reconciliation : Reconciliation := {}
  failureReason : Option Text := none
  promotedAt : Option Time := none
deriving DecidableEq

namespace CatalogImport

/-- The import of a promotion that failed, with what was raised as text. -/
def fail (catalogImport : CatalogImport) (raised : Text) : CatalogImport :=
  { catalogImport with
    status := .failed
    failureReason := some (raised.take 2000)
    reconciliation := { catalogImport.reconciliation with
      promotionError := some (raised.take 500) } }

def complete (catalogImport : CatalogImport) (outcome : Outcome) : CatalogImport :=
  let counters := [outcome.styles,outcome.skus,outcome.epcBindings]
  { catalogImport with
    insertedCount := (counters.map Counter.inserted).sum
    updatedCount := (counters.map Counter.updated).sum
    unchangedCount := (counters.map Counter.unchanged).sum
    deactivatedCount := (counters.map Counter.deactivated).sum
    reconciliation := { catalogImport.reconciliation with actual := some outcome }
    failureReason := none
    promotedAt := some outcome.effectiveAt
    status := .completed }

end CatalogImport

inductive PromotionFailure where
  | notReady (status : CatalogImportStatus)
  | stagingIncomplete
  | raised (error : PromotionError)
deriving DecidableEq

/-- `promote_catalog_import` of an import with its valid staged rows, at the database's time. What
it raises rolls everything back. -/
def promoteCatalogImport (runtime : Runtime) (tables : Tables) (catalogImport : CatalogImport)
    (rows : List CatalogRowData) (now : Time) :
    Except PromotionFailure (CatalogImport × Tables) :=
  if catalogImport.status = .completed then .ok (catalogImport,tables)
  else if catalogImport.status ≠ .ready then .error (.notReady catalogImport.status)
  else if (rows.length : ℤ) ≠ catalogImport.validRows ∨ rows = [] then .error .stagingIncomplete
  else
    match promoteRows runtime tables ⟨catalogImport.id,catalogImport.mode,now⟩ rows with
    | .ok (outcome,after) => .ok (catalogImport.complete outcome,after)
    | .error (.conflict message) => .ok (catalogImport.fail message,tables)
    | .error (.integrityError constraint) => .ok (catalogImport.fail (text constraint),tables)
    | .error error => .error (.raised error)

structure PromotionCall where
  catalogImport : CatalogImport
  rows : List CatalogRowData
  now : Time

def afterPromotion (runtime : Runtime) (tables : Tables) (call : PromotionCall) : Tables :=
  match promoteCatalogImport runtime tables call.catalogImport call.rows call.now with
  | .ok result => result.2
  | .error _ => tables

/-- The catalog of a tenant: calls follow each other, since each of them locks the tenant. -/
def catalogMachine (runtime : Runtime) : Transition.Machine Tables PromotionCall where
  initial tables := tables = {}
  next tables call := some (afterPromotion runtime tables call)

/-- `resolve_active_epc`. -/
def resolveActiveEpc (runtime : Runtime) (tables : Tables) (epc : Text) (observedAt : Time) :
    Option EpcBinding :=
  match normalizeEpc runtime epc with
  | .error _ => none
  | .ok normalizedEpc =>
      ((tables.bindings.filter fun binding =>
          binding.epc = normalizedEpc.1 &&
            inForce binding.effectiveFrom binding.effectiveTo observedAt).insertionSort
        fun left right => right.effectiveFrom ≤ left.effectiveFrom).head?

end Abacus.Catalog
