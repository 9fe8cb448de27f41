import Abacus.Catalog.Effects

/-! What the second pass of a promotion leaves behind.
A row of the file is projected when its variant, its SKU and its tag are as the row has them.
Later rows keep what earlier ones projected, as long as the rows of the file agree.
-/
set_option autoImplicit false

namespace Abacus.Catalog

open Relational (Table OrderedDict Identified Upsert)
open Python (Text text Json JsonObject)

section Rows

def variantOf (tables : Tables) (row : CatalogRowData) (product : Product) : ProductVariant :=
  variantUpsert.written tables.variants tables.nextId (product.id,row.color) ()

def projectedRow (promotion : Promotion) (tables : Tables) (row : CatalogRowData) (product : Product)
    (sku : Sku) : Tables :=
  { tables with
    variants := tables.variants.put (variantOf tables row product)
    nextId := Upsert.nextAfter tables.variants tables.nextId (product.id,row.color)
    skus := tables.skus.put (sku.toVariant (variantOf tables row product).id)
    tags := tables.tags.put ⟨row.epc,sku.id,promotion.importId,true⟩ }

/-- A tag is written in full, whether it was there or not. -/
theorem tagOf_eq (promotion : Promotion) (tags : Table RfidTag.epc) (epc : Text) (sku : Sku) :
    tagOf promotion epc sku (tags.find? epc) = ⟨epc,sku.id,promotion.importId,true⟩ := by
  cases found : tags.find? epc with
  | none => rfl
  | some tag =>
      have keyed : tag.epc = epc := Table.key_of_find? found
      rw [tagOf,← keyed]

variable {promotion : Promotion} {tables after : Tables} {row other : CatalogRowData}

theorem projectRow_of_found {product : Product} {sku : Sku}
    (supplied : tables.products.find? row.styleCode = some product)
    (stored : tables.skus.find? row.sku = some sku) :
    projectRow promotion tables row = .ok (projectedRow promotion tables row product sku) := by
  rw [projectRow,supplied]
  dsimp only
  rw [stored]
  dsimp only
  rw [tagOf_eq]
  rfl

theorem projectRow_eq_ok (done : projectRow promotion tables row = .ok after) :
    ∃ product sku, tables.products.find? row.styleCode = some product ∧
      tables.skus.find? row.sku = some sku ∧
      after = projectedRow promotion tables row product sku := by
  cases supplied : tables.products.find? row.styleCode with
  | none =>
      rw [projectRow,supplied] at done
      cases done
  | some product =>
      cases stored : tables.skus.find? row.sku with
      | none =>
          rw [projectRow,supplied] at done
          dsimp only at done
          rw [stored] at done
          cases done
      | some sku =>
          rw [projectRow_of_found supplied stored] at done
          exact ⟨product,sku,rfl,rfl,(Except.ok.inj done).symm⟩

theorem projectRows_cons {rows : List CatalogRowData}
    (done : projectRows promotion tables (row :: rows) = .ok after) :
    ∃ middle, projectRow promotion tables row = .ok middle ∧
      projectRows promotion middle rows = .ok after := by
  rw [projectRows] at done
  cases first : projectRow promotion tables row with
  | error error =>
      rw [first] at done
      cases done
  | ok middle =>
      rw [first] at done
      exact ⟨middle,rfl,done⟩

end Rows

section Frame

def Sku.unlinked (sku : Sku) : Sku := { sku with productVariantId := none }

@[simp] theorem Sku.unlinked_toVariant (sku : Sku) (variantId : Uuid) :
    (sku.toVariant variantId).unlinked = sku.unlinked := rfl

/-- Two SKUs that differ at most in their links. -/
structure Sku.Alike (sku other : Sku) : Prop where
  id : sku.id = other.id
  productStyleId : sku.productStyleId = other.productStyleId
  code : sku.code = other.code
  upc : sku.upc = other.upc
  color : sku.color = other.color
  size : sku.size = other.size
  attributes : sku.attributes = other.attributes
  active : sku.active = other.active

theorem Sku.alike_of_unlinked {sku other : Sku} (same : sku.unlinked = other.unlinked) :
    sku.Alike other := by
  simp only [Sku.unlinked,Sku.mk.injEq,true_and] at same
  obtain ⟨id,productStyleId,code,upc,color,size,attributes,active⟩ := same
  exact ⟨id,productStyleId,code,upc,color,size,attributes,active⟩

structure Tables.Frame (before after : Tables) : Prop where
  styles : after.styles = before.styles
  bindings : after.bindings = before.bindings
  products : after.products = before.products
  nextId : before.nextId ≤ after.nextId
  skus : ∀ code, (after.skus.find? code).map Sku.unlinked = (before.skus.find? code).map Sku.unlinked
  variants : ∀ key variant, before.variants.find? key = some variant →
    ∃ kept, after.variants.find? key = some kept ∧ kept.id = variant.id
  variantIds : Identified ProductVariant.id before.variants before.nextId →
    Identified ProductVariant.id after.variants after.nextId
  variantProduct : (∀ variant ∈ before.variants.rows,
      ∃ product ∈ before.products.rows, product.id = variant.productId) →
    ∀ variant ∈ after.variants.rows,
      ∃ product ∈ after.products.rows, product.id = variant.productId

namespace Tables.Frame

theorem refl (tables : Tables) : tables.Frame tables where
  styles := rfl
  bindings := rfl
  products := rfl
  nextId := le_rfl
  skus _ := rfl
  variants _ variant found := ⟨variant,found,rfl⟩
  variantIds := id
  variantProduct := id

theorem trans {first second third : Tables} (left : first.Frame second)
    (right : second.Frame third) : first.Frame third where
  styles := right.styles.trans left.styles
  bindings := right.bindings.trans left.bindings
  products := right.products.trans left.products
  nextId := left.nextId.trans right.nextId
  skus code := (right.skus code).trans (left.skus code)
  variants key variant found := by
    obtain ⟨kept,located,same⟩ := left.variants key variant found
    obtain ⟨last,place,equal⟩ := right.variants key kept located
    exact ⟨last,place,equal.trans same⟩
  variantIds identified := right.variantIds (left.variantIds identified)
  variantProduct linked := right.variantProduct (left.variantProduct linked)

end Tables.Frame

variable {promotion : Promotion} {tables after : Tables} {row other : CatalogRowData}

theorem key_variantOf (tables : Tables) (row : CatalogRowData) (product : Product) :
    (variantOf tables row product).key = (product.id,row.color) :=
  variantUpsert.key_written tables.variants tables.nextId (product.id,row.color) ()

theorem find?_variants_projectedRow (product : Product) (sku : Sku) (key : Uuid × Text) :
    (projectedRow promotion tables row product sku).variants.find? key =
      if (product.id,row.color) = key then some (variantOf tables row product)
      else tables.variants.find? key :=
  variantUpsert.find?_put_written tables.variants tables.nextId (product.id,row.color) key ()

theorem find?_skus_projectedRow {product : Product} {sku : Sku}
    (stored : tables.skus.find? row.sku = some sku) (code : Text) :
    (projectedRow promotion tables row product sku).skus.find? code =
      if row.sku = code then some (sku.toVariant (variantOf tables row product).id)
      else tables.skus.find? code := by
  have own : sku.code = row.sku := Table.key_of_find? stored
  have keyed : (sku.toVariant (variantOf tables row product).id).code = row.sku := own
  rw [projectedRow]
  dsimp only
  rw [Table.find?_put,keyed]

theorem find?_tags_projectedRow (product : Product) (sku : Sku) (epc : Text) :
    (projectedRow promotion tables row product sku).tags.find? epc =
      if row.epc = epc then some ⟨row.epc,sku.id,promotion.importId,true⟩
      else tables.tags.find? epc := Table.find?_put _ _ _

/-- A variant that is there keeps its id. -/
theorem variantOf_of_found {product : Product} {variant : ProductVariant}
    (found : tables.variants.find? (product.id,row.color) = some variant) :
    variantOf tables row product = { variant with active := true } :=
  variantUpsert.written_of_found found tables.nextId ()

theorem variantOf_active (product : Product) : (variantOf tables row product).active = true := by
  cases found : tables.variants.find? (product.id,row.color) with
  | none => rw [variantOf,variantUpsert.written_of_absent found]; rfl
  | some variant => rw [variantOf_of_found found]

theorem projectRow_frame (done : projectRow promotion tables row = .ok after) :
    tables.Frame after := by
  obtain ⟨product,sku,supplied,stored,rfl⟩ := projectRow_eq_ok done
  constructor
  · rfl
  · rfl
  · rfl
  · exact Upsert.next_le tables.variants tables.nextId (product.id,row.color)
  · intro code
    rw [find?_skus_projectedRow stored]
    split
    · rename_i same
      rw [← same,stored]
      rfl
    · rfl
  · intro key variant found
    rw [find?_variants_projectedRow]
    split
    · rename_i same
      rw [← same] at found
      exact ⟨_,rfl,by rw [variantOf_of_found found]⟩
    · exact ⟨variant,found,rfl⟩
  · intro identified
    exact identified.put_written variantUpsert (product.id,row.color) ()
  · intro linked variant member
    rcases Table.mem_put.mp member with rfl | ⟨old,-⟩
    · have keyed := congrArg Prod.fst (key_variantOf tables row product)
      exact ⟨product,Table.mem_of_find? supplied,keyed.symm⟩
    · exact linked variant old

theorem projectRows_frame {rows : List CatalogRowData}
    (done : projectRows promotion tables rows = .ok after) : tables.Frame after := by
  induction rows generalizing tables with
  | nil =>
      cases done
      exact Tables.Frame.refl _
  | cons row rows ih =>
      obtain ⟨middle,first,rest⟩ := projectRows_cons done
      exact (projectRow_frame first).trans (ih rest)

/-- A SKU that no row names keeps its link. -/
theorem projectRows_skus {rows : List CatalogRowData} {code : Text}
    (unnamed : ∀ row ∈ rows, row.sku ≠ code)
    (done : projectRows promotion tables rows = .ok after) :
    after.skus.find? code = tables.skus.find? code := by
  induction rows generalizing tables with
  | nil =>
      cases done
      rfl
  | cons row rows ih =>
      rw [List.forall_mem_cons] at unnamed
      obtain ⟨middle,first,rest⟩ := projectRows_cons done
      obtain ⟨product,sku,-,stored,rfl⟩ := projectRow_eq_ok first
      rw [ih unnamed.2 rest,find?_skus_projectedRow stored,if_neg unnamed.1]

theorem projectRows_tags {rows : List CatalogRowData} {epc : Text}
    (unnamed : ∀ row ∈ rows, row.epc ≠ epc)
    (done : projectRows promotion tables rows = .ok after) :
    after.tags.find? epc = tables.tags.find? epc := by
  induction rows generalizing tables with
  | nil =>
      cases done
      rfl
  | cons row rows ih =>
      rw [List.forall_mem_cons] at unnamed
      obtain ⟨middle,first,rest⟩ := projectRows_cons done
      obtain ⟨product,sku,-,-,rfl⟩ := projectRow_eq_ok first
      rw [ih unnamed.2 rest,find?_tags_projectedRow,if_neg unnamed.1]

/-- The rows go through when each of them has its product and its SKU. -/
theorem projectRows_of_found {rows : List CatalogRowData}
    (products : ∀ row ∈ rows, ∃ product, tables.products.find? row.styleCode = some product)
    (skus : ∀ row ∈ rows, ∃ sku, tables.skus.find? row.sku = some sku) :
    ∃ after, projectRows promotion tables rows = .ok after := by
  induction rows generalizing tables with
  | nil => exact ⟨tables,rfl⟩
  | cons row rows ih =>
      rw [List.forall_mem_cons] at products skus
      obtain ⟨product,supplied⟩ := products.1
      obtain ⟨sku,stored⟩ := skus.1
      have kept : ∀ other ∈ rows, ∃ later,
          (projectedRow promotion tables row product sku).skus.find? other.sku = some later := by
        intro other member
        rw [find?_skus_projectedRow stored]
        split
        · exact ⟨_,rfl⟩
        · exact skus.2 other member
      have later : ∃ after,
          projectRows promotion (projectedRow promotion tables row product sku) rows = .ok after :=
        ih products.2 kept
      obtain ⟨after,rest⟩ := later
      refine ⟨after,?_⟩
      rw [projectRows,projectRow_of_found supplied stored]
      exact rest

end Frame

section Projected

def Tables.Projected (tables : Tables) (row : CatalogRowData) : Prop :=
  ∃ product variant sku tag, tables.products.find? row.styleCode = some product ∧
    tables.variants.find? (product.id,row.color) = some variant ∧ variant.active = true ∧
    tables.skus.find? row.sku = some sku ∧ sku.productVariantId = some variant.id ∧
    tables.tags.find? row.epc = some tag ∧ tag.skuId = sku.id ∧ tag.active = true

/-- Two rows of a file that can both be projected. -/
structure CatalogRowData.Coexists (row other : CatalogRowData) : Prop where
  sku : row.sku = other.sku → row.styleCode = other.styleCode ∧ row.color = other.color
  epc : row.epc ≠ other.epc

theorem Keyed.coexists {rows : List CatalogRowData} (keyed : Keyed rows) :
    rows.Pairwise CatalogRowData.Coexists := by
  apply (List.pairwise_map.mp keyed.epcs).imp_of_mem
  intro row other member listed apart
  constructor
  · intro same
    obtain ⟨style,-,color,-⟩ := keyed.skus row member other listed same
    exact ⟨style,color⟩
  · exact apart

variable {promotion : Promotion} {tables after : Tables} {row other : CatalogRowData}

theorem projectRow_projects (done : projectRow promotion tables row = .ok after) :
    after.Projected row := by
  obtain ⟨product,sku,supplied,stored,rfl⟩ := projectRow_eq_ok done
  refine ⟨product,_,sku.toVariant (variantOf tables row product).id,
    ⟨row.epc,sku.id,promotion.importId,true⟩,supplied,?_,variantOf_active product,?_,rfl,?_,rfl,rfl⟩
  · rw [find?_variants_projectedRow,if_pos rfl]
  · rw [find?_skus_projectedRow stored,if_pos rfl]
  · rw [find?_tags_projectedRow,if_pos rfl]

/-- A row keeps what another one projected. -/
theorem projectRow_keeps (coexists : other.Coexists row) (projected : tables.Projected other)
    (done : projectRow promotion tables row = .ok after) : after.Projected other := by
  obtain ⟨product,sku,supplied,stored,rfl⟩ := projectRow_eq_ok done
  obtain ⟨own,variant,ownSku,tag,ownSupplied,found,active,ownStored,linked,tagged,bound,tagActive⟩ :=
    projected
  have variants : ∃ kept, (projectedRow promotion tables row product sku).variants.find?
      (own.id,other.color) = some kept ∧ kept.id = variant.id ∧ kept.active = true := by
    rw [find?_variants_projectedRow]
    split
    · rename_i same
      rw [← same] at found
      exact ⟨_,rfl,by rw [variantOf_of_found found],variantOf_active product⟩
    · exact ⟨variant,found,rfl,active⟩
  obtain ⟨kept,located,sameId,keptActive⟩ := variants
  have tags : (projectedRow promotion tables row product sku).tags.find? other.epc = some tag := by
    rw [find?_tags_projectedRow,if_neg coexists.epc.symm,tagged]
  by_cases sameSku : other.sku = row.sku
  · obtain ⟨style,color⟩ := coexists.sku sameSku
    have sameProduct : own = product := by
      rw [style,supplied] at ownSupplied
      exact (Option.some.inj ownSupplied).symm
    have equal : ownSku = sku := by
      rw [sameSku,stored] at ownStored
      exact (Option.some.inj ownStored).symm
    subst sameProduct
    subst equal
    rw [color] at found located
    refine ⟨own,kept,ownSku.toVariant (variantOf tables row own).id,tag,ownSupplied,
      by rw [color,located],keptActive,?_,?_,tags,bound,tagActive⟩
    · rw [find?_skus_projectedRow stored,if_pos sameSku.symm]
    · rw [Sku.toVariant,sameId,variantOf_of_found found]
  · refine ⟨own,kept,ownSku,tag,ownSupplied,located,keptActive,?_,by rw [linked,sameId],tags,bound,
      tagActive⟩
    rw [find?_skus_projectedRow stored,if_neg (Ne.symm sameSku),ownStored]

theorem projectRows_keeps {rows : List CatalogRowData}
    (coexists : ∀ row ∈ rows, other.Coexists row) (projected : tables.Projected other)
    (done : projectRows promotion tables rows = .ok after) : after.Projected other := by
  induction rows generalizing tables with
  | nil =>
      cases done
      exact projected
  | cons row rows ih =>
      rw [List.forall_mem_cons] at coexists
      obtain ⟨middle,first,rest⟩ := projectRows_cons done
      exact ih coexists.2 (projectRow_keeps coexists.1 projected first) rest

/-- Every row of a consistent file is projected in the end. -/
theorem projectRows_projects {rows : List CatalogRowData}
    (coexist : rows.Pairwise CatalogRowData.Coexists)
    (done : projectRows promotion tables rows = .ok after) : ∀ row ∈ rows, after.Projected row := by
  induction rows generalizing tables with
  | nil => simp
  | cons row rows ih =>
      obtain ⟨alone,others⟩ := List.pairwise_cons.mp coexist
      obtain ⟨middle,first,rest⟩ := projectRows_cons done
      rw [List.forall_mem_cons]
      exact ⟨projectRows_keeps alone (projectRow_projects first) rest,ih others rest⟩

end Projected

end Abacus.Catalog
