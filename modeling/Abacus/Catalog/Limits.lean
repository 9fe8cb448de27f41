import Mathlib.Data.Set.Finite.Lattice
import Abacus.Catalog.Agreement

/-! The texts that a promotion writes, against the lengths of their columns.
Every text of a row is bounded by its validator. The category of a product is not: it is taken
out of the attributes of its style.
-/
set_option autoImplicit false

namespace Abacus.Catalog

open Relational (Table OrderedDict Identified Upsert)
open Python (Text text Json JsonObject)

def productRows (rows : List CatalogRowData) : List CatalogRowData :=
  (OrderedDict.ofList CatalogRowData.styleCode rows).values

def CategoriesFit (runtime : Runtime) (rows : List CatalogRowData) : Prop :=
  ∀ row ∈ productRows rows, (category runtime row.styleAttributes).length ≤ 128

section Within

structure Tables.Within (tables : Tables) : Prop where
  styles : ∀ style ∈ tables.styles.rows, style.fits = true
  skus : ∀ sku ∈ tables.skus.rows, sku.fits = true
  bindings : ∀ binding ∈ tables.bindings, binding.fits = true
  products : ∀ product ∈ tables.products.rows, product.fits = true
  variants : ∀ variant ∈ tables.variants.rows, variant.fits = true
  tags : ∀ tag ∈ tables.tags.rows, tag.fits = true

theorem fits_iff {tables : Tables} : tables.fits = true ↔ tables.Within := by
  simp only [Tables.fits,Bool.and_eq_true,List.all_eq_true]
  constructor
  · rintro ⟨⟨⟨⟨⟨styles,skus⟩,bindings⟩,products⟩,variants⟩,tags⟩
    exact ⟨styles,skus,bindings,products,variants,tags⟩
  · rintro ⟨styles,skus,bindings,products,variants,tags⟩
    exact ⟨⟨⟨⟨⟨styles,skus⟩,bindings⟩,products⟩,variants⟩,tags⟩

end Within

section First

variable {tables : Tables} {rows : List CatalogRowData} (pass : Pass tables rows)
  (promotion : Promotion)

theorem Pass.styles_within (within : tables.Within) :
    ∀ style ∈ (stylePass tables rows).1.rows, style.fits = true := by
  apply styleUpsert.forall_all tables.styles tables.nextId within.styles
  · intro entry listed fresh
    obtain ⟨-,same⟩ := of_mem_styles listed
    have code := entry.2.styleCodeBound
    rw [same] at code
    simp [styleUpsert,createStyle,ProductStyle.fits,code,entry.2.styleNameBound]
  · intro entry _ style fits
    simp only [ProductStyle.fits,Bool.and_eq_true,decide_eq_true_eq] at fits
    simp [styleUpsert,reviseStyle_eq,ProductStyle.fits,fits.1,entry.2.styleNameBound]

theorem Pass.skus_within (within : tables.Within) :
    ∀ sku ∈ (skuPass tables rows pass.skuEntries).1.rows, sku.fits = true := by
  apply skuUpsert.forall_all tables.skus _ within.skus
  · rintro ⟨code,data,style⟩ attached fresh
    obtain ⟨entered,-⟩ := Relational.of_mem_attachAll pass.skusAttached attached
    obtain ⟨-,rfl⟩ := of_mem_skus entered
    simp [skuUpsert,createSku,Sku.fits,data.skuBound,data.upcBound,data.colorBound,data.sizeBound]
  · rintro ⟨code,data,style⟩ _ sku fits
    simp only [Sku.fits,Bool.and_eq_true,decide_eq_true_eq] at fits
    simp [skuUpsert,reviseSku_eq,Sku.fits,fits.1.1.1,data.upcBound,data.colorBound,data.sizeBound]

theorem Pass.bindings_within (within : tables.Within) :
    ∀ binding ∈ (pass.after promotion).bindings, binding.fits = true := by
  intro binding listed
  rw [Pass.after_bindings] at listed
  rcases List.mem_append.mp listed with old | new
  · obtain ⟨stored,place,rfl⟩ := List.mem_map.mp old
    rw [EpcBinding.fits,pass.finish_epc]
    exact within.bindings stored place
  · obtain ⟨⟨epc,row,sku⟩,chosen,rfl⟩ := List.mem_map.mp new
    obtain ⟨-,rfl,-⟩ := pass.of_mem_epcEntries promotion (List.mem_filter.mp chosen).1
    simp [newBinding,EpcBinding.fits,row.epcBound]

/-- What the first pass writes is within its columns. -/
theorem Pass.after_within (within : tables.Within) : (pass.after promotion).Within where
  styles := by
    rw [Pass.after]
    split
    · exact Table.forall_updateWhere (Pass.styles_within within) _ ProductStyle.deactivate_code
        fun _ fits => fits
    · exact Pass.styles_within within
  skus := by
    rw [Pass.after]
    split
    · exact Table.forall_updateWhere (pass.skus_within within) _ Sku.deactivate_code
        fun _ fits => fits
    · exact pass.skus_within within
  bindings := pass.bindings_within promotion within
  products := by
    rw [Pass.after_products]
    exact within.products
  variants := by
    rw [Pass.after_variants]
    exact within.variants
  tags := by
    rw [Pass.after_tags]
    exact within.tags

end First

section Second

variable {runtime : Runtime} {promotion : Promotion} {tables after : Tables}
  {rows : List CatalogRowData}

theorem mem_productRows {row : CatalogRowData} : row ∈ productRows rows ↔
    (row.styleCode,row) ∈ (OrderedDict.ofList CatalogRowData.styleCode rows).rows := by
  constructor
  · intro member
    obtain ⟨entry,listed,rfl⟩ := List.mem_map.mp member
    obtain ⟨keyed,-⟩ := OrderedDict.mem_ofList listed
    rw [← keyed]
    exact listed
  · exact fun listed => List.mem_map_of_mem (f := Prod.snd) listed

theorem supply_within (within : tables.Within) (categories : CategoriesFit runtime rows) :
    (supply runtime tables rows).Within where
  styles := within.styles
  skus := within.skus
  bindings := within.bindings
  products := by
    apply (productUpsert runtime).forall_all tables.products tables.nextId within.products
    · intro entry listed fresh
      obtain ⟨keyed,-⟩ := OrderedDict.mem_ofList listed
      have code := entry.2.styleCodeBound
      rw [← keyed] at code
      have bound := categories entry.2 (List.mem_map_of_mem listed)
      simp [productUpsert,createProduct,Product.fits,code,entry.2.styleNameBound,bound]
    · intro entry listed product fits
      simp only [Product.fits,Bool.and_eq_true,decide_eq_true_eq] at fits
      have bound := categories entry.2 (List.mem_map_of_mem listed)
      simp [productUpsert,reviseProduct,Product.fits,fits.1.1,entry.2.styleNameBound,bound]
  variants := within.variants
  tags := within.tags

theorem projectRow_within (within : tables.Within) {row : CatalogRowData}
    (done : projectRow promotion tables row = .ok after) : after.Within := by
  obtain ⟨product,sku,-,stored,rfl⟩ := projectRow_eq_ok done
  have skuFits := within.skus sku (Table.mem_of_find? stored)
  have variantFits : (variantOf tables row product).fits = true := by
    have keyed := key_variantOf tables row product
    have color : (variantOf tables row product).color = row.color := congrArg Prod.snd keyed
    simp [ProductVariant.fits,color,row.colorBound]
  exact {
    styles := within.styles
    skus := Table.forall_put within.skus skuFits
    bindings := within.bindings
    products := within.products
    variants := Table.forall_put within.variants variantFits
    tags := Table.forall_put within.tags (by simp [RfidTag.fits,row.epcBound]) }

theorem projectRows_within (within : tables.Within)
    (done : projectRows promotion tables rows = .ok after) : after.Within := by
  induction rows generalizing tables with
  | nil =>
      cases done
      exact within
  | cons row rows ih =>
      obtain ⟨middle,first,others⟩ := projectRows_cons done
      exact ih (projectRow_within within first) others

theorem retired_within (promotion : Promotion) (within : tables.Within) :
    (retired promotion rows tables).Within := by
  by_cases full : promotion.mode = .full
  · rw [retired_of_full full]
    exact {
      styles := within.styles
      skus := within.skus
      bindings := within.bindings
      products := Table.forall_updateWhere within.products _ Product.deactivate_styleCode
        fun _ fits => fits
      variants := Table.forall_updateWhere within.variants _ ProductVariant.deactivate_key
        fun _ fits => fits
      tags := Table.forall_updateWhere within.tags _ RfidTag.deactivate_epc fun _ fits => fits }
  · rw [retired_of_delta full]
    exact within

/-- The projection is within its columns exactly when the categories are. -/
theorem syncProjection_within_iff (within : tables.Within)
    (done : syncProjection runtime tables promotion rows = .ok after) :
    after.Within ↔ CategoriesFit runtime rows := by
  constructor
  · intro fitting row member
    obtain ⟨fresh,-,found⟩ := syncProjection_named done (mem_productRows.mp member)
    have fits := fitting.products _ (Table.mem_of_find? found)
    rw [written_product] at fits
    simp only [Product.fits,Bool.and_eq_true,decide_eq_true_eq] at fits
    exact fits.2
  · intro categories
    obtain ⟨projected,projection,rfl⟩ := syncProjection_eq_ok done
    exact retired_within promotion (projectRows_within (supply_within within categories) projection)

end Second

section Errors

variable {runtime : Runtime} {tables : Tables} {promotion : Promotion} {rows : List CatalogRowData}

theorem applyPromotion_ne_dataError : applyPromotion tables promotion rows ≠ .error .dataError := by
  cases free : firstConflict tables rows with
  | some message =>
      rw [firstConflict] at free
      simp [applyPromotion,free]
  | none =>
      obtain ⟨pass⟩ := exists_pass tables rows
      rw [applyPromotion_eq pass promotion free]
      rcases checked_cases (pass.outcome promotion) (pass.after promotion) with
        ⟨-,passed⟩ | ⟨constraint,-,refused⟩
      · simp [passed]
      · simp [refused]

theorem projectRow_ne_dataError {row : CatalogRowData} :
    projectRow promotion tables row ≠ .error .dataError := by
  unfold projectRow
  cases tables.products.find? row.styleCode with
  | none => simp
  | some product =>
      dsimp only
      cases tables.skus.find? row.sku with
      | none => simp
      | some sku => simp

theorem projectRows_ne_dataError : projectRows promotion tables rows ≠ .error .dataError := by
  induction rows generalizing tables with
  | nil => simp [projectRows]
  | cons row rows ih =>
      rw [projectRows]
      cases first : projectRow promotion tables row with
      | ok middle => exact ih
      | error error =>
          intro same
          exact projectRow_ne_dataError (first.trans same)

theorem syncProjection_ne_dataError :
    syncProjection runtime tables promotion rows ≠ .error .dataError := by
  rw [syncProjection_eq]
  cases projection : projectRows promotion (supply runtime tables rows) rows with
  | error error =>
      intro same
      exact projectRows_ne_dataError (projection.trans same)
  | ok projected =>
      rw [Except.bind]
      split
      · split <;> simp
      · simp

/-- A data error is about what both passes have written. -/
theorem promoteRows_dataError_iff : promoteRows runtime tables promotion rows = .error .dataError ↔
    ∃ outcome middle after, applyPromotion tables promotion rows = .ok (outcome,middle) ∧
      syncProjection runtime middle promotion rows = .ok after ∧ after.fits = false := by
  rw [promoteRows]
  cases applied : applyPromotion tables promotion rows with
  | error error =>
      constructor
      · intro same
        exact absurd (applied.trans same) applyPromotion_ne_dataError
      · rintro ⟨outcome,middle,after,through,-⟩
        cases through
  | ok result =>
      rw [Except.bind]
      cases projection : syncProjection runtime result.2 promotion rows with
      | error error =>
          constructor
          · intro same
            cases same
            exact absurd projection syncProjection_ne_dataError
          · rintro ⟨outcome,middle,after,through,synced,-⟩
            cases through
            rw [projection] at synced
            cases synced
      | ok after =>
          rw [Except.bind]
          cases fits : after.fits with
          | true =>
              constructor
              · intro same
                cases same
              · rintro ⟨outcome,middle,other,through,synced,unfit⟩
                cases through
                rw [projection] at synced
                cases synced
                rw [fits] at unfit
                cases unfit
          | false => exact ⟨fun _ => ⟨result.1,result.2,after,rfl,projection,fits⟩,fun _ => rfl⟩

/-- Whatever the catalog is, categories that fit are promoted without a data error. -/
theorem promoteRows_of_categories (within : tables.Within) (categories : CategoriesFit runtime rows) :
    promoteRows runtime tables promotion rows ≠ .error .dataError := by
  rw [ne_eq,promoteRows_dataError_iff]
  rintro ⟨outcome,middle,after,applied,synced,unfit⟩
  obtain ⟨-,pass,-,rfl,-⟩ := applyPromotion_eq_ok applied
  have fitting := (syncProjection_within_iff (pass.after_within promotion within) synced).mpr categories
  rw [fits_iff.mpr fitting] at unfit
  cases unfit

/-- Other categories end a promotion that meets no conflict and begins after all bindings. -/
theorem promoteRows_dataError (wellFormed : tables.WellFormed) (within : tables.Within)
    (free : ConflictFree tables rows) (before : tables.Before promotion.effectiveAt)
    (long : ¬CategoriesFit runtime rows) :
    promoteRows runtime tables promotion rows = .error .dataError := by
  obtain ⟨pass,applied⟩ := applyPromotion_of_free wellFormed free promotion before
  have skus : ∀ row ∈ rows, ∃ sku, (pass.after promotion).skus.find? row.sku = some sku := by
    intro row member
    obtain ⟨data,-,-,style,fresh,-,-,found⟩ := pass.named_sku promotion member
    exact ⟨_,found⟩
  obtain ⟨after,synced⟩ : ∃ after,
      syncProjection runtime (pass.after promotion) promotion rows = .ok after :=
    syncProjection_of_found (pass.productIds_after promotion wellFormed.productIds)
      (pass.variantProduct_after promotion wellFormed.variantProduct) skus
  rw [promoteRows_dataError_iff]
  refine ⟨_,_,after,applied,synced,?_⟩
  rw [← Bool.not_eq_true,fits_iff,
    syncProjection_within_iff (pass.after_within promotion within) synced]
  exact long

end Errors

section Ready

variable {runtime : Runtime} {tables : Tables} {catalogImport : CatalogImport}
  {rows : List CatalogRowData} {now : Time}

theorem promoteCatalogImport_dataError_iff (ready : catalogImport.status = .ready)
    (counted : (rows.length : ℤ) = catalogImport.validRows) (supplied : rows ≠ []) :
    promoteCatalogImport runtime tables catalogImport rows now = .error (.raised .dataError) ↔
      promoteRows runtime tables ⟨catalogImport.id,catalogImport.mode,now⟩ rows =
        .error .dataError := by
  rw [promoteCatalogImport,if_neg (by simp [ready]),if_neg (by simp [ready]),
    if_neg (by simp [counted,supplied])]
  cases promoteRows runtime tables ⟨catalogImport.id,catalogImport.mode,now⟩ rows with
  | ok result => simp
  | error error => cases error <;> simp

/-- There is a time after all bindings. -/
theorem exists_before (tables : Tables) : ∃ now, tables.Before now := by
  let instants := tables.bindings.flatMap fun binding =>
    binding.effectiveFrom :: binding.effectiveTo.toList
  obtain ⟨latest,bound⟩ := (List.finite_toSet instants).bddAbove
  refine ⟨latest + 1,?_⟩
  intro binding stored
  have reached : ∀ instant ∈ binding.effectiveFrom :: binding.effectiveTo.toList,
      instant ≤ latest := by
    intro instant listed
    exact bound (List.mem_flatMap.mpr ⟨binding,stored,listed⟩)
  constructor
  · have began := reached binding.effectiveFrom (List.mem_cons_self ..)
    exact Int.lt_add_one_of_le began
  · intro effectiveTo ended
    have reachedEnd := reached effectiveTo (List.mem_cons_of_mem _ (Option.mem_toList.mpr ended))
    exact reachedEnd.trans (Int.lt_succ latest).le

end Ready

/-- An import that validation made ready is never promoted into a data error, whatever the catalog is
by then, if and only if the category of the last row of every style is within its column. -/
theorem validated_import_promotable_iff (runtime : Runtime) (tables : Tables)
    (catalogImport : CatalogImport) (content : List UInt8) (staging : Staging)
    (wellFormed : tables.WellFormed) (fits : tables.fits = true)
    (validating : catalogImport.status = .validating)
    (staged : validateAndStage runtime tables catalogImport content = .ok staging)
    (ready : staging.catalogImport.status = .ready) :
    (∀ current now, current.fits = true →
      promoteCatalogImport runtime current staging.catalogImport (staging.readRows runtime) now ≠
        .error (.raised .dataError)) ↔
      CategoriesFit runtime (staging.readRows runtime) := by
  have accepted := ready_of_validated validating staged ready
  have counted : ((staging.readRows runtime).length : ℤ) = staging.catalogImport.validRows := by
    rw [Staging.readRows,List.length_map]
    exact accepted.counted
  have supplied : staging.readRows runtime ≠ [] := by
    simpa [Staging.readRows] using accepted.supplied
  have conflictFree : ConflictFree tables (staging.readRows runtime) := by
    intro row member
    obtain ⟨stored,listed,rfl⟩ := List.mem_map.mp member
    exact accepted.conflictFree stored listed
  constructor
  · intro promotable
    by_contra long
    obtain ⟨now,before⟩ := exists_before tables
    apply promotable tables now fits
    rw [promoteCatalogImport_dataError_iff ready counted supplied]
    exact promoteRows_dataError wellFormed (fits_iff.mp fits) conflictFree before long
  · intro categories current now currentFits
    rw [ne_eq,promoteCatalogImport_dataError_iff ready counted supplied]
    exact promoteRows_of_categories (fits_iff.mp currentFits) categories

theorem validated_import_promotable_iff_sample : ∃ staging,
    validateAndStage Sample.runtime {} Sample.fullImport Sample.readableFile = .ok staging ∧
      CategoriesFit Sample.runtime (staging.readRows Sample.runtime) ∧
      ∀ current now, current.fits = true →
        promoteCatalogImport Sample.runtime current staging.catalogImport
          (staging.readRows Sample.runtime) now ≠ .error (.raised .dataError) := by
  obtain ⟨staging,staged,holds⟩ : ∃ staging, validateAndStage Sample.runtime {} Sample.fullImport
      Sample.readableFile = .ok staging ∧ (staging.catalogImport.status = .ready &&
        (productRows (staging.readRows Sample.runtime)).all fun row =>
          (category Sample.runtime row.styleAttributes).length ≤ 128) = true :=
    exists_of_any (by decide +kernel)
  simp only [Bool.and_eq_true,List.all_eq_true,decide_eq_true_eq] at holds
  exact ⟨staging,staged,holds.2,(validated_import_promotable_iff Sample.runtime {} Sample.fullImport
    Sample.readableFile staging Tables.WellFormed.empty rfl rfl staged holds.1).mpr holds.2⟩

/-- The category of a file has 129 characters: the import becomes ready, and its promotion raises. -/
theorem long_category_raises_data_error : ∃ staging,
    validateAndStage Sample.categoryRuntime {} Sample.fullImport Sample.categoryFile = .ok staging ∧
      staging.catalogImport.status = .ready ∧
      promoteCatalogImport Sample.categoryRuntime {} staging.catalogImport
        (staging.readRows Sample.categoryRuntime) 5 = .error (.raised .dataError) := by
  obtain ⟨staging,staged,holds⟩ : ∃ staging, validateAndStage Sample.categoryRuntime {}
      Sample.fullImport Sample.categoryFile = .ok staging ∧
        (staging.catalogImport.status = .ready && Sample.failure (promoteCatalogImport
          Sample.categoryRuntime {} staging.catalogImport
            (staging.readRows Sample.categoryRuntime) 5) = some (.raised .dataError)) = true :=
    exists_of_any (by decide +kernel)
  simp only [Bool.and_eq_true,decide_eq_true_eq] at holds
  exact ⟨staging,staged,holds.1,Sample.error_of_failure holds.2⟩

end Abacus.Catalog
