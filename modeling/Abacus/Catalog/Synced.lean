import Abacus.Catalog.Projection

/-! The second pass as a whole.
The products are written first, then the rows are projected, and a FULL import retires what it
omits. Styles and bindings stay as the first pass left them.
-/
set_option autoImplicit false

namespace Abacus.Catalog

open Relational (Table OrderedDict Identified Upsert)
open Python (Text text Json JsonObject)
open Pass (whenFull whenFull_of_full whenFull_of_delta)

section Products

variable (runtime : Runtime) (tables : Tables) (rows : List CatalogRowData)

def productPass :=
  (productUpsert runtime).all tables.products tables.nextId
    (OrderedDict.ofList CatalogRowData.styleCode rows).rows

def supply : Tables :=
  { tables with
    products := (productPass runtime tables rows).1
    nextId := (productPass runtime tables rows).2.1 }

/-- The product that a row is written to. -/
theorem written_product (t : Table Product.styleCode) (fresh : Uuid) (code : Text)
    (data : CatalogRowData) :
    (productUpsert runtime).written t fresh code data =
      { id := ((t.find? code).map Product.id).getD fresh
        styleCode := code
        name := data.styleName
        category := category runtime data.styleAttributes
        attributes := storedOver ((t.find? code).map Product.attributes) data.styleAttributes
        active := true } := by
  cases found : t.find? code with
  | none => exact (productUpsert runtime).written_of_absent found fresh data
  | some old =>
      rw [(productUpsert runtime).written_of_found found]
      have keyed : old.styleCode = code := Table.key_of_find? found
      subst keyed
      rfl

variable {rows}

/-- The last row of the file that names the style of a row. -/
theorem last_of_style {row : CatalogRowData} (member : row ∈ rows) :
    ∃ data, (row.styleCode,data) ∈ (OrderedDict.ofList CatalogRowData.styleCode rows).rows ∧
      data ∈ rows ∧ data.styleCode = row.styleCode := by
  obtain ⟨data,listed⟩ : ∃ data,
      (row.styleCode,data) ∈ (OrderedDict.ofList CatalogRowData.styleCode rows).rows :=
    OrderedDict.exists_ofList member
  obtain ⟨keyed,stored⟩ := OrderedDict.mem_ofList listed
  exact ⟨data,listed,stored,keyed.symm⟩

/-- A named product is written over the one before by the last row of the file that names it. -/
theorem product_named {code : Text} {data : CatalogRowData}
    (listed : (code,data) ∈ (OrderedDict.ofList CatalogRowData.styleCode rows).rows) :
    ∃ fresh, tables.nextId ≤ fresh ∧ (supply runtime tables rows).products.find? code =
      some ((productUpsert runtime).written tables.products fresh code data) :=
  (productUpsert runtime).find?_all_of_mem tables.products tables.nextId
    (OrderedDict.ofList CatalogRowData.styleCode rows).unique listed

theorem product_unnamed {code : Text} (unnamed : ∀ row ∈ rows, row.styleCode ≠ code) :
    (supply runtime tables rows).products.find? code = tables.products.find? code := by
  apply (productUpsert runtime).find?_all_of_absent
  intro listed
  obtain ⟨entry,member,same⟩ := List.mem_map.mp listed
  obtain ⟨keyed,stored⟩ := OrderedDict.mem_ofList member
  exact unnamed entry.2 stored (keyed.symm.trans same)

theorem product_kept {code : Text} {product : Product}
    (found : tables.products.find? code = some product) :
    ∃ after, (supply runtime tables rows).products.find? code = some after ∧ after.id = product.id :=
  (productUpsert runtime).kept_all tables.products tables.nextId
    (OrderedDict.ofList CatalogRowData.styleCode rows).unique found

variable {tables}

theorem supply_nextId : tables.nextId ≤ (supply runtime tables rows).nextId :=
  (productUpsert runtime).next_all tables.products tables.nextId _

theorem supply_productIds (identified : Identified Product.id tables.products tables.nextId) :
    Identified Product.id (supply runtime tables rows).products
      (supply runtime tables rows).nextId :=
  identified.all (productUpsert runtime) _

theorem supply_variantProduct (linked : ∀ variant ∈ tables.variants.rows,
      ∃ product ∈ tables.products.rows, product.id = variant.productId) :
    ∀ variant ∈ (supply runtime tables rows).variants.rows,
      ∃ product ∈ (supply runtime tables rows).products.rows, product.id = variant.productId := by
  intro variant stored
  obtain ⟨product,place,own⟩ := linked variant stored
  obtain ⟨after,located,sameId⟩ := product_kept runtime tables (Table.find?_of_mem place)
  exact ⟨after,Table.mem_of_find? located,sameId.trans own⟩

end Products

section Retire

variable {rows : List CatalogRowData} {tables : Tables}

theorem find?_products_retire (code : Text) : (retireOmitted rows tables).products.find? code =
    if ∃ row ∈ rows, row.styleCode = code then tables.products.find? code
    else (tables.products.find? code).map Product.deactivate := by
  rw [retireOmitted]
  dsimp only
  rw [Table.find?_updateWhere]
  cases found : tables.products.find? code with
  | none => simp
  | some product =>
      have keyed : product.styleCode = code := Table.key_of_find? found
      rw [Option.map_some,keyed]
      by_cases named : ∃ row ∈ rows, row.styleCode = code
      · rw [if_pos named,if_neg (by simpa using named)]
      · rw [if_neg named,if_pos (by simpa using named)]
        rfl

theorem find?_tags_retire (epc : Text) : (retireOmitted rows tables).tags.find? epc =
    if ∃ row ∈ rows, row.epc = epc then tables.tags.find? epc
    else (tables.tags.find? epc).map RfidTag.deactivate := by
  rw [retireOmitted]
  dsimp only
  rw [Table.find?_updateWhere]
  cases found : tables.tags.find? epc with
  | none => simp
  | some tag =>
      have keyed : tag.epc = epc := Table.key_of_find? found
      rw [Option.map_some,keyed]
      by_cases named : ∃ row ∈ rows, row.epc = epc
      · rw [if_pos named,if_neg (by simpa using named)]
      · rw [if_neg named,if_pos (by simpa using named)]
        rfl

/-- A variant is deactivated, or left alone when it is one of the file. -/
theorem find?_variants_retire (key : Uuid × Text) : (retireOmitted rows tables).variants.find? key =
    (tables.variants.find? key).map fun variant =>
      if suppliedVariant rows tables variant then variant else variant.deactivate := by
  rw [retireOmitted]
  dsimp only
  rw [Table.find?_updateWhere]
  congr 1
  funext variant
  cases suppliedVariant rows tables variant <;> rfl

/-- What a FULL import retires is not what its rows projected. -/
theorem retireOmitted_projected (identified : Identified Product.id tables.products tables.nextId)
    {row : CatalogRowData} (member : row ∈ rows) (projected : tables.Projected row) :
    (retireOmitted rows tables).Projected row := by
  obtain ⟨product,variant,sku,tag,supplied,found,active,stored,linked,tagged,bound,tagActive⟩ :=
    projected
  have keyed : variant.key = (product.id,row.color) := Table.key_of_find? found
  have own : variant.productId = product.id := congrArg Prod.fst keyed
  have color : variant.color = row.color := congrArg Prod.snd keyed
  have byId : tables.productById variant.productId = some product := by
    rw [own]
    exact identified.find?_id (Table.mem_of_find? supplied)
  have styleCode : product.styleCode = row.styleCode := Table.key_of_find? supplied
  have spared : suppliedVariant rows tables variant = true := by
    rw [suppliedVariant,byId,Option.any_some,List.any_eq_true]
    exact ⟨row,member,by simp [styleCode,color]⟩
  refine ⟨product,variant,sku,tag,?_,?_,active,stored,linked,?_,bound,tagActive⟩
  · rw [find?_products_retire,if_pos ⟨row,member,rfl⟩,supplied]
  · rw [find?_variants_retire,found,Option.map_some,if_pos spared]
  · rw [find?_tags_retire,if_pos ⟨row,member,rfl⟩,tagged]

variable (promotion : Promotion)

def retired (promotion : Promotion) (rows : List CatalogRowData) (tables : Tables) : Tables :=
  whenFull promotion (retireOmitted rows) tables

theorem retired_of_full {promotion : Promotion} (full : promotion.mode = .full) :
    retired promotion rows tables = retireOmitted rows tables := by
  rw [retired,whenFull_of_full full]

theorem retired_of_delta {promotion : Promotion} (delta : promotion.mode ≠ .full) :
    retired promotion rows tables = tables := by
  rw [retired,whenFull_of_delta delta,id]

theorem retired_styles : (retired promotion rows tables).styles = tables.styles := by
  unfold retired whenFull
  split <;> rfl

theorem retired_skus : (retired promotion rows tables).skus = tables.skus := by
  unfold retired whenFull
  split <;> rfl

theorem retired_bindings : (retired promotion rows tables).bindings = tables.bindings := by
  unfold retired whenFull
  split <;> rfl

theorem retired_nextId : (retired promotion rows tables).nextId = tables.nextId := by
  unfold retired whenFull
  split <;> rfl

theorem find?_products_retired (code : Text) : (retired promotion rows tables).products.find? code =
    if ∃ row ∈ rows, row.styleCode = code then tables.products.find? code
    else (tables.products.find? code).map (whenFull promotion Product.deactivate) := by
  by_cases full : promotion.mode = .full
  · rw [retired_of_full full,find?_products_retire,whenFull_of_full full]
  · rw [retired_of_delta full,whenFull_of_delta full,Option.map_id,id,ite_self]

theorem find?_tags_retired (epc : Text) : (retired promotion rows tables).tags.find? epc =
    if ∃ row ∈ rows, row.epc = epc then tables.tags.find? epc
    else (tables.tags.find? epc).map (whenFull promotion RfidTag.deactivate) := by
  by_cases full : promotion.mode = .full
  · rw [retired_of_full full,find?_tags_retire,whenFull_of_full full]
  · rw [retired_of_delta full,whenFull_of_delta full,Option.map_id,id,ite_self]

theorem retired_variants {key : Uuid × Text} {variant : ProductVariant}
    (found : tables.variants.find? key = some variant) :
    ∃ kept, (retired promotion rows tables).variants.find? key = some kept ∧
      kept.id = variant.id := by
  by_cases full : promotion.mode = .full
  · rw [retired_of_full full,find?_variants_retire,found]
    refine ⟨_,rfl,?_⟩
    dsimp only
    split <;> rfl
  · rw [retired_of_delta full]
    exact ⟨variant,found,rfl⟩

theorem retired_products {code : Text} {product : Product}
    (found : tables.products.find? code = some product) :
    ∃ kept, (retired promotion rows tables).products.find? code = some kept ∧
      kept.id = product.id := by
  rw [find?_products_retired,found]
  split
  · exact ⟨product,rfl,rfl⟩
  · refine ⟨_,rfl,?_⟩
    unfold whenFull
    split <;> rfl

/-- The products keep their ids and style codes. -/
theorem suppliedVariant_retire (variant : ProductVariant) :
    suppliedVariant rows (retireOmitted rows tables) variant = suppliedVariant rows tables variant := by
  have ids : ∀ product : Product, (if (!rows.any fun row => row.styleCode = product.styleCode) then
      product.deactivate else product).id = product.id := by
    intro product
    split <;> rfl
  have codes : ∀ product : Product, (if (!rows.any fun row => row.styleCode = product.styleCode) then
      product.deactivate else product).styleCode = product.styleCode := by
    intro product
    split <;> rfl
  simp only [suppliedVariant,Tables.productById,retireOmitted,Table.updateWhere,List.find?_map,
    Option.any_map,Function.comp_def,ids,codes]

theorem retired_unsupplied {promotion : Promotion} (full : promotion.mode = .full)
    {variant : ProductVariant} (stored : variant ∈ (retired promotion rows tables).variants.rows)
    (unsupplied : suppliedVariant rows (retired promotion rows tables) variant = false) :
    variant.active = false := by
  rw [retired_of_full full] at stored unsupplied
  rw [suppliedVariant_retire] at unsupplied
  have found := Table.find?_of_mem stored
  rw [find?_variants_retire] at found
  obtain ⟨old,-,same⟩ := Option.map_eq_some_iff.mp found
  split at same
  · rename_i supplied
    rw [same,unsupplied] at supplied
    cases supplied
  · rw [← same]
    rfl

theorem retired_projected (identified : Identified Product.id tables.products tables.nextId)
    {row : CatalogRowData} (member : row ∈ rows) (projected : tables.Projected row) :
    (retired promotion rows tables).Projected row := by
  by_cases full : promotion.mode = .full
  · rw [retired_of_full full]
    exact retireOmitted_projected identified member projected
  · rw [retired_of_delta full]
    exact projected

theorem retired_productIds (identified : Identified Product.id tables.products tables.nextId) :
    Identified Product.id (retired promotion rows tables).products
      (retired promotion rows tables).nextId := by
  by_cases full : promotion.mode = .full
  · rw [retired_of_full full]
    exact identified.updateWhere _ _ Product.deactivate_styleCode fun _ => rfl
  · rw [retired_of_delta full]
    exact identified

theorem retired_variantIds (identified : Identified ProductVariant.id tables.variants tables.nextId) :
    Identified ProductVariant.id (retired promotion rows tables).variants
      (retired promotion rows tables).nextId := by
  by_cases full : promotion.mode = .full
  · rw [retired_of_full full]
    exact identified.updateWhere _ _ ProductVariant.deactivate_key fun _ => rfl
  · rw [retired_of_delta full]
    exact identified

theorem retired_variantProduct (linked : ∀ variant ∈ tables.variants.rows,
      ∃ product ∈ tables.products.rows, product.id = variant.productId) :
    ∀ variant ∈ (retired promotion rows tables).variants.rows,
      ∃ product ∈ (retired promotion rows tables).products.rows,
        product.id = variant.productId := by
  intro variant stored
  have before : ∃ old ∈ tables.variants.rows, old.productId = variant.productId := by
    by_cases full : promotion.mode = .full
    · rw [retired_of_full full] at stored
      have found := Table.find?_of_mem stored
      rw [find?_variants_retire] at found
      obtain ⟨old,place,same⟩ := Option.map_eq_some_iff.mp found
      refine ⟨old,Table.mem_of_find? place,?_⟩
      rw [← same]
      split <;> rfl
    · rw [retired_of_delta full] at stored
      exact ⟨variant,stored,rfl⟩
  obtain ⟨old,place,same⟩ := before
  obtain ⟨product,located,own⟩ := linked old place
  obtain ⟨kept,after,sameId⟩ := retired_products promotion (Table.find?_of_mem located)
  exact ⟨kept,Table.mem_of_find? after,sameId.trans (own.trans same)⟩

end Retire

section Sync

variable {runtime : Runtime} {promotion : Promotion} {tables after : Tables}
  {rows : List CatalogRowData}

theorem syncProjection_eq : syncProjection runtime tables promotion rows =
    (projectRows promotion (supply runtime tables rows) rows).bind fun projected =>
      if promotion.mode = .full then
        if projected.variants.rows.all fun variant =>
            (projected.productById variant.productId).isSome then
          .ok (retireOmitted rows projected)
        else .error .keyError
      else .ok projected := rfl

/-- Past the rows the projection decides everything but the products of the variants. -/
theorem syncProjection_eq_ok (done : syncProjection runtime tables promotion rows = .ok after) :
    ∃ projected, projectRows promotion (supply runtime tables rows) rows = .ok projected ∧
      after = retired promotion rows projected := by
  rw [syncProjection_eq] at done
  cases projection : projectRows promotion (supply runtime tables rows) rows with
  | error error =>
      rw [projection] at done
      cases done
  | ok projected =>
      refine ⟨projected,rfl,?_⟩
      rw [projection,Except.bind] at done
      by_cases full : promotion.mode = .full
      · rw [if_pos full] at done
        split at done
        · rw [retired_of_full full]
          exact (Except.ok.inj done).symm
        · cases done
      · rw [if_neg full] at done
        rw [retired_of_delta full]
        exact (Except.ok.inj done).symm

/-- The tables between the rows and the omissions. -/
theorem projected_productIds (identified : Identified Product.id tables.products tables.nextId)
    {projected : Tables}
    (projection : projectRows promotion (supply runtime tables rows) rows = .ok projected) :
    Identified Product.id projected.products projected.nextId := by
  have frame := projectRows_frame projection
  rw [frame.products]
  exact (supply_productIds runtime identified).mono frame.nextId

/-- The product of a style of the file is written by the last row that names the style. -/
theorem syncProjection_named (done : syncProjection runtime tables promotion rows = .ok after)
    {code : Text} {data : CatalogRowData}
    (listed : (code,data) ∈ (OrderedDict.ofList CatalogRowData.styleCode rows).rows) :
    ∃ fresh, tables.nextId ≤ fresh ∧ after.products.find? code =
      some ((productUpsert runtime).written tables.products fresh code data) := by
  obtain ⟨projected,projection,rfl⟩ := syncProjection_eq_ok done
  obtain ⟨fresh,later,found⟩ := product_named runtime tables listed
  obtain ⟨keyed,stored⟩ := OrderedDict.mem_ofList listed
  refine ⟨fresh,later,?_⟩
  rw [find?_products_retired,if_pos ⟨data,stored,keyed.symm⟩,
    (projectRows_frame projection).products,found]

/-- The projection gets through when the SKUs of the file are there. -/
theorem syncProjection_of_found
    (productIds : Identified Product.id tables.products tables.nextId)
    (variantProduct : ∀ variant ∈ tables.variants.rows,
      ∃ product ∈ tables.products.rows, product.id = variant.productId)
    (skus : ∀ row ∈ rows, ∃ sku, tables.skus.find? row.sku = some sku) :
    ∃ after, syncProjection runtime tables promotion rows = .ok after := by
  have products : ∀ row ∈ rows, ∃ product,
      (supply runtime tables rows).products.find? row.styleCode = some product := by
    intro row member
    obtain ⟨data,listed,-⟩ := last_of_style member
    obtain ⟨fresh,-,found⟩ := product_named runtime tables listed
    exact ⟨_,found⟩
  have done : ∃ projected, projectRows promotion (supply runtime tables rows) rows = .ok projected :=
    projectRows_of_found products skus
  obtain ⟨projected,projection⟩ := done
  have linked := (projectRows_frame projection).variantProduct
    (supply_variantProduct runtime variantProduct)
  have identified := projected_productIds productIds projection
  have total : (projected.variants.rows.all fun variant =>
      (projected.productById variant.productId).isSome) = true := by
    rw [List.all_eq_true]
    intro variant stored
    obtain ⟨product,place,own⟩ := linked variant stored
    rw [Tables.productById,← own,identified.find?_id place]
    rfl
  rw [syncProjection_eq,projection,Except.bind,if_pos total]
  split
  · exact ⟨_,rfl⟩
  · exact ⟨_,rfl⟩

structure Tables.Synced (before after : Tables) (runtime : Runtime) (promotion : Promotion)
    (rows : List CatalogRowData) : Prop where
  styles : after.styles = before.styles
  bindings : after.bindings = before.bindings
  nextId : before.nextId ≤ after.nextId
  skus : ∀ code, (after.skus.find? code).map Sku.unlinked = (before.skus.find? code).map Sku.unlinked
  omittedSkus : ∀ code, (∀ row ∈ rows, row.sku ≠ code) →
    after.skus.find? code = before.skus.find? code
  namedProducts : ∀ code data,
    (code,data) ∈ (OrderedDict.ofList CatalogRowData.styleCode rows).rows →
      ∃ fresh, before.nextId ≤ fresh ∧ after.products.find? code =
        some ((productUpsert runtime).written before.products fresh code data)
  omittedProducts : ∀ code, (∀ row ∈ rows, row.styleCode ≠ code) →
    after.products.find? code =
      (before.products.find? code).map (whenFull promotion Product.deactivate)
  variants : ∀ key variant, before.variants.find? key = some variant →
    ∃ kept, after.variants.find? key = some kept ∧ kept.id = variant.id
  omittedVariants : promotion.mode = .full → ∀ variant ∈ after.variants.rows,
    suppliedVariant rows after variant = false → variant.active = false
  omittedTags : ∀ epc, (∀ row ∈ rows, row.epc ≠ epc) →
    after.tags.find? epc = (before.tags.find? epc).map (whenFull promotion RfidTag.deactivate)
  projected : ∀ row ∈ rows, after.Projected row
  productIds : Identified Product.id after.products after.nextId
  variantIds : Identified ProductVariant.id after.variants after.nextId
  variantProduct : ∀ variant ∈ after.variants.rows,
    ∃ product ∈ after.products.rows, product.id = variant.productId

theorem syncProjection_synced (wellFormed : tables.WellFormed) (keyed : Keyed rows)
    (done : syncProjection runtime tables promotion rows = .ok after) :
    tables.Synced after runtime promotion rows := by
  obtain ⟨projected,projection,rfl⟩ := syncProjection_eq_ok done
  have frame := projectRows_frame projection
  have grown : tables.nextId ≤ (supply runtime tables rows).nextId := supply_nextId runtime
  have identified := projected_productIds wellFormed.productIds projection
  constructor
  · rw [retired_styles,frame.styles]
    rfl
  · rw [retired_bindings,frame.bindings]
    rfl
  · rw [retired_nextId]
    exact grown.trans frame.nextId
  · rw [retired_skus]
    exact frame.skus
  · intro code unnamed
    rw [retired_skus,projectRows_skus unnamed projection]
    rfl
  · exact fun code data listed => syncProjection_named done listed
  · intro code unnamed
    rw [find?_products_retired,frame.products,product_unnamed runtime tables unnamed,if_neg]
    exact fun named => named.elim fun row listed => unnamed row listed.1 listed.2
  · intro key variant found
    obtain ⟨kept,located,sameId⟩ := frame.variants key variant found
    obtain ⟨last,place,equal⟩ := retired_variants promotion located
    exact ⟨last,place,equal.trans sameId⟩
  · exact fun full variant => retired_unsupplied full
  · intro epc unnamed
    rw [find?_tags_retired,projectRows_tags unnamed projection,if_neg]
    · rfl
    · exact fun named => named.elim fun row listed => unnamed row listed.1 listed.2
  · intro row member
    exact retired_projected promotion identified member
      (projectRows_projects keyed.coexists projection row member)
  · exact retired_productIds promotion identified
  · exact retired_variantIds promotion (frame.variantIds (wellFormed.variantIds.mono grown))
  · exact retired_variantProduct promotion
      (frame.variantProduct (supply_variantProduct runtime wellFormed.variantProduct))

end Sync

namespace Tables.Synced

variable {before after : Tables} {runtime : Runtime} {promotion : Promotion}
  {rows : List CatalogRowData} (synced : before.Synced after runtime promotion rows)

include synced

/-- The projection makes no SKU. -/
theorem sku_before {sku : Sku} (stored : sku ∈ after.skus.rows) :
    ∃ old ∈ before.skus.rows, old.unlinked = sku.unlinked := by
  have same := synced.skus sku.code
  rw [Table.find?_of_mem stored,Option.map_some] at same
  obtain ⟨old,found,equal⟩ := Option.map_eq_some_iff.mp same.symm
  exact ⟨old,Table.mem_of_find? found,equal⟩

theorem sku_after {code : Text} {sku : Sku} (found : before.skus.find? code = some sku) :
    ∃ kept, after.skus.find? code = some kept ∧ kept.unlinked = sku.unlinked := by
  have same := synced.skus code
  rw [found,Option.map_some] at same
  exact Option.map_eq_some_iff.mp same

omit synced in
/-- SKUs are the same when they were. -/
theorem sku_eq {sku other old older : Sku} (stored : sku ∈ after.skus.rows)
    (place : other ∈ after.skus.rows) (left : old.unlinked = sku.unlinked)
    (right : older.unlinked = other.unlinked) (same : old = older) : sku = other := by
  have codes : sku.code = other.code :=
    (Sku.alike_of_unlinked (left.symm.trans (same ▸ right))).code
  exact Table.eq_of_key _ stored place codes

theorem skuIds (identified : Identified Sku.id before.skus before.nextId) :
    Identified Sku.id after.skus after.nextId := by
  constructor
  · intro sku stored
    obtain ⟨old,place,same⟩ := synced.sku_before stored
    have ids : old.id = sku.id := (Sku.alike_of_unlinked same).id
    rw [← ids]
    exact (identified.below old place).trans_le synced.nextId
  · intro sku stored other member equal
    obtain ⟨old,place,same⟩ := synced.sku_before stored
    obtain ⟨older,located,alike⟩ := synced.sku_before member
    have ids : old.id = sku.id := (Sku.alike_of_unlinked same).id
    have otherIds : older.id = other.id := (Sku.alike_of_unlinked alike).id
    exact sku_eq stored member same alike
      (identified.distinct old place older located (by rw [ids,otherIds,equal]))

theorem upcs (unique : ∀ sku ∈ before.skus.rows, ∀ other ∈ before.skus.rows,
      sku.upc = other.upc → sku = other) :
    ∀ sku ∈ after.skus.rows, ∀ other ∈ after.skus.rows, sku.upc = other.upc → sku = other := by
  intro sku stored other member equal
  obtain ⟨old,place,same⟩ := synced.sku_before stored
  obtain ⟨older,located,alike⟩ := synced.sku_before member
  have own : old.upc = sku.upc := (Sku.alike_of_unlinked same).upc
  have others : older.upc = other.upc := (Sku.alike_of_unlinked alike).upc
  exact sku_eq stored member same alike
    (unique old place older located (by rw [own,others,equal]))

/-- The projection keeps the constraints of the tables. -/
theorem wellFormed (wellFormed : before.WellFormed) : after.WellFormed where
  styleIds := by
    rw [synced.styles]
    exact wellFormed.styleIds.mono synced.nextId
  skuIds := synced.skuIds wellFormed.skuIds
  productIds := synced.productIds
  variantIds := synced.variantIds
  upcs := synced.upcs wellFormed.upcs
  skuStyle := by
    intro sku stored
    obtain ⟨old,place,same⟩ := synced.sku_before stored
    have own : old.productStyleId = sku.productStyleId := (Sku.alike_of_unlinked same).productStyleId
    rw [synced.styles,← own]
    exact wellFormed.skuStyle old place
  bindingSku := by
    intro binding stored
    rw [synced.bindings] at stored
    obtain ⟨sku,place,own⟩ := wellFormed.bindingSku binding stored
    obtain ⟨kept,located,same⟩ := synced.sku_after (Table.find?_of_mem place)
    have ids : kept.id = sku.id := (Sku.alike_of_unlinked same).id
    exact ⟨kept,Table.mem_of_find? located,ids.trans own⟩
  oneOpen := by
    rw [synced.bindings]
    exact wellFormed.oneOpen
  intervals := by
    rw [synced.bindings]
    exact wellFormed.intervals
  disjoint := by
    rw [synced.bindings]
    exact wellFormed.disjoint
  variantProduct := synced.variantProduct

end Tables.Synced

section Promote

variable {runtime : Runtime} {promotion : Promotion} {tables after : Tables}
  {rows : List CatalogRowData} {outcome : Outcome}

/-- A promotion that gets through: both passes over a catalog that keeps its constraints. -/
structure Promoted (runtime : Runtime) (promotion : Promotion) (tables : Tables)
    (rows : List CatalogRowData) (outcome : Outcome) (after : Tables) where
  pass : Pass tables rows
  outcome_eq : outcome = pass.outcome promotion
  conflictFree : ConflictFree tables rows
  wellFormed : (pass.after promotion).WellFormed
  synced : (pass.after promotion).Synced after runtime promotion rows
  fits : after.fits = true

theorem promoted_of_ok (wellFormed : tables.WellFormed) (keyed : Keyed rows)
    (promoted : promoteRows runtime tables promotion rows = .ok (outcome,after)) :
    Nonempty (Promoted runtime promotion tables rows outcome after) := by
  rw [promoteRows] at promoted
  cases applied : applyPromotion tables promotion rows with
  | error error =>
      rw [applied] at promoted
      cases promoted
  | ok middle =>
      obtain ⟨free,pass,counted,written,held⟩ := applyPromotion_eq_ok applied
      have conflictFree := free_of_none keyed free
      rw [applied,Except.bind] at promoted
      cases projection : syncProjection runtime middle.2 promotion rows with
      | error error =>
          rw [projection] at promoted
          cases promoted
      | ok projected =>
          rw [projection,Except.bind] at promoted
          split at promoted
          · rename_i fits
            cases promoted
            rw [written] at projection held
            have kept := pass.wellFormed_after promotion wellFormed keyed conflictFree held
            exact ⟨⟨pass,counted,conflictFree,kept,
              syncProjection_synced kept keyed projection,fits⟩⟩
          · cases promoted

end Promote

end Abacus.Catalog
