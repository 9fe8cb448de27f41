import Abacus.Catalog.Documents
import Abacus.Catalog.Exact

/-! The canonical catalog and its projection.
A promotion writes both, and what it omits it deactivates in both or leaves alone in both.
-/
set_option autoImplicit false

namespace Abacus.Catalog

open Relational (Table OrderedDict Identified Upsert)
open Python (Text text Json JsonObject)
open Pass (whenFull whenFull_of_full whenFull_of_delta)

/-- The two representations of a catalog say the same. -/
structure Tables.Agree (tables : Tables) : Prop where
  tags : ∀ epc skuId,
    (∃ binding ∈ tables.bindings, binding.isOpen = true ∧ binding.epc = epc ∧
      binding.skuId = skuId) ↔
    ∃ tag ∈ tables.tags.rows, tag.active = true ∧ tag.epc = epc ∧ tag.skuId = skuId
  products : ∀ style ∈ tables.styles.rows, ∃ product ∈ tables.products.rows,
    product.styleCode = style.code ∧ product.name = style.name ∧
      (Json.object product.attributes).dumps = (Json.object style.attributes).dumps ∧
      product.active = style.active
  variants : ∀ sku ∈ tables.skus.rows, ∃ variant ∈ tables.variants.rows,
    ∃ style ∈ tables.styles.rows, ∃ product ∈ tables.products.rows,
      sku.productVariantId = some variant.id ∧ sku.productStyleId = style.id ∧
      product.styleCode = style.code ∧ variant.productId = product.id ∧ variant.color = sku.color
  active : ∀ sku ∈ tables.skus.rows, sku.active = true → ∃ style ∈ tables.styles.rows,
    ∃ product ∈ tables.products.rows, sku.productStyleId = style.id ∧ style.active = true ∧
      product.styleCode = style.code ∧ product.active = true

structure Tables.Sound (tables : Tables) : Prop where
  wellFormed : tables.WellFormed
  agree : tables.Agree
  productStyle : ∀ product ∈ tables.products.rows, ∃ style ∈ tables.styles.rows,
    style.code = product.styleCode

theorem Tables.Sound.empty : ({} : Tables).Sound where
  wellFormed := Tables.WellFormed.empty
  agree := by
    constructor
    · simp
    · simp
    · simp
    · simp
  productStyle := by simp

section Documents

/-- Documents with one text stay so when documents with one text are stored over them. -/
theorem storedOver_dumps {old older : Option JsonObject} {left right : JsonObject}
    (before : old.map (fun document => (Json.object document).dumps) =
      older.map fun document => (Json.object document).dumps)
    (texts : (Json.object left).dumps = (Json.object right).dumps) :
    (Json.object (storedOver old left)).dumps = (Json.object (storedOver older right)).dumps := by
  cases old with
  | none =>
      cases older with
      | none => exact texts
      | some loaded => cases before
  | some loaded =>
      cases older with
      | none => cases before
      | some other =>
          have equal : (Json.object loaded).dumps = (Json.object other).dumps :=
            Option.some.inj before
          have decided : same loaded left ↔ same other right := by
            constructor
            · intro alike
              exact (same_of_dumps equal.symm).trans (alike.trans (same_of_dumps texts))
            · intro alike
              exact (same_of_dumps equal).trans (alike.trans (same_of_dumps texts.symm))
          simp only [storedOver,Option.elim_some,assign]
          by_cases alike : same loaded left
          · rw [if_pos alike,if_pos (decided.mp alike)]
            exact equal
          · rw [if_neg alike,if_neg fun other => alike (decided.mpr other)]
            exact texts

end Documents

section Step

variable {runtime : Runtime} {promotion : Promotion} {tables after : Tables}
  {rows : List CatalogRowData} {outcome : Outcome}
  (promoted : Promoted runtime promotion tables rows outcome after)

include promoted

/-- The product of a style of the file. -/
theorem Promoted.product (consistent : Consistent rows) {row : CatalogRowData}
    (member : row ∈ rows) :
    ∃ product data, after.products.find? row.styleCode = some product ∧
      product.name = row.styleName ∧ product.active = true ∧
      (Json.object data).dumps = (Json.object row.styleAttributes).dumps ∧
      product.attributes =
        storedOver ((tables.products.find? row.styleCode).map Product.attributes) data := by
  obtain ⟨data,listed,stored,same⟩ := last_of_style member
  obtain ⟨fresh,-,found⟩ := promoted.synced.namedProducts row.styleCode data listed
  obtain ⟨name,texts⟩ := consistent.styles data stored row member same
  rw [written_product,Pass.after_products] at found
  exact ⟨_,data.styleAttributes,found,name,rfl,texts,rfl⟩

theorem Promoted.omittedProducts {code : Text} (unnamed : ∀ row ∈ rows, row.styleCode ≠ code) :
    after.products.find? code =
      (tables.products.find? code).map (whenFull promotion Product.deactivate) := by
  rw [promoted.synced.omittedProducts code unnamed,Pass.after_products]

theorem Promoted.product_kept {code : Text} {product : Product}
    (found : tables.products.find? code = some product) :
    ∃ kept, after.products.find? code = some kept ∧ kept.id = product.id := by
  by_cases named : ∃ row ∈ rows, row.styleCode = code
  · obtain ⟨row,member,rfl⟩ := named
    obtain ⟨data,listed,-⟩ := last_of_style member
    obtain ⟨fresh,-,written⟩ := promoted.synced.namedProducts row.styleCode data listed
    rw [written_product,Pass.after_products,found] at written
    exact ⟨_,written,rfl⟩
  · rw [promoted.omittedProducts fun row member same => named ⟨row,member,same⟩,found]
    refine ⟨_,rfl,?_⟩
    unfold whenFull
    split <;> rfl

theorem Promoted.style_kept {code : Text} {style : ProductStyle}
    (found : tables.styles.find? code = some style) :
    ∃ kept, after.styles.find? code = some kept ∧ kept.id = style.id := by
  rw [promoted.synced.styles]
  exact promoted.pass.style_after promotion found

/-- A style and its product are written, deactivated or left alone together. -/
theorem Promoted.products_agree (sound : tables.Sound) (consistent : Consistent rows) :
    ∀ style ∈ after.styles.rows, ∃ product ∈ after.products.rows,
      product.styleCode = style.code ∧ product.name = style.name ∧
        (Json.object product.attributes).dumps = (Json.object style.attributes).dumps ∧
        product.active = style.active := by
  have stored : ∀ code, (tables.products.find? code).map
        (fun product => (Json.object product.attributes).dumps) =
      (tables.styles.find? code).map fun style => (Json.object style.attributes).dumps := by
    intro code
    cases found : tables.styles.find? code with
    | none =>
        cases located : tables.products.find? code with
        | none => rfl
        | some product =>
            obtain ⟨style,place,same⟩ :=
              sound.productStyle product (Table.mem_of_find? located)
            rw [Table.key_of_find? located] at same
            rw [← same,Table.find?_of_mem place] at found
            cases found
    | some style =>
        obtain ⟨product,place,keyed,-,texts,-⟩ :=
          sound.agree.products style (Table.mem_of_find? found)
        have located := Table.find?_of_mem place
        rw [keyed,Table.key_of_find? found] at located
        rw [located,Option.map_some,Option.map_some,texts]
  intro style member
  have found := Table.find?_of_mem member
  by_cases named : ∃ row ∈ rows, row.styleCode = style.code
  · obtain ⟨row,listed,same⟩ := named
    obtain ⟨other,data,located,name,active,texts,document⟩ := promoted.style consistent listed
    rw [same,found] at located
    cases located
    obtain ⟨product,last,place,productName,productActive,lastTexts,productDocument⟩ :=
      promoted.product consistent listed
    refine ⟨product,Table.mem_of_find? place,(Table.key_of_find? place).trans same,
      productName.trans name.symm,?_,productActive.trans active.symm⟩
    rw [document,productDocument]
    apply storedOver_dumps
    · rw [Option.map_map,Option.map_map]
      exact stored row.styleCode
    · exact lastTexts.trans texts.symm
  · have unnamed : ∀ row ∈ rows, row.styleCode ≠ style.code :=
      fun row listed same => named ⟨row,listed,same⟩
    rw [promoted.omittedStyles unnamed] at found
    obtain ⟨old,before,same⟩ := Option.map_eq_some_iff.mp found
    obtain ⟨product,place,code,name,texts,active⟩ :=
      sound.agree.products old (Table.mem_of_find? before)
    have located := Table.find?_of_mem place
    rw [code,Table.key_of_find? before] at located
    have kept := promoted.omittedProducts unnamed
    rw [located] at kept
    refine ⟨_,Table.mem_of_find? kept,Table.key_of_find? kept,?_⟩
    rw [← same]
    unfold whenFull
    split
    · exact ⟨name,texts,rfl⟩
    · exact ⟨name,texts,active⟩

theorem Promoted.productStyle (sound : tables.Sound) :
    ∀ product ∈ after.products.rows, ∃ style ∈ after.styles.rows,
      style.code = product.styleCode := by
  intro product member
  have found := Table.find?_of_mem member
  by_cases named : ∃ row ∈ rows, row.styleCode = product.styleCode
  · obtain ⟨row,listed,same⟩ := named
    obtain ⟨data,-,-,fresh,-,located⟩ := promoted.pass.named_style promotion listed
    rw [← promoted.synced.styles] at located
    exact ⟨_,Table.mem_of_find? located,(Table.key_of_find? located).trans same⟩
  · rw [promoted.omittedProducts fun row listed same => named ⟨row,listed,same⟩] at found
    obtain ⟨old,before,-⟩ := Option.map_eq_some_iff.mp found
    obtain ⟨style,place,code⟩ := sound.productStyle old (Table.mem_of_find? before)
    rw [Table.key_of_find? before] at code
    have located := Table.find?_of_mem place
    rw [code] at located
    obtain ⟨kept,last,-⟩ := promoted.style_kept located
    exact ⟨kept,Table.mem_of_find? last,Table.key_of_find? last⟩

/-- An EPC of the file has one open binding and one tag, both to its SKU. -/
theorem Promoted.tags_named (wellFormed : tables.WellFormed) (keyed : Keyed rows)
    {row : CatalogRowData} (member : row ∈ rows) (skuId : Uuid) :
    (∃ binding ∈ after.bindings, binding.isOpen = true ∧ binding.epc = row.epc ∧
      binding.skuId = skuId) ↔
    ∃ tag ∈ after.tags.rows, tag.active = true ∧ tag.epc = row.epc ∧ tag.skuId = skuId := by
  obtain ⟨sku,binding,stored,current,bound⟩ := promoted.binding wellFormed keyed member
  obtain ⟨product,variant,other,tag,-,-,-,located,-,tagged,tagSku,active⟩ :=
    promoted.synced.projected row member
  rw [stored] at located
  cases located
  have oneOpen := (promoted.synced.wellFormed promoted.wellFormed).oneOpen
  constructor
  · rintro ⟨opened,listed,isOpen,keyed,owner⟩
    have only := (openBinding_eq_some oneOpen).mpr ⟨listed,isOpen,keyed⟩
    rw [current] at only
    cases only
    exact ⟨tag,Table.mem_of_find? tagged,active,Table.key_of_find? tagged,
      tagSku.trans (bound.symm.trans owner)⟩
  · rintro ⟨found,listed,-,keyed,owner⟩
    have only := Table.find?_of_mem listed
    rw [keyed,tagged] at only
    cases only
    obtain ⟨place,isOpen,sameEpc⟩ := (openBinding_eq_some oneOpen).mp current
    exact ⟨binding,place,isOpen,sameEpc,bound.trans (tagSku.symm.trans owner)⟩

/-- An EPC that the file omits loses its binding and its tag, or keeps both. -/
theorem Promoted.tags_unnamed (sound : tables.Sound) {epc : Text}
    (unnamed : ∀ row ∈ rows, row.epc ≠ epc) (skuId : Uuid) :
    (∃ binding ∈ after.bindings, binding.isOpen = true ∧ binding.epc = epc ∧
      binding.skuId = skuId) ↔
    ∃ tag ∈ after.tags.rows, tag.active = true ∧ tag.epc = epc ∧ tag.skuId = skuId := by
  have tags := promoted.synced.omittedTags epc unnamed
  rw [Pass.after_tags] at tags
  have bindings := promoted.pass.open_unnamed promotion unnamed
  by_cases full : promotion.mode = .full
  · constructor
    · rintro ⟨binding,listed,isOpen,keyed,-⟩
      rw [promoted.synced.bindings] at listed
      exact absurd full ((bindings binding).mp ⟨listed,isOpen,keyed⟩).1
    · rintro ⟨tag,listed,active,keyed,-⟩
      have found := Table.find?_of_mem listed
      rw [keyed,tags,whenFull_of_full full] at found
      obtain ⟨old,-,same⟩ := Option.map_eq_some_iff.mp found
      rw [← same] at active
      cases active
  · have kept := sound.agree.tags epc skuId
    rw [whenFull_of_delta full,Option.map_id,id] at tags
    constructor
    · rintro ⟨binding,listed,isOpen,keyed,owner⟩
      rw [promoted.synced.bindings] at listed
      obtain ⟨-,stored,-⟩ := (bindings binding).mp ⟨listed,isOpen,keyed⟩
      obtain ⟨tag,place,active,own,tagSku⟩ := kept.mp ⟨binding,stored,isOpen,keyed,owner⟩
      have found := Table.find?_of_mem place
      rw [own,← tags] at found
      exact ⟨tag,Table.mem_of_find? found,active,own,tagSku⟩
    · rintro ⟨tag,listed,active,own,tagSku⟩
      have found := Table.find?_of_mem listed
      rw [own,tags] at found
      obtain ⟨binding,stored,isOpen,keyed,owner⟩ :=
        kept.mpr ⟨tag,Table.mem_of_find? found,active,own,tagSku⟩
      obtain ⟨place,-⟩ := (bindings binding).mpr ⟨full,stored,isOpen,keyed⟩
      rw [← promoted.synced.bindings] at place
      exact ⟨binding,place,isOpen,keyed,owner⟩

theorem Promoted.variants_agree (sound : tables.Sound) (consistent : Consistent rows) :
    ∀ sku ∈ after.skus.rows, ∃ variant ∈ after.variants.rows, ∃ style ∈ after.styles.rows,
      ∃ product ∈ after.products.rows, sku.productVariantId = some variant.id ∧
        sku.productStyleId = style.id ∧ product.styleCode = style.code ∧
        variant.productId = product.id ∧ variant.color = sku.color := by
  intro sku member
  have found := Table.find?_of_mem member
  by_cases named : ∃ row ∈ rows, row.sku = sku.code
  · obtain ⟨row,listed,same⟩ := named
    obtain ⟨other,style,data,located,target,own,-,color,-⟩ := promoted.sku consistent listed
    rw [same,found] at located
    cases located
    obtain ⟨product,variant,projected,tag,supplied,place,-,stored,linked,-⟩ :=
      promoted.synced.projected row listed
    rw [same,found] at stored
    cases stored
    have keyed : variant.key = (product.id,row.color) := Table.key_of_find? place
    refine ⟨variant,Table.mem_of_find? place,style,Table.mem_of_find? target,product,
      Table.mem_of_find? supplied,linked,own,?_,congrArg Prod.fst keyed,?_⟩
    · exact (Table.key_of_find? supplied).trans (Table.key_of_find? target).symm
    · exact (congrArg Prod.snd keyed).trans color.symm
  · rw [promoted.omittedSkus fun row listed same => named ⟨row,listed,same⟩] at found
    obtain ⟨old,before,same⟩ := Option.map_eq_some_iff.mp found
    obtain ⟨variant,variantPlace,style,stylePlace,product,productPlace,linked,own,code,productId,
      color⟩ := sound.agree.variants old (Table.mem_of_find? before)
    obtain ⟨keptVariant,variantFound,variantId⟩ :=
      promoted.synced.variants variant.key variant
        (by rw [Pass.after_variants]; exact Table.find?_of_mem variantPlace)
    have keyed : keptVariant.key = variant.key := Table.key_of_find? variantFound
    obtain ⟨keptStyle,styleFound,styleId⟩ := promoted.style_kept (Table.find?_of_mem stylePlace)
    obtain ⟨keptProduct,productFound,keptId⟩ :=
      promoted.product_kept (Table.find?_of_mem productPlace)
    have fields : sku.productVariantId = old.productVariantId ∧
        sku.productStyleId = old.productStyleId ∧ sku.color = old.color := by
      rw [← same]
      unfold whenFull
      split
      · exact ⟨rfl,rfl,rfl⟩
      · exact ⟨rfl,rfl,rfl⟩
    refine ⟨keptVariant,Table.mem_of_find? variantFound,keptStyle,Table.mem_of_find? styleFound,
      keptProduct,Table.mem_of_find? productFound,?_,?_,?_,?_,?_⟩
    · rw [fields.1,linked,variantId]
    · rw [fields.2.1,own,styleId]
    · rw [Table.key_of_find? productFound,Table.key_of_find? styleFound,code]
    · exact (congrArg Prod.fst keyed).trans (productId.trans keptId.symm)
    · exact (congrArg Prod.snd keyed).trans (color.trans fields.2.2.symm)

/-- An active SKU is named, with its style, or was active in an active style. -/
theorem Promoted.active_agree (sound : tables.Sound) (consistent : Consistent rows) :
    ∀ sku ∈ after.skus.rows, sku.active = true → ∃ style ∈ after.styles.rows,
      ∃ product ∈ after.products.rows, sku.productStyleId = style.id ∧ style.active = true ∧
        product.styleCode = style.code ∧ product.active = true := by
  have activeStyle : ∀ sku ∈ after.skus.rows, sku.active = true → ∃ style ∈ after.styles.rows,
      sku.productStyleId = style.id ∧ style.active = true := by
    intro sku member active
    have found := Table.find?_of_mem member
    by_cases named : ∃ row ∈ rows, row.sku = sku.code
    · obtain ⟨row,listed,same⟩ := named
      obtain ⟨other,style,data,located,target,own,-⟩ := promoted.sku consistent listed
      rw [same,found] at located
      cases located
      obtain ⟨namedStyle,-,place,-,styleActive,-⟩ := promoted.style consistent listed
      rw [target] at place
      cases place
      exact ⟨style,Table.mem_of_find? target,own,styleActive⟩
    · rw [promoted.omittedSkus fun row listed same => named ⟨row,listed,same⟩] at found
      obtain ⟨old,before,same⟩ := Option.map_eq_some_iff.mp found
      have delta : promotion.mode ≠ .full := by
        intro full
        rw [whenFull_of_full full] at same
        rw [← same] at active
        cases active
      rw [whenFull_of_delta delta,id] at same
      cases same
      obtain ⟨style,place,-,-,own,styleActive,-⟩ :=
        sound.agree.active sku (Table.mem_of_find? before) active
      obtain ⟨kept,located,sameId⟩ := promoted.style_kept (Table.find?_of_mem place)
      refine ⟨kept,Table.mem_of_find? located,own.trans sameId.symm,?_⟩
      by_cases namedStyle : ∃ row ∈ rows, row.styleCode = style.code
      · obtain ⟨row,listed,code⟩ := namedStyle
        obtain ⟨other,-,again,-,otherActive,-⟩ := promoted.style consistent listed
        rw [code,located] at again
        cases again
        exact otherActive
      · rw [promoted.omittedStyles fun row listed code => namedStyle ⟨row,listed,code⟩,
          Table.find?_of_mem place,whenFull_of_delta delta] at located
        cases located
        exact styleActive
  intro sku member active
  obtain ⟨style,place,own,styleActive⟩ := activeStyle sku member active
  obtain ⟨product,located,code,-,-,sameActive⟩ :=
    promoted.products_agree sound consistent style place
  exact ⟨style,place,product,located,own,styleActive,code,sameActive.trans styleActive⟩

/-- A promotion that gets through keeps the two representations in agreement. -/
theorem Promoted.sound (sound : tables.Sound) (consistent : Consistent rows) : after.Sound where
  wellFormed := promoted.synced.wellFormed promoted.wellFormed
  agree := {
    tags := by
      intro epc skuId
      by_cases named : ∃ row ∈ rows, row.epc = epc
      · obtain ⟨row,member,rfl⟩ := named
        exact promoted.tags_named sound.wellFormed consistent.keyed member skuId
      · exact promoted.tags_unnamed sound (fun row member same => named ⟨row,member,same⟩) skuId
    products := promoted.products_agree sound consistent
    variants := promoted.variants_agree sound consistent
    active := promoted.active_agree sound consistent }
  productStyle := promoted.productStyle sound

end Step

section Calls

variable {runtime : Runtime} {tables : Tables} {call : PromotionCall}

def PromotionCall.promotion (call : PromotionCall) : Promotion :=
  ⟨call.catalogImport.id,call.catalogImport.mode,call.now⟩

/-- A call completes its import with what its promotion leaves, or returns with the catalog as it was,
or raises. -/
theorem promoteCatalogImport_cases (runtime : Runtime) (tables : Tables) (call : PromotionCall) :
    (call.catalogImport.status = .ready ∧ ∃ outcome after,
      promoteRows runtime tables call.promotion call.rows = .ok (outcome,after) ∧
      promoteCatalogImport runtime tables call.catalogImport call.rows call.now =
        .ok (call.catalogImport.complete outcome,after)) ∨
    (∃ catalogImport, promoteCatalogImport runtime tables call.catalogImport call.rows call.now =
        .ok (catalogImport,tables) ∧
      (call.catalogImport.status = .ready → catalogImport.status ≠ .completed)) ∨
    ∃ failure, promoteCatalogImport runtime tables call.catalogImport call.rows call.now =
      .error failure := by
  rw [promoteCatalogImport]
  by_cases completed : call.catalogImport.status = .completed
  · rw [if_pos completed]
    exact .inr (.inl ⟨_,rfl,by simp [completed]⟩)
  by_cases unready : call.catalogImport.status ≠ .ready
  · rw [if_neg completed,if_pos unready]
    exact .inr (.inr ⟨_,rfl⟩)
  by_cases incomplete : (call.rows.length : ℤ) ≠ call.catalogImport.validRows ∨ call.rows = []
  · rw [if_neg completed,if_neg unready,if_pos incomplete]
    exact .inr (.inr ⟨_,rfl⟩)
  rw [if_neg completed,if_neg unready,if_neg incomplete]
  cases promoted : promoteRows runtime tables call.promotion call.rows with
  | ok result =>
      rw [PromotionCall.promotion] at promoted
      rw [promoted]
      exact .inl ⟨not_not.mp unready,result.1,result.2,rfl,rfl⟩
  | error error =>
      rw [PromotionCall.promotion] at promoted
      rw [promoted]
      cases error with
      | conflict message => exact .inr (.inl ⟨_,rfl,by simp [CatalogImport.fail]⟩)
      | integrityError constraint => exact .inr (.inl ⟨_,rfl,by simp [CatalogImport.fail]⟩)
      | dataError => exact .inr (.inr ⟨_,rfl⟩)
      | keyError => exact .inr (.inr ⟨_,rfl⟩)

/-- A call leaves what its promotion leaves, or the catalog as it was. -/
theorem afterPromotion_cases (runtime : Runtime) (tables : Tables) (call : PromotionCall) :
    (∃ outcome, promoteRows runtime tables call.promotion call.rows =
      .ok (outcome,afterPromotion runtime tables call)) ∨
    afterPromotion runtime tables call = tables := by
  rcases promoteCatalogImport_cases runtime tables call with
    ⟨-,outcome,after,promoted,done⟩ | ⟨catalogImport,done,-⟩ | ⟨failure,raised⟩
  · exact .inl ⟨outcome,by rw [promoted,afterPromotion,done]⟩
  · exact .inr (by rw [afterPromotion,done])
  · exact .inr (by rw [afterPromotion,raised])

theorem afterPromotion_sound (sound : tables.Sound) (consistent : Consistent call.rows) :
    (afterPromotion runtime tables call).Sound := by
  rcases afterPromotion_cases runtime tables call with ⟨outcome,promoted⟩ | same
  · obtain ⟨through⟩ := promoted_of_ok sound.wellFormed consistent.keyed promoted
    exact through.sound sound consistent
  · rw [same]
    exact sound

def CatalogReachable (runtime : Runtime) (tables : Tables) : Prop :=
  (catalogMachine runtime).ReachableWithin (fun _ call => Consistent call.rows) tables

theorem CatalogReachable.sound (reachable : CatalogReachable runtime tables) : tables.Sound := by
  refine Transition.Machine.ReachableWithin.invariant ?_ ?_ reachable
  · rintro state rfl
    exact Tables.Sound.empty
  · intro state event after sound consistent taken
    cases taken
    exact afterPromotion_sound sound consistent

end Calls

/-- The two representations agree in every catalog that promotions lead to, and a call that completes
no import leaves the catalog as it was. -/
theorem catalog_representations_agree (runtime : Runtime) (tables : Tables)
    (reachable : CatalogReachable runtime tables) :
    tables.Agree ∧ ∀ call : PromotionCall,
      (∀ catalogImport after, promoteCatalogImport runtime tables call.catalogImport call.rows
        call.now = .ok (catalogImport,after) → catalogImport.status ≠ .completed) →
      afterPromotion runtime tables call = tables := by
  refine ⟨reachable.sound.agree,?_⟩
  intro call unfinished
  rcases promoteCatalogImport_cases runtime tables call with
    ⟨-,outcome,after,-,done⟩ | ⟨catalogImport,done,-⟩ | ⟨failure,raised⟩
  · exact absurd rfl (unfinished _ _ done)
  · rw [afterPromotion,done]
  · rw [afterPromotion,raised]

theorem catalog_representations_agree_sample :
    ((afterPromotion Sample.runtime (afterPromotion Sample.runtime {} Sample.stockCall)
      Sample.deltaCall).skus.rows.any Sku.active) = true ∧
    (afterPromotion Sample.runtime (afterPromotion Sample.runtime {} Sample.stockCall)
      Sample.deltaCall).Agree := by
  have reachable : CatalogReachable Sample.runtime (afterPromotion Sample.runtime
      (afterPromotion Sample.runtime {} Sample.stockCall) Sample.deltaCall) := by
    have stock : Consistent Sample.stockCall.rows :=
      Sample.shirt_consistent (Sample.organic Sample.one)
    have delta : Consistent Sample.deltaCall.rows := Sample.shirt_consistent []
    exact ⟨{},[Sample.stockCall,Sample.deltaCall],rfl,
      ⟨stock,fun _ _ => ⟨delta,fun _ _ => trivial⟩⟩,rfl⟩
  exact ⟨by decide +kernel,(catalog_representations_agree Sample.runtime _ reachable).1⟩

/-- Two rows of a style have one document in another order of its names, which a dump makes one name.
The dumps keep different values: the style gets that of its first row, the product that of its
last. -/
theorem merged_names_disagree : Sample.lossyRuntime.DumpsClean ∧ ∃ staging completed after,
    validateAndStage Sample.lossyRuntime {} Sample.fullImport Sample.shuffledFile = .ok staging ∧
      staging.catalogImport.status = .ready ∧
      promoteCatalogImport Sample.lossyRuntime {} staging.catalogImport
        (staging.readRows Sample.lossyRuntime) 5 = .ok (completed,after) ∧
      completed.status = .completed ∧ ¬after.Agree := by
  refine ⟨Sample.lossyRuntime_dumpsClean,?_⟩
  obtain ⟨staging,staged,holds⟩ : ∃ staging, validateAndStage Sample.lossyRuntime {}
      Sample.fullImport Sample.shuffledFile = .ok staging ∧
      (staging.catalogImport.status = .ready && (promoteCatalogImport Sample.lossyRuntime {}
        staging.catalogImport (staging.readRows Sample.lossyRuntime) 5).toOption.any fun result =>
          result.1.status = .completed && result.2.styles.rows.any fun style =>
            result.2.products.rows.all fun product => product.styleCode ≠ style.code ||
              (Json.object product.attributes).dumps ≠ (Json.object style.attributes).dumps) =
        true := exists_of_any (by decide +kernel)
  rw [Bool.and_eq_true,decide_eq_true_eq] at holds
  obtain ⟨⟨completed,after⟩,promoted,differs⟩ := exists_of_any holds.2
  rw [Bool.and_eq_true,decide_eq_true_eq,List.any_eq_true] at differs
  obtain ⟨done,style,stored,apart⟩ := differs
  refine ⟨staging,completed,after,staged,holds.1,promoted,done,?_⟩
  intro agree
  obtain ⟨product,listed,code,-,texts,-⟩ := agree.products style stored
  have other := List.all_eq_true.mp apart product listed
  simp [code,texts] at other

end Abacus.Catalog
