import Abacus.Catalog.Exact

/-! A promotion of the same rows again.
The first promotion leaves every entity of the file as the second one would write it, and a
FULL one has left nothing to omit. Only the tags get the other source import.
-/
set_option autoImplicit false

namespace Abacus.Catalog

open Relational (Table OrderedDict Identified Upsert)
open Python (Text text Json JsonObject)
open Pass (whenFull whenFull_of_full whenFull_of_delta)

section Settled

variable {runtime : Runtime} {first : Promotion} {tables after : Tables}
  {rows : List CatalogRowData} {outcome : Outcome}
  (promoted : Promoted runtime first tables rows outcome after) (consistent : Consistent rows)

include promoted consistent

theorem Promoted.style_settled {row : CatalogRowData} (member : row ∈ rows) :
    ∃ style, after.styles.find? row.styleCode = some style ∧ styleChanged style row = false := by
  obtain ⟨style,data,found,name,active,texts,stored⟩ := promoted.style consistent member
  have attributes : same style.attributes row.styleAttributes := by
    rw [stored]
    exact (same_storedOver _ data).trans (same_of_dumps texts)
  exact ⟨style,found,by simp [styleChanged,name,attributes,active]⟩

theorem Promoted.sku_settled {row : CatalogRowData} (member : row ∈ rows) :
    ∃ sku style, after.skus.find? row.sku = some sku ∧
      after.styles.find? row.styleCode = some style ∧ sku.upc = row.upc ∧
      skuChanged sku style row = false := by
  obtain ⟨sku,style,data,found,target,own,upc,color,size,active,texts,stored⟩ :=
    promoted.sku consistent member
  have attributes : same sku.attributes row.attributes := by
    rw [stored]
    exact (same_storedOver _ data).trans (same_of_dumps texts)
  exact ⟨sku,style,found,target,upc,by simp [skuChanged,own,upc,color,size,attributes,active]⟩

/-- The second promotion meets no conflict: the SKUs of the file own their UPCs, and are in their
styles. -/
theorem Promoted.conflictFree_after : ConflictFree after rows := by
  have wellFormed := promoted.synced.wellFormed promoted.wellFormed
  intro row member
  obtain ⟨sku,style,found,target,upc,unchanged⟩ := promoted.sku_settled consistent member
  have unowned : (after.skuByUpc row.upc).filter (fun owner => owner.code ≠ row.sku) = none := by
    rw [Option.filter_eq_none_iff]
    intro owner owns
    have sameUpc : owner.upc = row.upc := by simpa using List.find?_some owns
    have equal : owner = sku := wellFormed.upcs owner (List.mem_of_find?_eq_some owns) sku
      (Table.mem_of_find? found) (sameUpc.trans upc.symm)
    simp [equal,Table.key_of_find? found]
  have own : sku.productStyleId = style.id := by
    by_contra moved
    simp [skuChanged,moved] at unchanged
  have byId : after.styleById sku.productStyleId = some style := by
    rw [own]
    exact wellFormed.styleIds.find?_id (Table.mem_of_find? target)
  have styleCode : style.code = row.styleCode := Table.key_of_find? target
  rw [promotionConflict,unowned]
  dsimp only
  rw [found,Option.bind_some,byId]
  dsimp only
  rw [if_neg (by simp [styleCode])]

end Settled

section Again

variable {runtime : Runtime} {first : Promotion} {tables after : Tables}
  {rows : List CatalogRowData} {outcome : Outcome}
  (promoted : Promoted runtime first tables rows outcome after) (consistent : Consistent rows)

include promoted consistent

/-- The style loop finds every style as it writes it. -/
theorem Promoted.stylePass_again : stylePass after rows = (after.styles,after.nextId,
    (entityData rows).styles.rows.map fun entry => (entry.2,after.styles.find? entry.1)) := by
  apply styleUpsert.all_of_settled
  intro entry listed
  obtain ⟨member,same⟩ := of_mem_styles listed
  obtain ⟨style,found,unchanged⟩ := promoted.style_settled consistent member
  rw [same] at found
  refine ⟨style,found,?_⟩
  have kept : reviseStyle entry.2 style = style := by
    rw [reviseStyle,unchanged]
    rfl
  exact kept

variable (again : Pass after rows)

theorem Promoted.of_mem_skuEntries {code : Text} {data : CatalogRowData} {style : ProductStyle}
    (attached : (code,data,style) ∈ again.skuEntries) :
    data.sku = code ∧ ∃ sku, after.skus.find? code = some sku ∧
      skuChanged sku style data = false := by
  obtain ⟨entered,target⟩ := Relational.of_mem_attachAll again.skusAttached attached
  obtain ⟨member,same⟩ := of_mem_skus entered
  obtain ⟨sku,own,found,located,-,unchanged⟩ := promoted.sku_settled consistent member
  rw [styleOf,promoted.stylePass_again consistent,located] at target
  cases target
  rw [same] at found
  exact ⟨same,sku,found,unchanged⟩

theorem Promoted.skuPass_again : skuPass after rows again.skuEntries = (after.skus,after.nextId,
    again.skuEntries.map fun entry => (entry.2,after.skus.find? entry.1)) := by
  rw [skuPass,promoted.stylePass_again consistent]
  apply skuUpsert.all_of_settled
  intro entry attached
  obtain ⟨-,sku,found,unchanged⟩ := promoted.of_mem_skuEntries consistent again attached
  refine ⟨sku,found,?_⟩
  have kept : reviseSku entry.2 sku = sku := by
    rw [reviseSku,unchanged]
    rfl
  exact kept

/-- Every EPC of the file is bound to its SKU already. -/
theorem Promoted.bound_again (wellFormed : tables.WellFormed)
    {entry : Text × CatalogRowData × Sku} (attached : entry ∈ again.epcEntries) :
    ∃ binding, after.openBinding entry.1 = some binding ∧ binding.skuId = entry.2.2.id := by
  obtain ⟨entered,found⟩ := Relational.of_mem_attachAll again.epcsAttached attached
  obtain ⟨member,same⟩ := of_mem_epcs entered
  obtain ⟨sku,binding,located,current,bound⟩ := promoted.binding wellFormed consistent.keyed member
  rw [skuOf,promoted.skuPass_again consistent again,located] at found
  cases found
  rw [same] at current
  exact ⟨binding,current,bound⟩

theorem Promoted.rebinds_again (wellFormed : tables.WellFormed)
    {entry : Text × CatalogRowData × Sku} (attached : entry ∈ again.epcEntries) :
    (after.openBinding entry.1).isNone = false ∧ rebinds after.openBinding entry = false := by
  obtain ⟨binding,current,bound⟩ := promoted.bound_again consistent again wellFormed attached
  simp [rebinds,current,bound]

/-- The loops write nothing. -/
theorem Promoted.written_again (wellFormed : tables.WellFormed) (second : Promotion) :
    again.written second = after := by
  have kept : after.bindings.map (rebound second after.openBinding again.epcEntries) =
      after.bindings := by
    have steady : ∀ binding ∈ after.bindings,
        rebound second after.openBinding again.epcEntries binding = id binding := by
      intro binding _
      rw [rebound,if_neg]
      · rfl
      · rw [ends,Bool.and_eq_true,not_and,Bool.not_eq_true,List.any_eq_false]
        intro _ entry attached
        simp [promoted.rebinds_again consistent again wellFormed attached]
    rw [List.map_congr_left steady,List.map_id]
  have opens : opened second after.openBinding again.epcEntries = [] := by
    rw [opened,List.map_eq_nil_iff,List.filter_eq_nil_iff]
    intro entry attached
    simp [promoted.rebinds_again consistent again wellFormed attached]
  rw [Pass.written,kept,opens,List.append_nil,promoted.stylePass_again consistent,
    promoted.skuPass_again consistent again]

/-- A second FULL promotion omits nothing that is active or open. -/
theorem Promoted.omits_nothing (wellFormed : tables.WellFormed) (full : first.mode = .full) :
    (∀ style ∈ after.styles.rows,
      (!(entityData rows).styles.contains style.code && style.active) = false) ∧
    (∀ sku ∈ after.skus.rows, (!(entityData rows).skus.contains sku.code && sku.active) = false) ∧
    ∀ binding ∈ after.bindings,
      (!(entityData rows).epcs.contains binding.epc && binding.isOpen) = false := by
  have only := promoted.onlyNames wellFormed consistent full
  refine ⟨?_,?_,?_⟩
  · intro style stored
    cases active : style.active with
    | false => simp
    | true =>
        rw [Pass.contains_styles_eq,decide_eq_true ((only.styles style stored).mp active)]
        rfl
  · intro sku stored
    cases active : sku.active with
    | false => simp
    | true =>
        rw [Pass.contains_skus_eq,decide_eq_true ((only.skus sku stored).mp active)]
        rfl
  · intro binding stored
    cases isOpen : binding.isOpen with
    | false => simp
    | true =>
        have current := (openBinding_eq_some
          (promoted.synced.wellFormed promoted.wellFormed).oneOpen).mpr ⟨stored,isOpen,rfl⟩
        have named := (only.epcs binding.epc).mp ⟨binding,current⟩
        rw [Pass.contains_epcs_eq,decide_eq_true named]
        rfl

theorem Promoted.after_again (wellFormed : tables.WellFormed) {second : Promotion}
    (sameMode : second.mode = first.mode) : again.after second = after := by
  rw [Pass.after,promoted.written_again consistent again wellFormed second]
  split
  · rename_i full
    obtain ⟨styles,skus,bindings⟩ :=
      promoted.omits_nothing consistent wellFormed (sameMode.symm.trans full)
    have keptBindings : (after.bindings.map fun binding =>
        if !(entityData rows).epcs.contains binding.epc && binding.isOpen then
          binding.close second.effectiveAt else binding) = after.bindings := by
      have steady : ∀ binding ∈ after.bindings,
          (if !(entityData rows).epcs.contains binding.epc && binding.isOpen then
            binding.close second.effectiveAt else binding) = id binding := by
        intro binding stored
        rw [bindings binding stored]
        rfl
      rw [List.map_congr_left steady,List.map_id]
    rw [deactivateOmitted,keptBindings,Table.updateWhere_of_idle,Table.updateWhere_of_idle]
    · intro sku stored active
      rw [skus sku stored] at active
      cases active
    · intro style stored active
      rw [styles style stored] at active
      cases active
  · rfl

def Counter.Idle (counter : Counter) : Prop :=
  counter.inserted = 0 ∧ counter.updated = 0 ∧ counter.deactivated = 0

omit promoted consistent in
theorem tally_idle {changes : List Change} {deactivated : ℕ}
    (unchanged : ∀ change ∈ changes, change = .unchanged) (none : deactivated = 0) :
    (Counter.tally changes deactivated).Idle := by
  have absent : ∀ other : Change, other ≠ .unchanged → changes.count other = 0 := by
    intro other apart
    rw [List.count_eq_zero]
    exact fun listed => apart (unchanged other listed)
  exact ⟨absent .inserted (by decide),absent .updated (by decide),none⟩

/-- The second promotion counts everything as unchanged. -/
theorem Promoted.outcome_again (wellFormed : tables.WellFormed) {second : Promotion}
    (sameMode : second.mode = first.mode) :
    (again.outcome second).styles.Idle ∧ (again.outcome second).skus.Idle ∧
      (again.outcome second).epcBindings.Idle := by
  have omitted : ∀ number, (second.mode = .full → number = 0) →
      Pass.omitted second number = 0 := by
    intro number zero
    unfold Pass.omitted
    split
    · rename_i full
      exact zero full
    · rfl
  have written := promoted.written_again consistent again wellFormed second
  refine ⟨tally_idle ?_ (omitted _ ?_),tally_idle ?_ (omitted _ ?_),tally_idle ?_ (omitted _ ?_)⟩
  · rw [promoted.stylePass_again consistent]
    simp only [List.map_map,List.mem_map,Function.comp_apply]
    rintro change ⟨entry,listed,rfl⟩
    obtain ⟨member,same⟩ := of_mem_styles listed
    obtain ⟨style,found,unchanged⟩ := promoted.style_settled consistent member
    rw [same] at found
    simp [styleChange,found,unchanged]
  · intro full
    rw [written,List.countP_eq_zero]
    intro style stored
    simp [(promoted.omits_nothing consistent wellFormed (sameMode.symm.trans full)).1 style stored]
  · rw [promoted.skuPass_again consistent again]
    simp only [List.map_map,List.mem_map,Function.comp_apply]
    rintro change ⟨entry,attached,rfl⟩
    obtain ⟨-,sku,found,unchanged⟩ := promoted.of_mem_skuEntries consistent again attached
    simp [skuChange,found,unchanged]
  · intro full
    rw [written,List.countP_eq_zero]
    intro sku stored
    simp [(promoted.omits_nothing consistent wellFormed (sameMode.symm.trans full)).2.1 sku stored]
  · simp only [List.mem_map]
    rintro change ⟨entry,attached,rfl⟩
    obtain ⟨present,steady⟩ := promoted.rebinds_again consistent again wellFormed attached
    simp [epcChange,present,steady]
  · intro full
    rw [written,List.countP_eq_zero]
    intro binding stored
    simp [(promoted.omits_nothing consistent wellFormed
      (sameMode.symm.trans full)).2.2 binding stored]

end Again

section Retagged

/-- What a tag says, apart from the import that it comes from. -/
def RfidTag.mapping (tag : RfidTag) : Text × Uuid × Bool := (tag.epc,tag.skuId,tag.active)

/-- Nothing but the source imports of the tags differs. -/
structure Tables.Retagged (before after : Tables) : Prop where
  same : after = { before with tags := after.tags }
  tags : ∀ epc,
    (after.tags.find? epc).map RfidTag.mapping = (before.tags.find? epc).map RfidTag.mapping

theorem Tables.Retagged.refl (tables : Tables) : tables.Retagged tables := ⟨rfl,fun _ => rfl⟩

theorem Tables.Retagged.trans {first second third : Tables} (left : first.Retagged second)
    (right : second.Retagged third) : first.Retagged third := by
  constructor
  · rw [right.same,left.same]
  · exact fun epc => (right.tags epc).trans (left.tags epc)

variable {before after : Tables} {row : CatalogRowData} {rows : List CatalogRowData}
  {second : Promotion}

theorem Tables.Projected.retagged (projected : before.Projected row)
    (retagged : before.Retagged after) : after.Projected row := by
  obtain ⟨product,variant,sku,tag,supplied,found,active,stored,linked,tagged,bound,tagActive⟩ :=
    projected
  have tags := retagged.tags row.epc
  rw [tagged,Option.map_some] at tags
  obtain ⟨other,located,mapping⟩ := Option.map_eq_some_iff.mp tags
  simp only [RfidTag.mapping,Prod.mk.injEq] at mapping
  rw [retagged.same]
  exact ⟨product,variant,sku,other,supplied,found,active,stored,linked,located,
    mapping.2.1.trans bound,mapping.2.2.trans tagActive⟩

/-- Projecting a row again writes its tag, and nothing else. -/
theorem projectRow_again (projected : before.Projected row) :
    ∃ after, projectRow second before row = .ok after ∧ before.Retagged after := by
  obtain ⟨product,variant,sku,tag,supplied,found,active,stored,linked,tagged,bound,tagActive⟩ :=
    projected
  have written : variantOf before row product = variant := by
    rw [variantOf_of_found found,← active]
  have variants : before.variants.put variant = before.variants :=
    Table.put_of_find? (by rw [Table.key_of_find? found,found])
  have skus : before.skus.put (sku.toVariant variant.id) = before.skus := by
    have kept : sku.toVariant variant.id = sku := by rw [Sku.toVariant,← linked]
    rw [kept]
    exact Table.put_of_find? (by rw [Table.key_of_find? stored,stored])
  have nextId : Upsert.nextAfter before.variants before.nextId (product.id,row.color) =
      before.nextId := by
    simp [Upsert.nextAfter,found]
  refine ⟨_,projectRow_of_found supplied stored,?_,?_⟩
  · rw [projectedRow,written,variants,skus,nextId]
  · intro epc
    rw [find?_tags_projectedRow]
    split
    · rename_i same
      have keyed : tag.epc = row.epc := Table.key_of_find? tagged
      rw [← same,tagged]
      simp [RfidTag.mapping,keyed,bound,tagActive]
    · rfl

theorem projectRows_again (projected : ∀ row ∈ rows, before.Projected row) :
    ∃ after, projectRows second before rows = .ok after ∧ before.Retagged after := by
  induction rows generalizing before with
  | nil => exact ⟨before,rfl,Tables.Retagged.refl before⟩
  | cons row rows ih =>
      rw [List.forall_mem_cons] at projected
      obtain ⟨middle,done,retagged⟩ : ∃ middle, projectRow second before row = .ok middle ∧
          before.Retagged middle := projectRow_again projected.1
      obtain ⟨after,rest,later⟩ :=
        ih fun other member => (projected.2 other member).retagged retagged
      refine ⟨after,?_,retagged.trans later⟩
      rw [projectRows,done]
      exact rest

structure Tables.Retired (tables : Tables) (rows : List CatalogRowData) : Prop where
  products : ∀ product ∈ tables.products.rows, (∀ row ∈ rows, row.styleCode ≠ product.styleCode) →
    product.active = false
  variants : ∀ variant ∈ tables.variants.rows, suppliedVariant rows tables variant = false →
    variant.active = false
  tags : ∀ tag ∈ tables.tags.rows, (∀ row ∈ rows, row.epc ≠ tag.epc) → tag.active = false

theorem Tables.Retired.retagged (retired : before.Retired rows) (retagged : before.Retagged after) :
    after.Retired rows := by
  constructor
  · rw [retagged.same]
    exact retired.products
  · rw [retagged.same]
    exact retired.variants
  · intro tag stored unnamed
    have tags := retagged.tags tag.epc
    rw [Table.find?_of_mem stored,Option.map_some] at tags
    obtain ⟨old,found,mapping⟩ := Option.map_eq_some_iff.mp tags.symm
    simp only [RfidTag.mapping,Prod.mk.injEq] at mapping
    rw [← mapping.2.2]
    exact retired.tags old (Table.mem_of_find? found) (by rw [mapping.1]; exact unnamed)

/-- There is nothing left to retire. -/
theorem retired_again (settled : second.mode = .full → before.Retired rows) :
    before.Retagged (retired second rows before) := by
  by_cases full : second.mode = .full
  · have retired := settled full
    rw [retired_of_full full]
    constructor
    · rw [retireOmitted,Table.updateWhere_of_idle,Table.updateWhere_of_idle]
      · intro variant stored unsupplied
        have inactive := retired.variants variant stored (by simpa using unsupplied)
        rw [ProductVariant.deactivate,← inactive]
      · intro product stored unnamed
        have inactive := retired.products product stored (by simpa using unnamed)
        rw [Product.deactivate,← inactive]
    · intro epc
      rw [find?_tags_retire]
      split
      · rfl
      · rename_i unnamed
        cases found : before.tags.find? epc with
        | none => rfl
        | some tag =>
            have keyed : tag.epc = epc := Table.key_of_find? found
            have inactive := retired.tags tag (Table.mem_of_find? found)
              fun row member same => unnamed ⟨row,member,same.trans keyed⟩
            simp [RfidTag.mapping,RfidTag.deactivate,inactive]
  · rw [retired_of_delta full]
    exact Tables.Retagged.refl before

/-- The lengths of the texts do not depend on the source imports. -/
theorem Tables.Retagged.fits (retagged : before.Retagged after) (fits : before.fits = true) :
    after.fits = true := by
  have tags : ∀ tag ∈ after.tags.rows, tag.fits = true := by
    intro tag stored
    have same := retagged.tags tag.epc
    rw [Table.find?_of_mem stored,Option.map_some] at same
    obtain ⟨old,found,mapping⟩ := Option.map_eq_some_iff.mp same.symm
    simp only [RfidTag.mapping,Prod.mk.injEq] at mapping
    simp only [Tables.fits,Bool.and_eq_true,List.all_eq_true] at fits
    have bounded := fits.2 old (Table.mem_of_find? found)
    rw [RfidTag.fits,mapping.1] at bounded
    exact bounded
  simp only [Tables.fits,Bool.and_eq_true,List.all_eq_true] at fits ⊢
  refine ⟨?_,tags⟩
  rw [retagged.same]
  exact fits.1

end Retagged

section Sync

variable {runtime : Runtime} {first second : Promotion} {tables after : Tables}
  {rows : List CatalogRowData} {outcome : Outcome}
  (promoted : Promoted runtime first tables rows outcome after)

include promoted

theorem Promoted.supply_again : supply runtime after rows = after := by
  have pass : productPass runtime after rows = (after.products,after.nextId,
      (OrderedDict.ofList CatalogRowData.styleCode rows).rows.map fun entry =>
        (entry.2,after.products.find? entry.1)) := by
    apply (productUpsert runtime).all_of_settled
    intro entry listed
    obtain ⟨fresh,-,found⟩ := promoted.synced.namedProducts entry.1 entry.2 listed
    rw [written_product] at found
    refine ⟨_,found,?_⟩
    have kept : assign (storedOver
        (((promoted.pass.after first).products.find? entry.1).map Product.attributes)
          entry.2.styleAttributes) entry.2.styleAttributes = storedOver
        (((promoted.pass.after first).products.find? entry.1).map Product.attributes)
          entry.2.styleAttributes := if_pos (same_storedOver _ _)
    exact congrArg (fun attributes : JsonObject => Product.mk _ _ _ _ attributes _) kept
  rw [supply,pass]

theorem Promoted.retired_after (full : first.mode = .full) : after.Retired rows := by
  constructor
  · intro product stored unnamed
    have found := Table.find?_of_mem stored
    rw [promoted.synced.omittedProducts product.styleCode unnamed,whenFull_of_full full] at found
    obtain ⟨old,-,same⟩ := Option.map_eq_some_iff.mp found
    rw [← same]
    rfl
  · exact promoted.synced.omittedVariants full
  · intro tag stored unnamed
    have found := Table.find?_of_mem stored
    rw [promoted.synced.omittedTags tag.epc unnamed,whenFull_of_full full] at found
    obtain ⟨old,-,same⟩ := Option.map_eq_some_iff.mp found
    rw [← same]
    rfl

theorem Promoted.syncProjection_again (consistent : Consistent rows)
    (sameMode : second.mode = first.mode) :
    ∃ last, syncProjection runtime after second rows = .ok last ∧ after.Retagged last := by
  have wellFormed := promoted.synced.wellFormed promoted.wellFormed
  have skus : ∀ row ∈ rows, ∃ sku, after.skus.find? row.sku = some sku := by
    intro row member
    obtain ⟨sku,-,found,-⟩ := promoted.sku_settled consistent member
    exact ⟨sku,found⟩
  obtain ⟨last,done⟩ : ∃ last, syncProjection runtime after second rows = .ok last :=
    syncProjection_of_found wellFormed.productIds wellFormed.variantProduct skus
  obtain ⟨projected,projection,same⟩ := syncProjection_eq_ok done
  obtain ⟨middle,rowsDone,retagged⟩ : ∃ middle, projectRows second after rows = .ok middle ∧
      after.Retagged middle := projectRows_again promoted.synced.projected
  rw [promoted.supply_again,rowsDone] at projection
  cases projection
  refine ⟨last,done,?_⟩
  rw [same]
  apply retagged.trans (retired_again _)
  intro full
  exact (promoted.retired_after (sameMode.symm.trans full)).retagged retagged

end Sync

/-- Promoting the same rows again, in the same mode, counts them all as unchanged, and changes nothing
but the imports that the tags come from. -/
theorem promotion_idempotent (runtime : Runtime) (first second : Promotion) (tables : Tables)
    (rows : List CatalogRowData) (outcome : Outcome) (after : Tables)
    (wellFormed : tables.WellFormed) (consistent : Consistent rows)
    (promoted : promoteRows runtime tables first rows = .ok (outcome,after))
    (sameMode : second.mode = first.mode) :
    ∃ again last, promoteRows runtime after second rows = .ok (again,last) ∧
      again.styles.Idle ∧ again.skus.Idle ∧ again.epcBindings.Idle ∧
      last.styles = after.styles ∧ last.skus = after.skus ∧ last.bindings = after.bindings ∧
      last.products = after.products ∧ last.variants = after.variants ∧
      ∀ epc, (last.tags.find? epc).map RfidTag.mapping =
        (after.tags.find? epc).map RfidTag.mapping := by
  obtain ⟨through⟩ := promoted_of_ok wellFormed consistent.keyed promoted
  have kept := through.synced.wellFormed through.wellFormed
  obtain ⟨again⟩ := exists_pass after rows
  have unwritten := through.after_again consistent again wellFormed sameMode
  obtain ⟨styles,skus,epcBindings⟩ := through.outcome_again consistent again wellFormed sameMode
  have applied : applyPromotion after second rows = .ok (again.outcome second,after) := by
    rw [applyPromotion_eq again second
      (firstConflict_eq_none (through.conflictFree_after consistent)),unwritten]
    exact checked_of_none (violatedConstraint_eq_none.mpr ⟨kept.intervals,kept.disjoint⟩)
  obtain ⟨last,synced,retagged⟩ := through.syncProjection_again consistent sameMode
  refine ⟨again.outcome second,last,?_,styles,skus,epcBindings,?_,?_,?_,?_,?_,retagged.tags⟩
  · rw [promoteRows,applied,Except.bind,synced,Except.bind,if_pos (retagged.fits through.fits)]
  · rw [retagged.same]
  · rw [retagged.same]
  · rw [retagged.same]
  · rw [retagged.same]
  · rw [retagged.same]

theorem promotion_idempotent_sample : ∃ again last,
    promoteRows Sample.runtime Sample.stocked ⟨2,.full,6⟩ (Sample.shirt (Sample.organic Sample.one)) =
        .ok (again,last) ∧
      again.styles.Idle ∧ again.skus.Idle ∧ again.epcBindings.Idle ∧
      last.styles = Sample.stocked.styles ∧ last.skus = Sample.stocked.skus ∧
      last.bindings = Sample.stocked.bindings ∧ last.products = Sample.stocked.products ∧
      last.variants = Sample.stocked.variants ∧
      ∀ epc, (last.tags.find? epc).map RfidTag.mapping =
        (Sample.stocked.tags.find? epc).map RfidTag.mapping := by
  have through : (promoteRows Sample.runtime {} ⟨1,.full,5⟩
      (Sample.shirt (Sample.organic Sample.one))).toOption.isSome = true := by decide +kernel
  obtain ⟨outcome,promoted⟩ := Sample.reached_of_isSome through
  exact promotion_idempotent Sample.runtime ⟨1,.full,5⟩ ⟨2,.full,6⟩ {} _ outcome Sample.stocked
    Tables.WellFormed.empty (Sample.shirt_consistent _) promoted rfl

end Abacus.Catalog
