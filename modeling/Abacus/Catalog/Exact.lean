import Abacus.Catalog.Synced
import Abacus.Catalog.Validated

/-! A promotion against the file it promotes.
Everything but the documents is written as the file has it. A document reaches its column only
when it differs from the stored one in Python, where a truth value equals a number.
-/
set_option autoImplicit false

namespace Abacus.Catalog

open Relational (Table OrderedDict Identified)
open Python (Text text Json JsonObject)
open Pass (whenFull whenFull_of_full whenFull_of_delta)

section Documents

def sameJson (left right : JsonObject) : Prop :=
  (Json.object left).asJson = (Json.object right).asJson

instance (left right : JsonObject) : Decidable (sameJson left right) :=
  inferInstanceAs (Decidable (_ = _))

theorem sameJson_of_dumps {left right : JsonObject}
    (texts : (Json.object left).dumps = (Json.object right).dumps) : sameJson left right :=
  Json.asJson_of_dumps texts

theorem sameJson.trans {first second third : JsonObject} (left : sameJson first second)
    (right : sameJson second third) : sameJson first third := Eq.trans left right

theorem sameJson.symm {left right : JsonObject} (alike : sameJson left right) :
    sameJson right left := Eq.symm alike

/-- When the two comparisons agree on the stored document, it does not stay in the way of the one
that is assigned. -/
def Replaceable (old : Option JsonObject) (assigned : JsonObject) : Prop :=
  ∀ loaded, old = some loaded → same loaded assigned → sameJson loaded assigned

theorem sameJson_storedOver_iff {old : Option JsonObject} {assigned : JsonObject} :
    sameJson (storedOver old assigned) assigned ↔ Replaceable old assigned := by
  cases old with
  | none =>
      constructor
      · intro _ loaded absent
        cases absent
      · exact fun _ => rfl
  | some loaded =>
      rw [storedOver,Option.elim_some,assign]
      constructor
      · intro held other found equal
        cases found
        rw [if_pos equal] at held
        exact held
      · intro replaceable
        split
        · rename_i equal
          exact replaceable loaded rfl equal
        · rfl

instance (old : Option JsonObject) (assigned : JsonObject) : Decidable (Replaceable old assigned) :=
  decidable_of_iff _ sameJson_storedOver_iff

theorem Replaceable.congr {old : Option JsonObject} {left right : JsonObject}
    (texts : (Json.object left).dumps = (Json.object right).dumps)
    (replaceable : Replaceable old left) : Replaceable old right := by
  intro loaded found equal
  have back := replaceable loaded found (same.trans equal (same_of_dumps texts.symm))
  exact back.trans (sameJson_of_dumps texts)

end Documents

section Statement

structure ProductStyle.Has (style : ProductStyle) (row : CatalogRowData) : Prop where
  name : style.name = row.styleName
  attributes : sameJson style.attributes row.styleAttributes
  active : style.active = true

structure Sku.Has (sku : Sku) (row : CatalogRowData) (style : ProductStyle) : Prop where
  style : sku.productStyleId = style.id
  upc : sku.upc = row.upc
  color : sku.color = row.color
  size : sku.size = row.size
  attributes : sameJson sku.attributes row.attributes
  active : sku.active = true

/-- What the file names is active, or bound, as the file says. -/
structure Tables.Carries (after : Tables) (rows : List CatalogRowData) : Prop where
  styles : ∀ row ∈ rows, ∃ style, after.styles.find? row.styleCode = some style ∧ style.Has row
  skus : ∀ row ∈ rows, ∃ sku style, after.skus.find? row.sku = some sku ∧
    after.styles.find? row.styleCode = some style ∧ sku.Has row style
  epcs : ∀ row ∈ rows, ∃ sku binding, after.skus.find? row.sku = some sku ∧
    after.openBinding row.epc = some binding ∧ binding.skuId = sku.id

structure Tables.Untouched (before after : Tables) (rows : List CatalogRowData) : Prop where
  styles : ∀ code, (∀ row ∈ rows, row.styleCode ≠ code) →
    after.styles.find? code = before.styles.find? code
  skus : ∀ code, (∀ row ∈ rows, row.sku ≠ code) →
    after.skus.find? code = before.skus.find? code
  bindings : ∀ binding : EpcBinding, binding.isOpen = true →
    (∀ row ∈ rows, row.epc ≠ binding.epc) →
      (binding ∈ after.bindings ↔ binding ∈ before.bindings)

/-- What is active, or bound, is what the file names, and the rest keeps its values. -/
structure Tables.OnlyNames (before after : Tables) (effectiveAt : Time)
    (rows : List CatalogRowData) : Prop where
  styles : ∀ style ∈ after.styles.rows,
    style.active = true ↔ ∃ row ∈ rows, row.styleCode = style.code
  skus : ∀ sku ∈ after.skus.rows, sku.active = true ↔ ∃ row ∈ rows, row.sku = sku.code
  epcs : ∀ epc, (∃ binding, after.openBinding epc = some binding) ↔ ∃ row ∈ rows, row.epc = epc
  omittedStyles : ∀ code, (∀ row ∈ rows, row.styleCode ≠ code) →
    after.styles.find? code = (before.styles.find? code).map ProductStyle.deactivate
  omittedSkus : ∀ code, (∀ row ∈ rows, row.sku ≠ code) →
    after.skus.find? code = (before.skus.find? code).map Sku.deactivate
  omittedBindings : ∀ binding ∈ before.bindings, (∀ row ∈ rows, row.epc ≠ binding.epc) →
    (if binding.isOpen then binding.close effectiveAt else binding) ∈ after.bindings

/-- The promotion did what the file says, and nothing else. -/
structure Tables.Exactly (before after : Tables) (promotion : Promotion)
    (rows : List CatalogRowData) : Prop where
  named : after.Carries rows
  delta : promotion.mode = .delta → before.Untouched after rows
  full : promotion.mode = .full → before.OnlyNames after promotion.effectiveAt rows

/-- No stored document of a style or a SKU of the file equals the one of the file in Python without
being the same JSON value. -/
def Tables.Distinguishes (before : Tables) (rows : List CatalogRowData) : Prop :=
  ∀ row ∈ rows,
    Replaceable ((before.styles.find? row.styleCode).map ProductStyle.attributes)
      row.styleAttributes ∧
    Replaceable ((before.skus.find? row.sku).map Sku.attributes) row.attributes

instance (before : Tables) (rows : List CatalogRowData) : Decidable (before.Distinguishes rows) :=
  inferInstanceAs (Decidable (∀ row ∈ rows, _ ∧ _))

end Statement

section Named

variable {runtime : Runtime} {promotion : Promotion} {tables after : Tables}
  {rows : List CatalogRowData} {outcome : Outcome}

/-- Under the code of a row is a style with the name of the row and the document that was stored over
the old one. -/
theorem Promoted.style (promoted : Promoted runtime promotion tables rows outcome after)
    (consistent : Consistent rows) {row : CatalogRowData} (member : row ∈ rows) :
    ∃ style data, after.styles.find? row.styleCode = some style ∧ style.name = row.styleName ∧
      style.active = true ∧
      (Json.object data).dumps = (Json.object row.styleAttributes).dumps ∧
      style.attributes =
        storedOver ((tables.styles.find? row.styleCode).map ProductStyle.attributes) data := by
  obtain ⟨data,listed,same,fresh,-,found⟩ := promoted.pass.named_style promotion member
  obtain ⟨name,texts⟩ := consistent.styles data listed row member same
  rw [promoted.synced.styles]
  rw [written_style] at found
  exact ⟨_,data.styleAttributes,found,name,rfl,texts,rfl⟩

theorem Promoted.sku (promoted : Promoted runtime promotion tables rows outcome after)
    (consistent : Consistent rows) {row : CatalogRowData} (member : row ∈ rows) :
    ∃ sku style data, after.skus.find? row.sku = some sku ∧
      after.styles.find? row.styleCode = some style ∧ sku.productStyleId = style.id ∧
      sku.upc = row.upc ∧ sku.color = row.color ∧ sku.size = row.size ∧ sku.active = true ∧
      (Json.object data).dumps = (Json.object row.attributes).dumps ∧
      sku.attributes = storedOver ((tables.skus.find? row.sku).map Sku.attributes) data := by
  obtain ⟨data,listed,same,style,fresh,target,-,found⟩ := promoted.pass.named_sku promotion member
  obtain ⟨styleCode,upc,color,size,texts⟩ := consistent.skus data listed row member same
  rw [written_sku] at found
  rw [styleCode] at target
  obtain ⟨kept,located,alike⟩ := promoted.synced.sku_after found
  have fields := Sku.alike_of_unlinked alike
  refine ⟨kept,style,data.attributes,located,?_,fields.productStyleId,fields.upc.trans upc,
    fields.color.trans color,fields.size.trans size,fields.active,texts,fields.attributes⟩
  rw [promoted.synced.styles,target]

/-- The open binding of a row is to its SKU. -/
theorem Promoted.binding (promoted : Promoted runtime promotion tables rows outcome after)
    (wellFormed : tables.WellFormed) (keyed : Keyed rows) {row : CatalogRowData}
    (member : row ∈ rows) :
    ∃ sku binding, after.skus.find? row.sku = some sku ∧
      after.openBinding row.epc = some binding ∧ binding.skuId = sku.id := by
  obtain ⟨data,-,-,style,fresh,-,-,found⟩ := promoted.pass.named_sku promotion member
  obtain ⟨kept,located,alike⟩ := promoted.synced.sku_after found
  obtain ⟨⟨binding,listed,isOpen,named⟩,bound⟩ :=
    promoted.pass.open_named promotion wellFormed.oneOpen keyed member found
  have kept' := (promoted.synced.wellFormed promoted.wellFormed).oneOpen
  have current : after.openBinding row.epc = some binding := by
    rw [openBinding_eq_some kept',promoted.synced.bindings]
    exact ⟨listed,isOpen,named⟩
  refine ⟨kept,binding,located,current,?_⟩
  rw [bound binding listed isOpen named,(Sku.alike_of_unlinked alike).id]

theorem Promoted.carries_iff (promoted : Promoted runtime promotion tables rows outcome after)
    (wellFormed : tables.WellFormed) (consistent : Consistent rows) :
    after.Carries rows ↔ tables.Distinguishes rows := by
  constructor
  · intro carries row member
    constructor
    · obtain ⟨style,data,found,-,-,texts,stored⟩ := promoted.style consistent member
      obtain ⟨other,located,has⟩ := carries.styles row member
      rw [found] at located
      cases located
      apply Replaceable.congr texts
      rw [← sameJson_storedOver_iff,← stored]
      exact has.attributes.trans (sameJson_of_dumps texts.symm)
    · obtain ⟨sku,style,data,found,-,-,-,-,-,-,texts,stored⟩ := promoted.sku consistent member
      obtain ⟨other,target,located,-,has⟩ := carries.skus row member
      rw [found] at located
      cases located
      apply Replaceable.congr texts
      rw [← sameJson_storedOver_iff,← stored]
      exact has.attributes.trans (sameJson_of_dumps texts.symm)
  · intro distinguishes
    constructor
    · intro row member
      obtain ⟨style,data,found,name,active,texts,stored⟩ := promoted.style consistent member
      refine ⟨style,found,name,?_,active⟩
      rw [stored]
      exact (sameJson_storedOver_iff.mpr ((distinguishes row member).1.congr texts.symm)).trans
        (sameJson_of_dumps texts)
    · intro row member
      obtain ⟨sku,style,data,found,target,own,upc,color,size,active,texts,stored⟩ :=
        promoted.sku consistent member
      refine ⟨sku,style,found,target,own,upc,color,size,?_,active⟩
      rw [stored]
      exact (sameJson_storedOver_iff.mpr ((distinguishes row member).2.congr texts.symm)).trans
        (sameJson_of_dumps texts)
    · exact fun row member => promoted.binding wellFormed consistent.keyed member

end Named

section Omitted

variable {runtime : Runtime} {promotion : Promotion} {tables after : Tables}
  {rows : List CatalogRowData} {outcome : Outcome}
  (promoted : Promoted runtime promotion tables rows outcome after)

include promoted

theorem Promoted.omittedStyles {code : Text} (unnamed : ∀ row ∈ rows, row.styleCode ≠ code) :
    after.styles.find? code =
      (tables.styles.find? code).map (whenFull promotion ProductStyle.deactivate) := by
  rw [promoted.synced.styles,promoted.pass.find?_after_styles,if_neg]
  exact fun named => named.elim fun row listed => unnamed row listed.1 listed.2

theorem Promoted.omittedSkus {code : Text} (unnamed : ∀ row ∈ rows, row.sku ≠ code) :
    after.skus.find? code = (tables.skus.find? code).map (whenFull promotion Sku.deactivate) := by
  rw [promoted.synced.omittedSkus code unnamed,promoted.pass.find?_after_skus,if_neg]
  exact fun named => named.elim fun row listed => unnamed row listed.1 listed.2

theorem Promoted.untouched (delta : promotion.mode = .delta) : tables.Untouched after rows := by
  have notFull : promotion.mode ≠ .full := by simp [delta]
  constructor
  · intro code unnamed
    rw [promoted.omittedStyles unnamed,whenFull_of_delta notFull,Option.map_id,id]
  · intro code unnamed
    rw [promoted.omittedSkus unnamed,whenFull_of_delta notFull,Option.map_id,id]
  · intro binding isOpen unnamed
    have kept := promoted.pass.open_unnamed promotion unnamed binding
    rw [promoted.synced.bindings]
    simpa [isOpen,notFull] using kept

/-- A FULL import closes the open bindings that it omits. -/
theorem Promoted.omittedBindings (full : promotion.mode = .full) {binding : EpcBinding}
    (stored : binding ∈ tables.bindings) (unnamed : ∀ row ∈ rows, row.epc ≠ binding.epc) :
    (if binding.isOpen then binding.close promotion.effectiveAt else binding) ∈ after.bindings := by
  have omitted : (entityData rows).epcs.contains binding.epc = false := by
    rw [Pass.contains_epcs_eq,decide_eq_false_iff_not]
    exact fun named => named.elim fun row listed => unnamed row listed.1 listed.2
  rw [promoted.synced.bindings,promoted.pass.after_bindings]
  apply List.mem_append_left
  refine List.mem_map.mpr ⟨binding,stored,?_⟩
  rw [Pass.finish]
  cases isOpen : binding.isOpen with
  | true => simp [Pass.finishes,full,omitted,isOpen]
  | false =>
      have stays : promoted.pass.finishes promotion binding = false := by
        simp [Pass.finishes,ends,isOpen]
      simp [stays]

theorem Promoted.onlyNames (wellFormed : tables.WellFormed) (consistent : Consistent rows)
    (full : promotion.mode = .full) : tables.OnlyNames after promotion.effectiveAt rows := by
  constructor
  · intro style stored
    have found := Table.find?_of_mem stored
    constructor
    · intro active
      by_contra unnamed
      rw [promoted.omittedStyles fun row member same => unnamed ⟨row,member,same⟩,
        whenFull_of_full full] at found
      obtain ⟨old,-,same⟩ := Option.map_eq_some_iff.mp found
      rw [← same] at active
      cases active
    · rintro ⟨row,member,same⟩
      obtain ⟨named,-,located,-,active,-,-⟩ := promoted.style consistent member
      rw [same,found] at located
      cases located
      exact active
  · intro sku stored
    have found := Table.find?_of_mem stored
    constructor
    · intro active
      by_contra unnamed
      rw [promoted.omittedSkus fun row member same => unnamed ⟨row,member,same⟩,
        whenFull_of_full full] at found
      obtain ⟨old,-,same⟩ := Option.map_eq_some_iff.mp found
      rw [← same] at active
      cases active
    · rintro ⟨row,member,same⟩
      obtain ⟨named,-,-,located,-,-,-,-,-,active,-,-⟩ := promoted.sku consistent member
      rw [same,found] at located
      cases located
      exact active
  · intro epc
    constructor
    · rintro ⟨binding,current⟩
      by_contra unnamed
      obtain ⟨listed,isOpen,keyed⟩ := (openBinding_eq_some
        (promoted.synced.wellFormed promoted.wellFormed).oneOpen).mp current
      rw [promoted.synced.bindings] at listed
      have kept := (promoted.pass.open_unnamed promotion
        (fun row member same => unnamed ⟨row,member,same⟩) binding).mp ⟨listed,isOpen,keyed⟩
      exact kept.1 full
    · rintro ⟨row,member,rfl⟩
      obtain ⟨-,binding,-,current,-⟩ := promoted.binding wellFormed consistent.keyed member
      exact ⟨binding,current⟩
  · intro code unnamed
    rw [promoted.omittedStyles unnamed,whenFull_of_full full]
  · intro code unnamed
    rw [promoted.omittedSkus unnamed,whenFull_of_full full]
  · exact fun binding stored unnamed => promoted.omittedBindings full stored unnamed

end Omitted

/-- A promotion that gets through does exactly what its file says if and only if the documents of the
file differ in Python from the stored ones that they differ from. -/
theorem promotion_exact_iff (runtime : Runtime) (promotion : Promotion) (tables : Tables)
    (rows : List CatalogRowData) (outcome : Outcome) (after : Tables)
    (wellFormed : tables.WellFormed) (consistent : Consistent rows)
    (promoted : promoteRows runtime tables promotion rows = .ok (outcome,after)) :
    tables.Exactly after promotion rows ↔ tables.Distinguishes rows := by
  obtain ⟨through⟩ := promoted_of_ok wellFormed consistent.keyed promoted
  rw [← through.carries_iff wellFormed consistent]
  constructor
  · exact fun exact_ => exact_.named
  · exact fun carries => ⟨carries,through.untouched,through.onlyNames wellFormed consistent⟩

namespace Sample

theorem shirt_consistent (styleAttributes : JsonObject) : Consistent (shirt styleAttributes) := by
  apply consistent_of_agrees
  unfold shirt
  cases (modelValidate runtime _).toOption with
  | none => exact .nil
  | some row => exact List.pairwise_singleton _ row

theorem reached_of_isSome {promoted : Except PromotionError (Outcome × Tables)}
    (through : promoted.toOption.isSome = true) :
    ∃ outcome, promoted = .ok (outcome,reached promoted) := by
  cases promoted with
  | error error => cases through
  | ok result => exact ⟨result.1,rfl⟩

theorem stocked_wellFormed : stocked.WellFormed := by
  have through : (promoteRows runtime {} ⟨1,.full,5⟩ (shirt (organic one))).toOption.isSome = true := by
    decide +kernel
  obtain ⟨outcome,promoted⟩ := reached_of_isSome through
  obtain ⟨passed⟩ := promoted_of_ok Tables.WellFormed.empty (shirt_consistent _).keyed promoted
  exact passed.synced.wellFormed passed.wellFormed

end Sample

theorem promotion_exact_iff_sample : ∃ outcome after,
    promoteRows Sample.runtime Sample.stocked ⟨2,.delta,6⟩ (Sample.shirt []) = .ok (outcome,after) ∧
      Sample.stocked.Exactly after ⟨2,.delta,6⟩ (Sample.shirt []) := by
  have through : (promoteRows Sample.runtime Sample.stocked ⟨2,.delta,6⟩
      (Sample.shirt [])).toOption.isSome = true := by decide +kernel
  obtain ⟨outcome,promoted⟩ := Sample.reached_of_isSome through
  refine ⟨outcome,_,promoted,(promotion_exact_iff Sample.runtime ⟨2,.delta,6⟩ Sample.stocked
    (Sample.shirt []) outcome _ Sample.stocked_wellFormed (Sample.shirt_consistent _) promoted).mpr ?_⟩
  decide +kernel

/-- The file sets an attribute to true where the catalog has the number one: the promotion gets through
and leaves the number. -/
theorem truth_promoted_as_number : Sample.stocked.WellFormed ∧
    Consistent (Sample.shirt (Sample.organic Sample.truth)) ∧
    ∃ outcome after,
      promoteRows Sample.runtime Sample.stocked ⟨2,.full,6⟩
        (Sample.shirt (Sample.organic Sample.truth)) = .ok (outcome,after) ∧
      ¬Sample.stocked.Exactly after ⟨2,.full,6⟩ (Sample.shirt (Sample.organic Sample.truth)) := by
  refine ⟨Sample.stocked_wellFormed,Sample.shirt_consistent _,?_⟩
  have through : (promoteRows Sample.runtime Sample.stocked ⟨2,.full,6⟩
      (Sample.shirt (Sample.organic Sample.truth))).toOption.isSome = true := by decide +kernel
  obtain ⟨outcome,promoted⟩ := Sample.reached_of_isSome through
  refine ⟨outcome,_,promoted,?_⟩
  intro held
  have kept : ((Sample.shirt (Sample.organic Sample.truth)).any fun row =>
      ((Sample.reached (promoteRows Sample.runtime Sample.stocked ⟨2,.full,6⟩
        (Sample.shirt (Sample.organic Sample.truth)))).styles.find? row.styleCode).any fun style =>
          !decide (sameJson style.attributes row.styleAttributes)) = true := by decide +kernel
  obtain ⟨row,member,other⟩ := List.any_eq_true.mp kept
  obtain ⟨style,found,has⟩ := held.named.styles row member
  rw [found,Option.any_some] at other
  simp [has.attributes] at other

end Abacus.Catalog
