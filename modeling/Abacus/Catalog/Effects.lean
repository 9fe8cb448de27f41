import Abacus.Catalog.Promotion

/-! What the first pass leaves behind.
Named entities are written by the file, unnamed ones are left alone or deactivated, and an
EPC of the file has one open binding, which is to its SKU.
-/
set_option autoImplicit false

namespace Abacus.Catalog

open Relational (Table OrderedDict Identified Upsert attachAll)
open Python (Text text Json JsonObject)

section Open

variable {tables : Tables}

/-- The open binding of an EPC is the only one. -/
theorem openBinding_eq_some
    (oneOpen : ((tables.bindings.filter EpcBinding.isOpen).map EpcBinding.epc).Nodup)
    {epc : Text} {binding : EpcBinding} :
    tables.openBinding epc = some binding ↔
      binding ∈ tables.bindings ∧ binding.isOpen = true ∧ binding.epc = epc := by
  have located : ∀ {found : EpcBinding}, tables.openBinding epc = some found →
      found ∈ tables.bindings ∧ found.isOpen = true ∧ found.epc = epc := by
    intro found opened
    have chosen := List.find?_some opened
    simp only [Bool.and_eq_true,decide_eq_true_eq] at chosen
    exact ⟨List.mem_of_find?_eq_some opened,chosen.2,chosen.1⟩
  constructor
  · exact located
  · rintro ⟨member,isOpen,same⟩
    cases opened : tables.openBinding epc with
    | none =>
        have absent := List.find?_eq_none.mp opened binding member
        simp [isOpen,same] at absent
    | some found =>
        obtain ⟨stored,foundOpen,keyed⟩ := located opened
        have equal : found = binding := List.inj_on_of_nodup_map oneOpen
          (List.mem_filter.mpr ⟨stored,foundOpen⟩) (List.mem_filter.mpr ⟨member,isOpen⟩)
          (keyed.trans same.symm)
        rw [equal]

end Open

namespace Pass

variable {tables : Tables} {rows : List CatalogRowData} (pass : Pass tables rows)
  (promotion : Promotion)

section Frames

@[simp] theorem after_products : (pass.after promotion).products = tables.products := by
  unfold after
  split <;> rfl

@[simp] theorem after_variants : (pass.after promotion).variants = tables.variants := by
  unfold after
  split <;> rfl

@[simp] theorem after_tags : (pass.after promotion).tags = tables.tags := by
  unfold after
  split <;> rfl

theorem after_nextId : (pass.after promotion).nextId = (pass.written promotion).nextId := by
  unfold after
  split <;> rfl

theorem nextId_le : tables.nextId ≤ (pass.after promotion).nextId := by
  rw [after_nextId]
  have styles : tables.nextId ≤ (stylePass tables rows).2.1 :=
    styleUpsert.next_all tables.styles tables.nextId _
  exact styles.trans (skuUpsert.next_all tables.skus _ pass.skuEntries)

end Frames

section Omitted

/-- What becomes of an entity that the file does not name. -/
def whenFull {Row : Type} (promotion : Promotion) (deactivate : Row → Row) (row : Row) : Row :=
  if promotion.mode = .full then deactivate row else row

theorem whenFull_of_full {Row : Type} {promotion : Promotion} (full : promotion.mode = .full)
    (deactivate : Row → Row) : whenFull promotion deactivate = deactivate := by
  funext row
  rw [whenFull,if_pos full]

theorem whenFull_of_delta {Row : Type} {promotion : Promotion} (delta : promotion.mode ≠ .full)
    (deactivate : Row → Row) : whenFull promotion deactivate = id := by
  funext row
  rw [whenFull,if_neg delta]
  rfl

theorem deactivate_inactive_style (style : ProductStyle) (inactive : style.active = false) :
    style.deactivate = style := by
  cases style
  simp_all [ProductStyle.deactivate]

theorem deactivate_inactive_sku (sku : Sku) (inactive : sku.active = false) :
    sku.deactivate = sku := by
  cases sku
  simp_all [Sku.deactivate]

theorem contains_styles_eq (code : Text) : (entityData rows).styles.contains code =
    decide (∃ row ∈ rows, row.styleCode = code) := by
  rw [Bool.eq_iff_iff,contains_styles,decide_eq_true_eq]

theorem contains_skus_eq (code : Text) : (entityData rows).skus.contains code =
    decide (∃ row ∈ rows, row.sku = code) := by
  rw [Bool.eq_iff_iff,contains_skus,decide_eq_true_eq]

theorem contains_epcs_eq (epc : Text) : (entityData rows).epcs.contains epc =
    decide (∃ row ∈ rows, row.epc = epc) := by
  rw [Bool.eq_iff_iff,contains_epcs,decide_eq_true_eq]

theorem find?_after_styles (code : Text) : (pass.after promotion).styles.find? code =
    if ∃ row ∈ rows, row.styleCode = code then (stylePass tables rows).1.find? code
    else (tables.styles.find? code).map (whenFull promotion ProductStyle.deactivate) := by
  have left : ¬(∃ row ∈ rows, row.styleCode = code) →
      (stylePass tables rows).1.find? code = tables.styles.find? code :=
    fun unnamed => style_unnamed tables fun row member same => unnamed ⟨row,member,same⟩
  by_cases full : promotion.mode = .full
  · rw [after,if_pos full,deactivateOmitted]
    dsimp only
    rw [Table.find?_updateWhere_except _ _ _ _ _ deactivate_inactive_style,contains_styles_eq]
    by_cases named : ∃ row ∈ rows, row.styleCode = code
    · simp [named,written]
    · simp [named,written,left named,whenFull_of_full full]
  · rw [after,if_neg full,written]
    by_cases named : ∃ row ∈ rows, row.styleCode = code
    · rw [if_pos named]
    · rw [if_neg named,left named,whenFull_of_delta full,Option.map_id_fun,id]

theorem find?_after_skus (code : Text) : (pass.after promotion).skus.find? code =
    if ∃ row ∈ rows, row.sku = code then (skuPass tables rows pass.skuEntries).1.find? code
    else (tables.skus.find? code).map (whenFull promotion Sku.deactivate) := by
  have left : ¬(∃ row ∈ rows, row.sku = code) →
      (skuPass tables rows pass.skuEntries).1.find? code = tables.skus.find? code :=
    fun unnamed => pass.sku_unnamed fun row member same => unnamed ⟨row,member,same⟩
  by_cases full : promotion.mode = .full
  · rw [after,if_pos full,deactivateOmitted]
    dsimp only
    rw [Table.find?_updateWhere_except _ _ _ _ _ deactivate_inactive_sku,contains_skus_eq]
    by_cases named : ∃ row ∈ rows, row.sku = code
    · simp [named,written]
    · simp [named,written,left named,whenFull_of_full full]
  · rw [after,if_neg full,written]
    by_cases named : ∃ row ∈ rows, row.sku = code
    · rw [if_pos named]
    · rw [if_neg named,left named,whenFull_of_delta full,Option.map_id_fun,id]

end Omitted

section Bindings

def finishes (binding : EpcBinding) : Bool :=
  ends tables.openBinding pass.epcEntries binding ||
    (promotion.mode = .full && !(entityData rows).epcs.contains binding.epc && binding.isOpen)

def finish (binding : EpcBinding) : EpcBinding :=
  if pass.finishes promotion binding then binding.close promotion.effectiveAt else binding

theorem opened_named {binding : EpcBinding}
    (member : binding ∈ opened promotion tables.openBinding pass.epcEntries) :
    (entityData rows).epcs.contains binding.epc = true := by
  obtain ⟨entry,listed,rfl⟩ := List.mem_map.mp member
  have attached := (List.mem_filter.mp listed).1
  have entered := (Relational.of_mem_attachAll pass.epcsAttached attached).1
  exact (OrderedDict.contains_iff _ _).mpr ⟨_,entered⟩

theorem opened_isOpen : ∀ binding ∈ opened promotion tables.openBinding pass.epcEntries,
    binding.isOpen = true := by
  intro binding member
  obtain ⟨entry,-,rfl⟩ := List.mem_map.mp member
  rfl

theorem opened_from : ∀ binding ∈ opened promotion tables.openBinding pass.epcEntries,
    binding.effectiveFrom = promotion.effectiveAt := by
  intro binding member
  obtain ⟨entry,-,rfl⟩ := List.mem_map.mp member
  rfl

theorem after_bindings : (pass.after promotion).bindings =
    tables.bindings.map (pass.finish promotion) ++
      opened promotion tables.openBinding pass.epcEntries := by
  by_cases full : promotion.mode = .full
  · rw [after,if_pos full,deactivateOmitted]
    dsimp only
    rw [written,List.map_append,List.map_map]
    congr 1
    · apply List.map_congr_left
      intro binding _
      rw [Function.comp_apply,rebound,finish,finishes]
      cases ended : ends tables.openBinding pass.epcEntries binding with
      | true => simp [EpcBinding.isOpen,EpcBinding.close]
      | false => simp [full]
    · rw [List.map_congr_left (g := id),List.map_id]
      intro binding member
      rw [if_neg]
      · rfl
      · simp [pass.opened_named promotion member]
  · rw [after,if_neg full,written]
    dsimp only
    congr 1
    apply List.map_congr_left
    intro binding _
    simp [rebound,finish,finishes,full]

theorem finish_isOpen (binding : EpcBinding) : (pass.finish promotion binding).isOpen =
    (binding.isOpen && !pass.finishes promotion binding) := by
  unfold finish
  split
  · rename_i closes
    simp [closes,EpcBinding.isOpen,EpcBinding.close]
  · rename_i stays
    simp [stays]

theorem finish_of_open {binding : EpcBinding}
    (isOpen : (pass.finish promotion binding).isOpen = true) :
    pass.finish promotion binding = binding ∧ binding.isOpen = true ∧
      pass.finishes promotion binding = false := by
  rw [finish_isOpen,Bool.and_eq_true,Bool.not_eq_true'] at isOpen
  exact ⟨by rw [finish,isOpen.2]; rfl,isOpen.1,isOpen.2⟩

/-- A row with its entry in the EPC loop. -/
theorem epc_attached (keyed : Keyed rows) {row : CatalogRowData} (member : row ∈ rows) :
    ∃ sku, (row.epc,row,sku) ∈ pass.epcEntries ∧
      (pass.after promotion).skus.find? row.sku = some sku := by
  obtain ⟨sku,attached,found⟩ :=
    Relational.mem_attachAll pass.epcsAttached (epc_entry keyed member)
  refine ⟨sku,attached,?_⟩
  rw [find?_after_skus,if_pos ⟨row,member,rfl⟩]
  exact found

theorem of_mem_epcEntries {epc : Text} {row : CatalogRowData} {sku : Sku}
    (attached : (epc,row,sku) ∈ pass.epcEntries) :
    row ∈ rows ∧ row.epc = epc ∧ (pass.after promotion).skus.find? row.sku = some sku := by
  obtain ⟨entered,found⟩ := Relational.of_mem_attachAll pass.epcsAttached attached
  obtain ⟨member,same⟩ := of_mem_epcs entered
  refine ⟨member,same,?_⟩
  rw [find?_after_skus,if_pos ⟨row,member,rfl⟩]
  exact found

variable (oneOpen : ((tables.bindings.filter EpcBinding.isOpen).map EpcBinding.epc).Nodup)

include oneOpen

/-- The open bindings of an EPC of the file are to the SKU of its row. -/
theorem open_named (keyed : Keyed rows) {row : CatalogRowData} (member : row ∈ rows)
    {sku : Sku} (found : (pass.after promotion).skus.find? row.sku = some sku) :
    (∃ binding ∈ (pass.after promotion).bindings, binding.isOpen = true ∧ binding.epc = row.epc) ∧
      ∀ binding ∈ (pass.after promotion).bindings, binding.isOpen = true →
        binding.epc = row.epc → binding.skuId = sku.id := by
  obtain ⟨other,attached,same⟩ := pass.epc_attached promotion keyed member
  rw [found] at same
  cases same
  have supplied : (entityData rows).epcs.contains row.epc = true :=
    contains_epcs.mpr ⟨row,member,rfl⟩
  rw [after_bindings]
  constructor
  · by_cases opens : (tables.openBinding row.epc).isNone || rebinds tables.openBinding (row.epc,row,sku)
    · refine ⟨newBinding promotion row.epc sku,List.mem_append_right _ ?_,rfl,rfl⟩
      exact List.mem_map.mpr ⟨_,List.mem_filter.mpr ⟨attached,opens⟩,rfl⟩
    · simp only [Bool.or_eq_true,not_or,Bool.not_eq_true] at opens
      cases current : tables.openBinding row.epc with
      | none => simp [current] at opens
      | some binding =>
          obtain ⟨stored,isOpen,keyed⟩ := (openBinding_eq_some oneOpen).mp current
          have stays : pass.finishes promotion binding = false := by
            have unended : ends tables.openBinding pass.epcEntries binding = false := by
              rw [ends,isOpen,Bool.true_and,List.any_eq_false]
              intro entry listed
              by_cases own : entry.1 = binding.epc
              · have only : entry = (row.epc,row,sku) :=
                  List.inj_on_of_nodup_map pass.epcs_distinct listed attached (own.trans keyed)
                rw [only,opens.2]
                simp
              · simp [own]
            simp [finishes,unended,keyed,supplied]
          refine ⟨binding,List.mem_append_left _ (List.mem_map.mpr ⟨binding,stored,?_⟩),isOpen,keyed⟩
          rw [finish,stays]
          rfl
  · intro binding listed isOpen keyed
    rcases List.mem_append.mp listed with old | new
    · obtain ⟨before,stored,rfl⟩ := List.mem_map.mp old
      obtain ⟨same,wasOpen,stays⟩ := pass.finish_of_open promotion isOpen
      rw [same] at keyed ⊢
      have current := (openBinding_eq_some oneOpen).mpr ⟨stored,wasOpen,keyed⟩
      rw [finishes,Bool.or_eq_false_iff,ends,wasOpen,Bool.true_and,List.any_eq_false] at stays
      have steady := stays.1 _ attached
      simpa [keyed,rebinds,current] using steady
    · obtain ⟨⟨epc,data,owner⟩,chosen,rfl⟩ := List.mem_map.mp new
      have same : (epc,data,owner) = (row.epc,row,sku) := List.inj_on_of_nodup_map
        pass.epcs_distinct (List.mem_filter.mp chosen).1 attached keyed
      cases same
      rfl

omit oneOpen in
/-- The open bindings of the other EPCs stay as they are, or are all closed. -/
theorem open_unnamed {epc : Text} (unnamed : ∀ row ∈ rows, row.epc ≠ epc) (binding : EpcBinding) :
    (binding ∈ (pass.after promotion).bindings ∧ binding.isOpen = true ∧ binding.epc = epc) ↔
      promotion.mode ≠ .full ∧ binding ∈ tables.bindings ∧ binding.isOpen = true ∧
        binding.epc = epc := by
  have omitted : (entityData rows).epcs.contains epc = false := by
    rw [contains_epcs_eq,decide_eq_false_iff_not]
    rintro ⟨row,member,same⟩
    exact unnamed row member same
  rw [after_bindings]
  constructor
  · rintro ⟨listed,isOpen,keyed⟩
    rcases List.mem_append.mp listed with old | new
    · obtain ⟨before,stored,rfl⟩ := List.mem_map.mp old
      obtain ⟨same,wasOpen,stays⟩ := pass.finish_of_open promotion isOpen
      rw [same] at keyed ⊢
      refine ⟨?_,stored,wasOpen,keyed⟩
      intro full
      simp [finishes,full,keyed,omitted,wasOpen] at stays
    · have supplied := pass.opened_named promotion new
      rw [keyed,omitted] at supplied
      cases supplied
  · rintro ⟨delta,stored,isOpen,keyed⟩
    refine ⟨List.mem_append_left _ (List.mem_map.mpr ⟨binding,stored,?_⟩),isOpen,keyed⟩
    have unended : ends tables.openBinding pass.epcEntries binding = false := by
      rw [ends,isOpen,Bool.true_and,List.any_eq_false]
      rintro ⟨other,row,sku⟩ listed
      obtain ⟨member,same,-⟩ := pass.of_mem_epcEntries promotion listed
      have apart : other ≠ binding.epc := by
        rw [keyed,← same]
        exact unnamed row member
      simp [apart]
    simp [finish,finishes,unended,delta]

/-- There is still at most one open binding of an EPC. -/
theorem oneOpen_after : (((pass.after promotion).bindings.filter EpcBinding.isOpen).map
    EpcBinding.epc).Nodup := by
  rw [after_bindings,List.filter_append,List.map_append,List.nodup_append]
  have kept : ((tables.bindings.map (pass.finish promotion)).filter EpcBinding.isOpen).map
      EpcBinding.epc = (tables.bindings.filter fun binding =>
        binding.isOpen && !pass.finishes promotion binding).map EpcBinding.epc := by
    rw [List.filter_map,List.map_map]
    have selects : EpcBinding.isOpen ∘ pass.finish promotion = fun binding =>
        binding.isOpen && !pass.finishes promotion binding :=
      funext (pass.finish_isOpen promotion)
    rw [selects]
    apply List.map_congr_left
    intro binding _
    unfold Function.comp finish
    split <;> rfl
  rw [kept,List.filter_eq_self.mpr (pass.opened_isOpen promotion)]
  refine ⟨?_,?_,?_⟩
  · refine oneOpen.sublist (List.Sublist.map _ (List.monotone_filter_right _ ?_))
    intro binding chosen
    exact (Bool.and_eq_true_iff.mp chosen).1
  · have keys : (opened promotion tables.openBinding pass.epcEntries).map EpcBinding.epc =
        (pass.epcEntries.filter fun entry => (tables.openBinding entry.1).isNone ||
          rebinds tables.openBinding entry).map Prod.fst := by
      simp [opened,Function.comp_def,newBinding]
    rw [keys]
    exact pass.epcs_distinct.sublist (List.filter_sublist.map _)
  · intro epc old other new
    rintro rfl
    obtain ⟨binding,chosen,rfl⟩ := List.mem_map.mp old
    obtain ⟨fresh,member,same⟩ := List.mem_map.mp new
    obtain ⟨entry,listed,rfl⟩ := List.mem_map.mp member
    obtain ⟨attached,opensNew⟩ := List.mem_filter.mp listed
    obtain ⟨stored,stays⟩ := List.mem_filter.mp chosen
    rw [Bool.and_eq_true,Bool.not_eq_true'] at stays
    have keyed : entry.1 = binding.epc := same
    have current := (openBinding_eq_some oneOpen).mpr ⟨stored,stays.1,rfl⟩
    rw [keyed,current,Option.isNone_some,Bool.false_or] at opensNew
    have ended : ends tables.openBinding pass.epcEntries binding = true := by
      rw [ends,stays.1,Bool.true_and,List.any_eq_true]
      exact ⟨entry,attached,by simp [keyed,opensNew]⟩
    simp [finishes,ended] at stays

end Bindings

end Pass

section Named

/-- What a column holds after a document was inserted into it, or assigned over an old one. -/
def storedOver (old : Option JsonObject) (assigned : JsonObject) : JsonObject :=
  old.elim assigned fun loaded => assign loaded assigned

theorem same_storedOver (old : Option JsonObject) (assigned : JsonObject) :
    same (storedOver old assigned) assigned := by
  cases old with
  | none => rfl
  | some loaded =>
      rw [storedOver,Option.elim_some,assign]
      split
      · assumption
      · rfl

theorem same_of_dumps {left right : JsonObject}
    (texts : (Json.object left).dumps = (Json.object right).dumps) : same left right :=
  Json.asPython_of_dumps texts

theorem same.trans {first second third : JsonObject} (left : same first second)
    (right : same second third) : same first third := Eq.trans left right

/-- The style that a row is written to. -/
theorem written_style (t : Table ProductStyle.code) (fresh : Uuid) (code : Text)
    (data : CatalogRowData) :
    styleUpsert.written t fresh code data =
      { id := ((t.find? code).map ProductStyle.id).getD fresh
        code := code
        name := data.styleName
        attributes := storedOver ((t.find? code).map ProductStyle.attributes) data.styleAttributes
        active := true } := by
  cases found : t.find? code with
  | none => exact styleUpsert.written_of_absent found fresh data
  | some old =>
      rw [styleUpsert.written_of_found found]
      have keyed : old.code = code := Table.key_of_find? found
      subst keyed
      exact reviseStyle_eq data old

/-- The SKU that a row is written to. -/
theorem written_sku (t : Table Sku.code) (fresh : Uuid) (code : Text) (data : CatalogRowData)
    (style : ProductStyle) :
    skuUpsert.written t fresh code (data,style) =
      { id := ((t.find? code).map Sku.id).getD fresh
        productStyleId := style.id
        productVariantId := (t.find? code).bind Sku.productVariantId
        code := code
        upc := data.upc
        color := data.color
        size := data.size
        attributes := storedOver ((t.find? code).map Sku.attributes) data.attributes
        active := true } := by
  cases found : t.find? code with
  | none => exact skuUpsert.written_of_absent found fresh (data,style)
  | some old =>
      rw [skuUpsert.written_of_found found]
      have keyed : old.code = code := Table.key_of_find? found
      subst keyed
      exact reviseSku_eq (data,style) old

namespace Pass

variable {tables : Tables} {rows : List CatalogRowData} (pass : Pass tables rows)
  (promotion : Promotion)

/-- Under the code of a row of the file is the style of the first row that names it. -/
theorem named_style {row : CatalogRowData} (member : row ∈ rows) :
    ∃ data ∈ rows, data.styleCode = row.styleCode ∧ ∃ fresh, tables.nextId ≤ fresh ∧
      (pass.after promotion).styles.find? row.styleCode =
        some (styleUpsert.written tables.styles fresh row.styleCode data) := by
  obtain ⟨data,fresh,listed,same,later,found⟩ := style_named tables member
  refine ⟨data,listed,same,fresh,later,?_⟩
  rw [find?_after_styles,if_pos ⟨row,member,rfl⟩,found]

/-- Under the SKU of a row of the file is the SKU of the first row that names it, in the style of
that row. -/
theorem named_sku {row : CatalogRowData} (member : row ∈ rows) :
    ∃ data ∈ rows, data.sku = row.sku ∧ ∃ style fresh,
      (pass.after promotion).styles.find? data.styleCode = some style ∧ tables.nextId ≤ fresh ∧
      (pass.after promotion).skus.find? row.sku =
        some (skuUpsert.written tables.skus fresh row.sku (data,style)) := by
  obtain ⟨data,style,fresh,listed,same,target,later,found⟩ := pass.sku_named member
  refine ⟨data,listed,same,style,fresh,?_,later,?_⟩
  · rw [find?_after_styles,if_pos ⟨data,listed,rfl⟩,target]
  · rw [find?_after_skus,if_pos ⟨row,member,rfl⟩,found]

/-- A style keeps its id, named or not. -/
theorem style_after {code : Text} {style : ProductStyle}
    (found : tables.styles.find? code = some style) :
    ∃ after, (pass.after promotion).styles.find? code = some after ∧ after.id = style.id := by
  rw [find?_after_styles]
  split
  · exact style_kept found
  · refine ⟨_,by rw [found]; rfl,?_⟩
    unfold whenFull
    split <;> rfl

theorem sku_after {code : Text} {sku : Sku} (found : tables.skus.find? code = some sku) :
    ∃ after, (pass.after promotion).skus.find? code = some after ∧ after.id = sku.id := by
  rw [find?_after_skus]
  split
  · exact pass.sku_kept found
  · refine ⟨_,by rw [found]; rfl,?_⟩
    unfold whenFull
    split <;> rfl

theorem styleIds_after (identified : Identified ProductStyle.id tables.styles tables.nextId) :
    Identified ProductStyle.id (pass.after promotion).styles (pass.after promotion).nextId := by
  have written : Identified ProductStyle.id (stylePass tables rows).1 (pass.written promotion).nextId :=
    (identified.all styleUpsert _).mono (skuUpsert.next_all tables.skus _ pass.skuEntries)
  rw [after_nextId,after]
  split
  · exact written.updateWhere _ _ ProductStyle.deactivate_code fun _ => rfl
  · exact written

theorem skuIds_after (identified : Identified Sku.id tables.skus tables.nextId) :
    Identified Sku.id (pass.after promotion).skus (pass.after promotion).nextId := by
  have written : Identified Sku.id (skuPass tables rows pass.skuEntries).1
      (pass.written promotion).nextId :=
    (identified.mono (styleUpsert.next_all tables.styles tables.nextId _)).all skuUpsert _
  rw [after_nextId,after]
  split
  · exact written.updateWhere _ _ Sku.deactivate_code fun _ => rfl
  · exact written

end Pass

end Named

section Conflicts

variable {tables : Tables} {rows : List CatalogRowData}

/-- A SKU of the file without a conflict owns its UPC, if any SKU does. -/
theorem owner_of_free (upcs : ∀ sku ∈ tables.skus.rows, ∀ other ∈ tables.skus.rows,
      sku.upc = other.upc → sku = other) {code : Text} {data : CatalogRowData}
    (free : promotionConflict tables code data = none) {owner : Sku}
    (stored : owner ∈ tables.skus.rows) (owns : owner.upc = data.upc) : owner.code = code := by
  have found : tables.skuByUpc data.upc = some owner := by
    cases found : tables.skuByUpc data.upc with
    | none =>
        have absent := List.find?_eq_none.mp found owner stored
        simp [owns] at absent
    | some other =>
        have same : other.upc = data.upc := by simpa using List.find?_some found
        rw [upcs other (List.mem_of_find?_eq_some found) owner stored (same.trans owns.symm)]
  by_contra foreign
  rw [promotionConflict,found,Option.filter_some,if_pos (decide_eq_true foreign)] at free
  cases free

/-- A stored SKU of the file without a conflict is in the style that the file gives it. -/
theorem style_of_free (wellFormed : tables.WellFormed) {code : Text} {data : CatalogRowData}
    (free : promotionConflict tables code data = none) {sku : Sku}
    (found : tables.skus.find? code = some sku) :
    ∃ style, tables.styles.find? data.styleCode = some style ∧ sku.productStyleId = style.id := by
  obtain ⟨style,stored,own⟩ := wellFormed.skuStyle sku (Table.mem_of_find? found)
  have byId : tables.styleById sku.productStyleId = some style := by
    rw [← own]
    exact wellFormed.styleIds.find?_id stored
  have sameCode : style.code = data.styleCode := by
    by_contra moved
    unfold promotionConflict at free
    split at free
    · cases free
    · rw [found,Option.bind_some,byId] at free
      dsimp only at free
      rw [if_pos moved] at free
      cases free
  refine ⟨style,?_,own.symm⟩
  rw [← sameCode]
  exact Table.find?_of_mem stored

theorem free_of_none (keyed : Keyed rows) (free : firstConflict tables rows = none) :
    ConflictFree tables rows := by
  intro row member
  obtain ⟨data,listed⟩ : ∃ data, (row.sku,data) ∈ (entityData rows).skus.rows :=
    OrderedDict.exists_firstOf member
  obtain ⟨stored,named⟩ := of_mem_skus listed
  obtain ⟨styleCode,upc,-,-⟩ := keyed.skus data stored row member named
  have first := List.findSome?_eq_none_iff.mp free _ listed
  unfold promotionConflict at first ⊢
  rw [← styleCode,← upc]
  exact first

end Conflicts

namespace Pass

variable {tables : Tables} {rows : List CatalogRowData} (pass : Pass tables rows)
  (promotion : Promotion)

/-- A SKU after the promotion is one of the file with the UPC of its row, or one that the file
omits with the UPC it had. -/
theorem upc_after {sku : Sku} (stored : sku ∈ (pass.after promotion).skus.rows) :
    (∃ row ∈ rows, row.sku = sku.code ∧ sku.upc = row.upc) ∨
      (∀ row ∈ rows, row.sku ≠ sku.code) ∧
        ∃ old ∈ tables.skus.rows, old.code = sku.code ∧ old.upc = sku.upc := by
  have found := Table.find?_of_mem stored
  by_cases named : ∃ row ∈ rows, row.sku = sku.code
  · obtain ⟨row,member,same⟩ := named
    obtain ⟨data,listed,keyed,style,fresh,-,-,written⟩ := pass.named_sku promotion member
    rw [same,found,written_sku] at written
    have upc := congrArg Sku.upc (Option.some.inj written)
    exact .inl ⟨data,listed,keyed.trans same,upc⟩
  · refine .inr ⟨fun row member same => named ⟨row,member,same⟩,?_⟩
    rw [find?_after_skus,if_neg named] at found
    obtain ⟨old,before,after⟩ := Option.map_eq_some_iff.mp found
    refine ⟨old,Table.mem_of_find? before,Table.key_of_find? before,?_⟩
    rw [← after]
    unfold whenFull
    split <;> rfl

theorem upcs_after (wellFormed : tables.WellFormed) (keyed : Keyed rows)
    (free : ConflictFree tables rows) : ∀ sku ∈ (pass.after promotion).skus.rows,
      ∀ other ∈ (pass.after promotion).skus.rows, sku.upc = other.upc → sku = other := by
  have apart : ∀ {row : CatalogRowData} {sku old : Sku}, row ∈ rows →
      (∀ row ∈ rows, row.sku ≠ sku.code) → old ∈ tables.skus.rows → old.code = sku.code →
      old.upc ≠ row.upc := by
    intro row sku old member unnamed stored code upc
    have owner := owner_of_free wellFormed.upcs (free row member) stored upc
    exact unnamed row member (owner.symm.trans code)
  intro sku stored other place same
  have sameCode : sku.code = other.code := by
    rcases pass.upc_after promotion stored with ⟨row,member,code,upc⟩ | ⟨unnamed,old,before,code,upc⟩ <;>
      rcases pass.upc_after promotion place with
        ⟨row',member',code',upc'⟩ | ⟨unnamed',old',before',code',upc'⟩
    · rw [← code,← code']
      exact keyed.upcs row member row' member' (by rw [← upc,← upc',same])
    · exact absurd (by rw [upc',← same,upc]) (apart member unnamed' before' code')
    · exact absurd (by rw [upc,same,upc']) (apart member' unnamed before code)
    · rw [← code,← code',wellFormed.upcs old before old' before' (by rw [upc,upc',same])]
  exact Table.eq_of_key _ stored place sameCode

theorem skuStyle_after (wellFormed : tables.WellFormed) :
    ∀ sku ∈ (pass.after promotion).skus.rows,
      ∃ style ∈ (pass.after promotion).styles.rows, style.id = sku.productStyleId := by
  intro sku stored
  have found := Table.find?_of_mem stored
  by_cases named : ∃ row ∈ rows, row.sku = sku.code
  · obtain ⟨row,member,same⟩ := named
    obtain ⟨data,-,-,style,fresh,target,-,written⟩ := pass.named_sku promotion member
    rw [same,found,written_sku] at written
    exact ⟨style,Table.mem_of_find? target,
      (congrArg Sku.productStyleId (Option.some.inj written)).symm⟩
  · rw [find?_after_skus,if_neg named] at found
    obtain ⟨old,before,after⟩ := Option.map_eq_some_iff.mp found
    obtain ⟨style,place,own⟩ := wellFormed.skuStyle old (Table.mem_of_find? before)
    obtain ⟨kept,located,sameId⟩ := pass.style_after promotion (Table.find?_of_mem place)
    refine ⟨kept,Table.mem_of_find? located,?_⟩
    rw [sameId,own,← after]
    unfold whenFull
    split <;> rfl

theorem bindingSku_after (wellFormed : tables.WellFormed) :
    ∀ binding ∈ (pass.after promotion).bindings,
      ∃ sku ∈ (pass.after promotion).skus.rows, sku.id = binding.skuId := by
  intro binding listed
  rw [after_bindings] at listed
  rcases List.mem_append.mp listed with old | new
  · obtain ⟨before,stored,rfl⟩ := List.mem_map.mp old
    obtain ⟨sku,place,own⟩ := wellFormed.bindingSku before stored
    obtain ⟨kept,located,sameId⟩ := pass.sku_after promotion (Table.find?_of_mem place)
    refine ⟨kept,Table.mem_of_find? located,?_⟩
    rw [sameId,own]
    unfold finish
    split <;> rfl
  · obtain ⟨⟨epc,row,sku⟩,chosen,rfl⟩ := List.mem_map.mp new
    obtain ⟨-,-,found⟩ := pass.of_mem_epcEntries promotion (List.mem_filter.mp chosen).1
    exact ⟨sku,Table.mem_of_find? found,rfl⟩

theorem productIds_after (identified : Identified Product.id tables.products tables.nextId) :
    Identified Product.id (pass.after promotion).products (pass.after promotion).nextId := by
  rw [after_products]
  exact identified.mono (pass.nextId_le promotion)

theorem variantProduct_after (linked : ∀ variant ∈ tables.variants.rows,
      ∃ product ∈ tables.products.rows, product.id = variant.productId) :
    ∀ variant ∈ (pass.after promotion).variants.rows,
      ∃ product ∈ (pass.after promotion).products.rows, product.id = variant.productId := by
  rw [after_variants,after_products]
  exact linked

/-- A promotion without a conflict keeps the constraints of the tables, when its bindings keep
theirs. -/
theorem wellFormed_after (wellFormed : tables.WellFormed) (keyed : Keyed rows)
    (free : ConflictFree tables rows)
    (held : violatedConstraint (pass.after promotion).bindings = none) :
    (pass.after promotion).WellFormed where
  styleIds := pass.styleIds_after promotion wellFormed.styleIds
  skuIds := pass.skuIds_after promotion wellFormed.skuIds
  productIds := pass.productIds_after promotion wellFormed.productIds
  variantIds := by
    rw [after_variants]
    exact wellFormed.variantIds.mono (pass.nextId_le promotion)
  upcs := pass.upcs_after promotion wellFormed keyed free
  skuStyle := pass.skuStyle_after promotion wellFormed
  bindingSku := pass.bindingSku_after promotion wellFormed
  oneOpen := pass.oneOpen_after promotion wellFormed.oneOpen
  intervals := (violatedConstraint_eq_none.mp held).1
  disjoint := (violatedConstraint_eq_none.mp held).2
  variantProduct := pass.variantProduct_after promotion wellFormed.variantProduct

end Pass

section Intervals

variable {binding other : EpcBinding}

theorem overlaps_iff : binding.overlaps other = true ↔ binding.epc = other.epc ∧
    (∀ effectiveTo ∈ other.effectiveTo, binding.effectiveFrom < effectiveTo) ∧
      ∀ effectiveTo ∈ binding.effectiveTo, other.effectiveFrom < effectiveTo := by
  simp [EpcBinding.overlaps,Option.all_eq_true,and_assoc]

theorem apart_iff : binding.Apart other ↔ ¬binding.overlaps other = true := by
  simp [EpcBinding.Apart]

/-- A binding that is not closed has no end. -/
theorem effectiveTo_of_open (isOpen : binding.isOpen = true) : binding.effectiveTo = none :=
  Option.isNone_iff_eq_none.mp isOpen

end Intervals

namespace Pass

variable {tables : Tables} {rows : List CatalogRowData} (pass : Pass tables rows)
  (promotion : Promotion)

theorem isOpen_of_finishes {binding : EpcBinding} (finishes : pass.finishes promotion binding = true) :
    binding.isOpen = true := by
  simp only [Pass.finishes,ends,Bool.or_eq_true,Bool.and_eq_true] at finishes
  rcases finishes with ⟨isOpen,-⟩ | ⟨-,isOpen⟩ <;> exact isOpen

theorem finish_epc (binding : EpcBinding) : (pass.finish promotion binding).epc = binding.epc := by
  unfold finish
  split <;> rfl

theorem finish_from (binding : EpcBinding) :
    (pass.finish promotion binding).effectiveFrom = binding.effectiveFrom := by
  unfold finish
  split <;> rfl

theorem finish_to (binding : EpcBinding) {effectiveTo : Time}
    (finished : effectiveTo ∈ binding.effectiveTo) :
    effectiveTo ∈ (pass.finish promotion binding).effectiveTo := by
  unfold finish
  split
  · rename_i finishes
    rw [effectiveTo_of_open (pass.isOpen_of_finishes promotion finishes)] at finished
    cases finished
  · exact finished

/-- Bindings that are closed after they began are valid. -/
theorem intervals_after (intervals : ∀ binding ∈ tables.bindings, binding.valid = true)
    (before : tables.Before promotion.effectiveAt) :
    ∀ binding ∈ (pass.after promotion).bindings, binding.valid = true := by
  intro binding listed
  rw [after_bindings] at listed
  rcases List.mem_append.mp listed with old | new
  · obtain ⟨stored,place,rfl⟩ := List.mem_map.mp old
    unfold finish
    split
    · have began := (before stored place).1
      simp [EpcBinding.valid,EpcBinding.close,began]
    · exact intervals stored place
  · obtain ⟨entry,-,rfl⟩ := List.mem_map.mp new
    rfl

/-- A binding that has ended has so before the promotion, or at it. -/
theorem finish_ended (before : tables.Before promotion.effectiveAt) {binding : EpcBinding}
    (stored : binding ∈ tables.bindings) {effectiveTo : Time}
    (ended : effectiveTo ∈ (pass.finish promotion binding).effectiveTo) :
    effectiveTo ≤ promotion.effectiveAt := by
  unfold finish at ended
  split at ended
  · cases ended
    exact le_rfl
  · exact (before binding stored).2 effectiveTo ended

/-- The bindings stay apart: closing one makes it shorter, and a new one begins where all the others
of its EPC have ended. -/
theorem disjoint_after (wellFormed : tables.WellFormed) (before : tables.Before promotion.effectiveAt) :
    (pass.after promotion).bindings.Pairwise EpcBinding.Apart := by
  have oneOpen := pass.oneOpen_after promotion wellFormed.oneOpen
  rw [after_bindings] at oneOpen ⊢
  rw [List.filter_append,List.map_append,List.nodup_append,
    List.filter_eq_self.mpr (pass.opened_isOpen promotion)] at oneOpen
  obtain ⟨-,distinct,separate⟩ := oneOpen
  rw [List.pairwise_append]
  refine ⟨?_,?_,?_⟩
  · rw [List.pairwise_map]
    apply wellFormed.disjoint.imp
    intro binding other apart
    rw [apart_iff,overlaps_iff] at apart ⊢
    rintro ⟨same,starts,ends⟩
    rw [finish_epc,finish_epc] at same
    rw [finish_from] at starts ends
    exact apart ⟨same,fun effectiveTo ended => starts effectiveTo (pass.finish_to promotion other ended),
      fun effectiveTo ended => ends effectiveTo (pass.finish_to promotion binding ended)⟩
  · apply (List.pairwise_map.mp distinct).imp
    intro binding other apart
    rw [apart_iff,overlaps_iff]
    exact fun overlap => apart overlap.1
  · intro binding old new opens
    obtain ⟨stored,place,rfl⟩ := List.mem_map.mp old
    rw [apart_iff,overlaps_iff]
    rintro ⟨same,-,ends⟩
    cases ended : (pass.finish promotion stored).effectiveTo with
    | none =>
        have isOpen : (pass.finish promotion stored).isOpen = true := by
          rw [EpcBinding.isOpen,ended,Option.isNone_none]
        exact separate _ (List.mem_map_of_mem (List.mem_filter.mpr ⟨old,isOpen⟩)) _
          (List.mem_map_of_mem opens) same
    | some effectiveTo =>
        have early := pass.finish_ended promotion before place ended
        have late := ends effectiveTo ended
        rw [pass.opened_from promotion new opens] at late
        exact (late.trans_le early).false

/-- A promotion after all the bindings violates no constraint. -/
theorem held_after (wellFormed : tables.WellFormed) (before : tables.Before promotion.effectiveAt) :
    violatedConstraint (pass.after promotion).bindings = none :=
  violatedConstraint_eq_none.mpr ⟨pass.intervals_after promotion wellFormed.intervals before,
    pass.disjoint_after promotion wellFormed before⟩

end Pass

/-- A promotion without a conflict, after all the bindings, gets through. -/
theorem applyPromotion_of_free {tables : Tables} {rows : List CatalogRowData}
    (wellFormed : tables.WellFormed) (free : ConflictFree tables rows) (promotion : Promotion)
    (before : tables.Before promotion.effectiveAt) :
    ∃ pass : Pass tables rows,
      applyPromotion tables promotion rows = .ok (pass.outcome promotion,pass.after promotion) := by
  obtain ⟨pass⟩ := exists_pass tables rows
  refine ⟨pass,?_⟩
  rw [applyPromotion_eq pass promotion (firstConflict_eq_none free),
    checked_of_none (pass.held_after promotion wellFormed before)]

end Abacus.Catalog
