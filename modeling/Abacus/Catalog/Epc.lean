import Mathlib.Data.List.TakeWhile
import Mathlib.Logic.Relation
import Abacus.Model.CatalogSample

/-! Normal forms of EPCs (`normalize_epc` in `schemas/catalog.py`).
The catalog and the ingress both normalize, so they agree on a tag when every spelling of it
has one normal form, and when a normal form is its own.
-/
set_option autoImplicit false

namespace Abacus.Catalog

open Python (CodePoint Text text)

section Casing

def upperAscii (character : CodePoint) : CodePoint :=
  if 97 ≤ character ∧ character ≤ 122 then character - 32 else character

def lowerAscii (character : CodePoint) : CodePoint :=
  if 65 ≤ character ∧ character ≤ 90 then character + 32 else character

/-- What `str.upper` and `str.lower` are documented to do with the characters that matter here.
Only the letter x has a lower case that is x. -/
structure Casing (runtime : Runtime) : Prop where
  upper_append : ∀ left right : Text,
    runtime.upper (left ++ right) = runtime.upper left ++ runtime.upper right
  upper_ascii : ∀ character < 128, runtime.upper [character] = [upperAscii character]
  lower_ascii : ∀ value : Text, (∀ character ∈ value, character < 128) →
    runtime.lower value = value.map lowerAscii
  lower_prefix : ∀ value : Text, Text.isPrefixOf (text "0x") (runtime.lower value) = true →
    ∃ rest, value = 48 :: 88 :: rest ∨ value = 48 :: 120 :: rest

variable {runtime : Runtime}

theorem Casing.upper_nil (casing : Casing runtime) : runtime.upper [] = [] := by
  have doubled := congrArg List.length (casing.upper_append [] [])
  rw [List.nil_append,List.length_append] at doubled
  exact List.length_eq_zero_iff.mp (by omega)

theorem Casing.upper_cons (casing : Casing runtime) (character : CodePoint) (rest : Text) :
    runtime.upper (character :: rest) = runtime.upper [character] ++ runtime.upper rest :=
  casing.upper_append [character] rest

theorem Casing.upper_eq_map (casing : Casing runtime) {value : Text}
    (ascii : ∀ character ∈ value, character < 128) :
    runtime.upper value = value.map upperAscii := by
  induction value with
  | nil => rw [casing.upper_nil,List.map_nil]
  | cons character rest ih =>
      have first := casing.upper_ascii character (ascii character List.mem_cons_self)
      rw [casing.upper_cons,first,ih fun other member => ascii other (List.mem_cons_of_mem _ member)]
      rfl

end Casing

section Characters

def isSeparator (character : CodePoint) : Bool :=
  Text.isSpace character || (text ":-").contains character

theorem isHexadecimal_iff {character : ℕ} : isHexadecimal character = true ↔
    (48 ≤ character ∧ character ≤ 57) ∨ (65 ≤ character ∧ character ≤ 70) := by
  simp [isHexadecimal]

theorem lowerOrDigit_iff {character : ℕ} : lowerOrDigit character = true ↔
    (97 ≤ character ∧ character ≤ 122) ∨ (48 ≤ character ∧ character ≤ 57) := by
  simp [lowerOrDigit]

theorem hexadecimal_ascii {character : ℕ} (digit : isHexadecimal character = true) :
    character < 128 := by
  rw [isHexadecimal_iff] at digit
  omega

theorem hexadecimal_plain : ∀ character < 128, isHexadecimal character = true →
    isSeparator character = false ∧ upperAscii character = character ∧
      lowerAscii character ≠ 117 ∧ lowerAscii character ≠ 120 ∧ character ≠ 88 := by
  decide

/-- A character that `EPC_URI_PATTERN` has a place for. -/
def isEpcCharacter (character : CodePoint) : Bool :=
  lowerOrDigit character || (text ".*%_-:").contains character

theorem epcCharacter_ascii {character : ℕ} (allowed : isEpcCharacter character = true) :
    character < 128 := by
  rcases Bool.or_eq_true_iff.mp allowed with letter | other
  · rw [lowerOrDigit_iff] at letter
    omega
  · have below : ∀ character ∈ text ".*%_-:", character < 128 := by decide
    exact below character (List.contains_iff_mem.mp other)

theorem epcCharacter_plain : ∀ character < 128, isEpcCharacter character = true →
    Text.isSpace character = false ∧ lowerAscii character = character ∧
      ¬(65 ≤ character ∧ character ≤ 90) := by
  decide

theorem identity_epcCharacter {character : CodePoint}
    (allowed : (lowerOrDigit character || (text ".*%_-").contains character) = true) :
    isEpcCharacter character = true := by
  have subset : ∀ character ∈ text ".*%_-", (text ".*%_-:").contains character = true := by decide
  rcases Bool.or_eq_true_iff.mp allowed with letter | other
  · simp [isEpcCharacter,letter]
  · rw [isEpcCharacter,subset character (List.contains_iff_mem.mp other),Bool.or_true]

theorem scheme_epcCharacter {character : CodePoint}
    (allowed : (lowerOrDigit character || decide (character = 45)) = true) :
    isEpcCharacter character = true := by
  rcases Bool.or_eq_true_iff.mp allowed with letter | hyphen
  · simp [isEpcCharacter,letter]
  · rw [of_decide_eq_true hyphen]
    decide

end Characters

section Uris

theorem epcScheme_characters {value : Text} (scheme : isEpcScheme value = true) :
    ∀ character ∈ value, isEpcCharacter character = true := by
  unfold isEpcScheme at scheme
  dsimp only at scheme
  split at scheme
  · next identity rest =>
      simp only [Bool.and_eq_true,List.all_eq_true] at scheme
      intro character member
      let inScheme := fun character : CodePoint => lowerOrDigit character || decide (character = 45)
      have parts : value.takeWhile inScheme ++ value.dropWhile inScheme = value :=
        List.takeWhile_append_dropWhile
      rw [← parts,rest] at member
      rcases List.mem_append.mp member with leading | trailing
      · have allowed : inScheme character = true := List.mem_takeWhile_imp leading
        exact scheme_epcCharacter allowed
      · rcases List.mem_cons.mp trailing with rfl | later
        · decide
        · exact identity_epcCharacter (scheme.2 character later)
  · cases scheme

/-- A URI of the pattern begins like one, and has no other characters than the pattern's. -/
theorem epcUri_characters {value : Text} (uri : isEpcUri value = true) :
    Text.isPrefixOf (text "urn:epc:") value = true ∧
      ∀ character ∈ value, isEpcCharacter character = true := by
  have starts : ∀ start ∈ [text "urn:epc:id:",text "urn:epc:tag:"],
      text "urn:epc:" <+: start ∧ ∀ character ∈ start, isEpcCharacter character = true := by
    decide
  obtain ⟨start,listed,both⟩ := List.any_eq_true.mp uri
  obtain ⟨begins,scheme⟩ := Bool.and_eq_true_iff.mp both
  obtain ⟨rest,rfl⟩ := List.isPrefixOf_iff_prefix.mp begins
  rw [List.drop_left] at scheme
  obtain ⟨common,leading⟩ := starts start listed
  refine ⟨List.isPrefixOf_iff_prefix.mpr (common.trans (List.prefix_append start rest)),?_⟩
  intro character member
  rcases List.mem_append.mp member with early | late
  · exact leading character early
  · exact epcScheme_characters scheme character late

end Uris

section Normalization

variable {runtime : Runtime} {value : Text} {epc : Column 128}

/-- What is left of a stripped value without an optional `0x`. -/
def withoutPrefix (runtime : Runtime) (stripped : Text) : Text :=
  if Text.isPrefixOf (text "0x") (runtime.lower stripped) then stripped.drop 2 else stripped

structure IsHexEpc (epc : Text) : Prop where
  atLeast : 16 ≤ epc.length
  atMost : epc.length ≤ 64
  even : epc.length % 2 = 0
  digits : epc.all isHexadecimal = true

structure IsUrnEpc (epc : Text) : Prop where
  uri : isEpcUri epc = true
  atMost : epc.length ≤ 128
  lowerCase : ∀ character ∈ epc, ¬(65 ≤ character ∧ character ≤ 90)

inductive Accepted (runtime : Runtime) (value : Text) (epc : Text) : Prop where
  | urn (begins : Text.isPrefixOf (text "urn:epc:") (runtime.lower value.strip) = true)
      (lowered : epc = runtime.lower value.strip) (uri : isEpcUri epc = true)
  | hex (other : Text.isPrefixOf (text "urn:epc:") (runtime.lower value.strip) = false)
      (uppered : epc =
        runtime.upper (removeSpacesAnd (text ":-") (withoutPrefix runtime value.strip)))
      (digits : IsHexEpc epc)

theorem accepted_of_normalizeEpc (normalized : normalizeEpc runtime value = .ok epc) :
    Accepted runtime value epc.1 := by
  unfold normalizeEpc at normalized
  dsimp only at normalized
  rw [← withoutPrefix] at normalized
  split at normalized
  · cases normalized
  · split at normalized
    · next begins =>
        split at normalized
        · split at normalized
          · next uri =>
              cases normalized
              exact .urn begins rfl uri
          · cases normalized
        · cases normalized
    · next other =>
        split at normalized
        · next bound =>
            split at normalized
            · next shape =>
                cases normalized
                exact .hex (by simpa using other) rfl ⟨shape.1,bound,shape.2.1,shape.2.2⟩
            · cases normalized
        · cases normalized

theorem normalizeEpc_urn (begins : Text.isPrefixOf (text "urn:epc:") value = true)
    (visible : value.strip = value) (lowered : runtime.lower value = value)
    (bound : value.length ≤ 128) (uri : isEpcUri value = true) :
    normalizeEpc runtime value = .ok ⟨value,bound⟩ := by
  have present : value ≠ [] := by
    rintro rfl
    cases begins
  simp [normalizeEpc,visible,lowered,present,begins,bound,uri]

theorem normalizeEpc_hex (visible : value.strip = value) (present : value ≠ [])
    (other : Text.isPrefixOf (text "urn:epc:") (runtime.lower value) = false)
    (bare : Text.isPrefixOf (text "0x") (runtime.lower value) = false)
    (uppered : runtime.upper (removeSpacesAnd (text ":-") value) = value)
    (digits : IsHexEpc value) :
    normalizeEpc runtime value = .ok ⟨value,hexadecimal_bound digits.atMost⟩ := by
  have all : ∀ character ∈ value, isHexadecimal character = true :=
    List.all_eq_true.mp digits.digits
  simpa [normalizeEpc,visible,present,other,bare,uppered,digits.atLeast,digits.atMost,digits.even]
    using all

theorem removeSpacesAnd_eq_filter (value : Text) :
    removeSpacesAnd (text ":-") value = value.filter fun character => !isSeparator character := rfl

theorem removeSpacesAnd_strip (value : Text) :
    removeSpacesAnd (text ":-") value.strip = removeSpacesAnd (text ":-") value := by
  rw [removeSpacesAnd_eq_filter,removeSpacesAnd_eq_filter]
  apply Text.filter_strip
  intro character space
  simp [isSeparator,space]

/-- A URN that is accepted is its own normal form. -/
theorem urn_fixed (casing : Casing runtime) (urn : IsUrnEpc value) :
    normalizeEpc runtime value = .ok ⟨value,urn.atMost⟩ := by
  obtain ⟨begins,characters⟩ := epcUri_characters urn.uri
  have ascii : ∀ character ∈ value, character < 128 :=
    fun character member => epcCharacter_ascii (characters character member)
  have plain := fun character member =>
    epcCharacter_plain character (ascii character member) (characters character member)
  have lowered : runtime.lower value = value := by
    rw [casing.lower_ascii value ascii]
    exact (List.map_congr_left fun character member => (plain character member).2.1).trans
      (List.map_id value)
  exact normalizeEpc_urn begins
    (Text.strip_of_no_spaces fun character member => (plain character member).1) lowered
    urn.atMost urn.uri

theorem not_isPrefixOf {start : Text} {character : CodePoint} (member : character ∈ start)
    (absent : character ∉ value) : Text.isPrefixOf start value = false := by
  cases begins : Text.isPrefixOf start value with
  | false => rfl
  | true => exact absurd ((List.isPrefixOf_iff_prefix.mp begins).subset member) absent

/-- So is an EPC of hexadecimal digits. -/
theorem hex_fixed (casing : Casing runtime) (hex : IsHexEpc value) :
    normalizeEpc runtime value = .ok ⟨value,hexadecimal_bound hex.atMost⟩ := by
  have digit : ∀ character ∈ value, isHexadecimal character = true :=
    List.all_eq_true.mp hex.digits
  have ascii : ∀ character ∈ value, character < 128 :=
    fun character member => hexadecimal_ascii (digit character member)
  have plain := fun character member =>
    hexadecimal_plain character (ascii character member) (digit character member)
  have visible : ∀ character ∈ value, isSeparator character = false :=
    fun character member => (plain character member).1
  have spaceless : ∀ character ∈ value, Text.isSpace character = false :=
    fun character member => (Bool.or_eq_false_iff.mp (visible character member)).1
  have present : value ≠ [] := by
    rintro rfl
    exact absurd hex.atLeast (by decide)
  have noU : 117 ∉ runtime.lower value := by
    rw [casing.lower_ascii value ascii,List.mem_map]
    exact fun ⟨character,member,lowered⟩ => (plain character member).2.2.1 lowered
  have noX : 120 ∉ runtime.lower value := by
    rw [casing.lower_ascii value ascii,List.mem_map]
    exact fun ⟨character,member,lowered⟩ => (plain character member).2.2.2.1 lowered
  have kept : removeSpacesAnd (text ":-") value = value := by
    rw [removeSpacesAnd_eq_filter,List.filter_eq_self]
    intro character member
    rw [visible character member,Bool.not_false]
  have uppered : runtime.upper (removeSpacesAnd (text ":-") value) = value := by
    rw [kept,casing.upper_eq_map ascii]
    exact (List.map_congr_left fun character member => (plain character member).2.1).trans
      (List.map_id value)
  exact normalizeEpc_hex (Text.strip_of_no_spaces spaceless) present
    (not_isPrefixOf (by decide) noU) (not_isPrefixOf (by decide) noX) uppered hex

/-- Every normal form is hexadecimal or a URN. -/
theorem form_of_normalizeEpc (normalized : normalizeEpc runtime value = .ok epc) :
    IsHexEpc epc.1 ∨ IsUrnEpc epc.1 := by
  rcases accepted_of_normalizeEpc normalized with ⟨begins,lowered,uri⟩ | ⟨other,uppered,digits⟩
  · refine .inr ⟨uri,epc.2,?_⟩
    intro character member
    have allowed := (epcUri_characters uri).2 character member
    exact (epcCharacter_plain character (epcCharacter_ascii allowed) allowed).2.2
  · exact .inl digits

end Normalization

section Spellings

variable {runtime : Runtime}

/-- One change of a spelling: another case of a letter, a separator less, or a prefix less. -/
inductive Respelled (runtime : Runtime) : Text → Text → Prop where
  | letterCase (before after : Text) {letter other : CodePoint} :
      isSeparator letter = false → isSeparator other = false →
        runtime.upper [letter] = runtime.upper [other] →
          Respelled runtime (before ++ letter :: after) (before ++ other :: after)
  | separator (before after : Text) {character : CodePoint} :
      isSeparator character = true →
        Respelled runtime (before ++ character :: after) (before ++ after)
  | hexPrefix (value : Text) {x : CodePoint} :
      x = 88 ∨ x = 120 → Respelled runtime (48 :: x :: value) value

/-- Spellings that differ in nothing else, after any number of changes either way. -/
def SameSpelling (runtime : Runtime) : Text → Text → Prop := Relation.EqvGen (Respelled runtime)

def dropPrefixes : Text → Text
  | 48 :: 88 :: rest => dropPrefixes rest
  | other => other

/-- What all these changes leave alone. -/
def bareDigits (runtime : Runtime) (value : Text) : Text :=
  dropPrefixes (runtime.upper (removeSpacesAnd (text ":-") value))

theorem dropPrefixes_of_digits {value : Text} (digits : value.all isHexadecimal = true) :
    dropPrefixes value = value := by
  unfold dropPrefixes
  split
  · next rest =>
      have noX : isHexadecimal 88 = false := by decide
      simp [noX] at digits
  · rfl

theorem upper_removeSpaces_prefixed (casing : Casing runtime) (value : Text) {x : CodePoint}
    (prefixed : x = 88 ∨ x = 120) :
    runtime.upper (removeSpacesAnd (text ":-") (48 :: x :: value)) =
      48 :: 88 :: runtime.upper (removeSpacesAnd (text ":-") value) := by
  have zero : isSeparator 48 = false := by decide
  have letter : isSeparator x = false ∧ runtime.upper [x] = [88] := by
    rcases prefixed with rfl | rfl
    · exact ⟨by decide,casing.upper_ascii 88 (by decide)⟩
    · exact ⟨by decide,casing.upper_ascii 120 (by decide)⟩
  rw [removeSpacesAnd_eq_filter,List.filter_cons_of_pos (by rw [zero]; rfl),
    List.filter_cons_of_pos (by rw [letter.1]; rfl),casing.upper_cons,
    casing.upper_ascii 48 (by decide),casing.upper_cons x,letter.2,← removeSpacesAnd_eq_filter]
  rfl

theorem Respelled.bareDigits (casing : Casing runtime) {left right : Text}
    (respelled : Respelled runtime left right) :
    bareDigits runtime left = bareDigits runtime right := by
  unfold Catalog.bareDigits
  cases respelled with
  | @letterCase before after letter other visible otherVisible sameCase =>
      rw [removeSpacesAnd_eq_filter,removeSpacesAnd_eq_filter,List.filter_append,
        List.filter_append,List.filter_cons_of_pos (by rw [visible]; rfl),
        List.filter_cons_of_pos (by rw [otherVisible]; rfl),casing.upper_append,
        casing.upper_append,casing.upper_cons letter,casing.upper_cons other,sameCase]
  | @separator before after character separates =>
      rw [removeSpacesAnd_eq_filter,removeSpacesAnd_eq_filter,List.filter_append,
        List.filter_append,List.filter_cons_of_neg (by simp [separates])]
  | hexPrefix _ prefixed =>
      rw [upper_removeSpaces_prefixed casing _ prefixed,dropPrefixes]

theorem SameSpelling.bareDigits (casing : Casing runtime) {left right : Text}
    (same : SameSpelling runtime left right) :
    bareDigits runtime left = bareDigits runtime right := by
  induction same with
  | rel left right respelled => exact respelled.bareDigits casing
  | refl value => rfl
  | symm left right same ih => exact ih.symm
  | trans first second third left right ih others => exact ih.trans others

/-- The normal form of a hexadecimal spelling is what no change of it alters. -/
theorem bareDigits_of_normalizeEpc (casing : Casing runtime) {value : Text} {epc : Column 128}
    (normalized : normalizeEpc runtime value = .ok epc) (digits : epc.1.all isHexadecimal = true) :
    bareDigits runtime value = epc.1 := by
  rcases accepted_of_normalizeEpc normalized with ⟨begins,lowered,uri⟩ | ⟨other,uppered,shape⟩
  · have common := List.isPrefixOf_iff_prefix.mp (epcUri_characters uri).1
    have letter : 117 ∈ epc.1 := common.subset (by decide)
    exact absurd (List.all_eq_true.mp digits 117 letter) (by decide)
  · rw [withoutPrefix] at uppered
    rw [bareDigits,← removeSpacesAnd_strip]
    split at uppered
    · next begins =>
        obtain ⟨rest,stripped⟩ := casing.lower_prefix _ begins
        obtain ⟨x,prefixed,stripped⟩ : ∃ x, (x = 88 ∨ x = 120) ∧ value.strip = 48 :: x :: rest := by
          rcases stripped with upper | lower
          · exact ⟨88,.inl rfl,upper⟩
          · exact ⟨120,.inr rfl,lower⟩
        rw [stripped,List.drop_succ_cons,List.drop_succ_cons,List.drop_zero] at uppered
        rw [stripped,upper_removeSpaces_prefixed casing rest prefixed,← uppered,dropPrefixes,
          dropPrefixes_of_digits digits]
    · rw [← uppered,dropPrefixes_of_digits digits]

end Spellings

/-- Normal forms are hexadecimal or URNs, are their own normal forms, and are shared by all
spellings of a hexadecimal EPC. -/
theorem normalizeEpc_canonical (runtime : Runtime) (casing : Casing runtime) :
    (∀ value epc, normalizeEpc runtime value = .ok epc →
      (IsHexEpc epc.1 ∨ IsUrnEpc epc.1) ∧ normalizeEpc runtime epc.1 = .ok epc) ∧
      ∀ left right leftEpc rightEpc,
        normalizeEpc runtime left = .ok leftEpc → normalizeEpc runtime right = .ok rightEpc →
        leftEpc.1.all isHexadecimal = true → rightEpc.1.all isHexadecimal = true →
        SameSpelling runtime left right → leftEpc = rightEpc := by
  constructor
  · intro value epc normalized
    have form := form_of_normalizeEpc normalized
    refine ⟨form,?_⟩
    rcases form with hex | urn
    · exact hex_fixed casing hex
    · exact urn_fixed casing urn
  · intro left right leftEpc rightEpc first second leftDigits rightDigits same
    apply Subtype.ext
    rw [← bareDigits_of_normalizeEpc casing first leftDigits,
      ← bareDigits_of_normalizeEpc casing second rightDigits]
    exact same.bareDigits casing

namespace Sample

theorem lower_cases {character lowered : ℕ} (same : lower character = lowered) :
    character = lowered ∨ character + 32 = lowered := by
  have cased : (if 65 ≤ character ∧ character ≤ 90 then character + 32 else character) = lowered :=
    same
  split at cased
  · exact .inr cased
  · exact .inl cased

theorem lower_eq_zero {character : ℕ} (lowered : lower character = 48) : character = 48 := by
  rcases lower_cases lowered with same | shifted
  · exact same
  · have capital : character = 16 := by omega
    rw [capital] at lowered
    cases lowered

theorem lower_eq_x {character : ℕ} (lowered : lower character = 120) :
    character = 88 ∨ character = 120 := by
  rcases lower_cases lowered with same | shifted
  · exact .inr same
  · exact .inl (by omega)

theorem casing : Casing runtime where
  upper_append left right := List.map_append
  upper_ascii character ascii := rfl
  lower_ascii value ascii := rfl
  lower_prefix value begins := by
    obtain ⟨rest,lowered⟩ := List.isPrefixOf_iff_prefix.mp begins
    have mapped : value.map lower = 48 :: 120 :: rest := lowered.symm
    obtain ⟨digit,others,rfl,first,later⟩ := List.map_eq_cons_iff.mp mapped
    obtain ⟨x,rest,rfl,second,-⟩ := List.map_eq_cons_iff.mp later
    rw [lower_eq_zero first]
    rcases lower_eq_x second with rfl | rfl
    · exact ⟨rest,.inl rfl⟩
    · exact ⟨rest,.inr rfl⟩

theorem tagEpc_bound : (text "001122334455667A").length ≤ 128 := by decide

def tagEpc : Column 128 := ⟨text "001122334455667A",tagEpc_bound⟩

def prefixedSpelling : Text := text "0x0011-2233:4455667a"

def spacedSpelling : Text := text "0011 223344-55667A"

theorem prefixedSpelling_read : normalizeEpc runtime prefixedSpelling = .ok tagEpc := by
  decide +kernel

theorem spacedSpelling_read : normalizeEpc runtime spacedSpelling = .ok tagEpc := by
  decide +kernel

theorem spellings_same : SameSpelling runtime prefixedSpelling spacedSpelling := by
  have unprefixed : SameSpelling runtime prefixedSpelling (text "0011-2233:4455667a") :=
    .rel _ _ (.hexPrefix _ (.inr rfl))
  have joined : SameSpelling runtime (text "0011-2233:4455667a") (text "00112233:4455667a") :=
    .rel _ _ (.separator (text "0011") (text "2233:4455667a") (by decide))
  have bare : SameSpelling runtime (text "00112233:4455667a") (text "001122334455667a") :=
    .rel _ _ (.separator (text "00112233") (text "4455667a") (by decide))
  have capital : SameSpelling runtime (text "001122334455667a") (text "001122334455667A") :=
    .rel _ _ (.letterCase (text "001122334455667") [] (by decide) (by decide) (by decide))
  have dashed : SameSpelling runtime (text "0011223344-55667A") (text "001122334455667A") :=
    .rel _ _ (.separator (text "0011223344") (text "55667A") (by decide))
  have spaced : SameSpelling runtime spacedSpelling (text "0011223344-55667A") :=
    .rel _ _ (.separator (text "0011") (text "223344-55667A") (by decide))
  have back : SameSpelling runtime (text "001122334455667A") spacedSpelling :=
    .symm _ _ (.trans _ _ _ spaced dashed)
  exact .trans _ _ _ unprefixed (.trans _ _ _ joined (.trans _ _ _ bare (.trans _ _ _ capital back)))

end Sample

theorem normalizeEpc_canonical_sample : Casing Sample.runtime ∧
    normalizeEpc Sample.runtime Sample.tagEpc.1 = .ok Sample.tagEpc ∧
      ∃ left right, normalizeEpc Sample.runtime Sample.prefixedSpelling = .ok left ∧
        normalizeEpc Sample.runtime Sample.spacedSpelling = .ok right ∧ left = right := by
  obtain ⟨fixed,shared⟩ := normalizeEpc_canonical Sample.runtime Sample.casing
  refine ⟨Sample.casing,(fixed _ _ Sample.prefixedSpelling_read).2,_,_,Sample.prefixedSpelling_read,
    Sample.spacedSpelling_read,?_⟩
  exact shared _ _ _ _ Sample.prefixedSpelling_read Sample.spacedSpelling_read (by decide) (by decide)
    Sample.spellings_same

end Abacus.Catalog
