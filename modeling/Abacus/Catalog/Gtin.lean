import Mathlib.Data.List.Forall2
import Abacus.Model.CatalogSample

/-! The codes that `normalize_upc` accepts.
`str.isdigit` and `int` know the digits of many scripts. The check digit is computed from the
values of the digits, so a code in another script passes as well as its copy in ASCII.
-/
set_option autoImplicit false

namespace Abacus.Catalog

open Python (CodePoint Text text)

section Weights

/-- Weights one and three in turn, from the right: what lies to the right tells the weight. -/
def weightedFromRight : List ℕ → ℕ
  | [] => 0
  | value :: rest => value * (if rest.length % 2 = 0 then 1 else 3) + weightedFromRight rest

def weightedInTurn (weight : ℕ) : List ℕ → ℕ
  | [] => 0
  | value :: rest => value * weight + weightedInTurn (4 - weight) rest

theorem weightedInTurn_append (values : List ℕ) (value weight : ℕ) (bound : weight ≤ 4) :
    weightedInTurn weight (values ++ [value]) = weightedInTurn weight values +
      value * (if values.length % 2 = 0 then weight else 4 - weight) := by
  induction values generalizing weight with
  | nil => simp [weightedInTurn]
  | cons first rest ih =>
      have next := ih (4 - weight) (Nat.sub_le 4 weight)
      rw [List.cons_append,weightedInTurn,weightedInTurn,next,List.length_cons,
        Nat.sub_sub_self bound]
      by_cases even : rest.length % 2 = 0
      · have odd : ¬(rest.length + 1) % 2 = 0 := by omega
        rw [if_pos even,if_neg odd]
        omega
      · have even' : (rest.length + 1) % 2 = 0 := by omega
        rw [if_neg even,if_pos even']
        omega

theorem weightedInTurn_reverse (values : List ℕ) :
    weightedInTurn 1 values.reverse = weightedFromRight values := by
  induction values with
  | nil => rfl
  | cons value rest ih =>
      rw [List.reverse_cons,weightedInTurn_append _ _ _ (by decide),ih,weightedFromRight,
        List.length_reverse]
      exact Nat.add_comm _ _

/-- The value at one place goes into the sum once or three times. -/
theorem weightedFromRight_middle (before after : List ℕ) : ∃ weight others,
    (weight = 1 ∨ weight = 3) ∧
      ∀ value, weightedFromRight (before ++ value :: after) = others + value * weight := by
  induction before with
  | nil =>
      refine ⟨if after.length % 2 = 0 then 1 else 3,weightedFromRight after,?_,?_⟩
      · split
        · exact .inl rfl
        · exact .inr rfl
      · intro value
        exact Nat.add_comm _ _
  | cons first before ih =>
      obtain ⟨weight,others,small,sums⟩ := ih
      let own := first * if (before.length + (after.length + 1)) % 2 = 0 then 1 else 3
      refine ⟨weight,own + others,small,?_⟩
      intro value
      rw [List.cons_append,weightedFromRight,sums,List.length_append,List.length_cons]
      exact (Nat.add_assoc own others _).symm

/-- So two sums that both end in zero have the same digit there. -/
theorem same_of_weighted {before after : List ℕ} {left right : ℕ} (small : left ≤ 9)
    (bound : right ≤ 9) (first : weightedFromRight (before ++ left :: after) % 10 = 0)
    (second : weightedFromRight (before ++ right :: after) % 10 = 0) : left = right := by
  obtain ⟨weight,others,weights,sums⟩ := weightedFromRight_middle before after
  rw [sums] at first second
  rcases weights with rfl | rfl
  · omega
  · omega

end Weights

section Codes

def isAsciiDigit (character : CodePoint) : Bool := 48 ≤ character && character ≤ 57

/-- What `str.isdigit` and `int` are documented to do: they read the digits of ASCII, and the
value of a single character is a digit. -/
structure DigitTable (runtime : Runtime) : Prop where
  ascii_isDigit : ∀ character, isAsciiDigit character = true → runtime.isDigit character = true
  ascii_int : ∀ character, isAsciiDigit character = true → runtime.int character = .ok (character - 48)
  int_le : ∀ character value, runtime.int character = .ok value → value ≤ 9

/-- A GTIN: ASCII digits of which the weighted sum is divisible by ten. -/
structure IsGtin (code : Text) : Prop where
  length : code.length ∈ gtinLengths
  digits : ∀ character ∈ code, isAsciiDigit character = true
  checked : weightedFromRight (code.map fun character => character - 48) % 10 = 0

def Reads (runtime : Runtime) (code : Text) (values : List ℕ) : Prop :=
  (∀ character ∈ code, runtime.isDigit character = true) ∧
    List.Forall₂ (fun character value => runtime.int character = .ok value) code values

/-- Would be a GTIN, if some of its digits were not those of another script. -/
structure IsForeignGtin (runtime : Runtime) (code : Text) : Prop where
  length : code.length ∈ gtinLengths
  foreign : ∃ character ∈ code, isAsciiDigit character = false
  checked : ∃ values, Reads runtime code values ∧ weightedFromRight values % 10 = 0

variable {runtime : Runtime} {code value : Text} {weight sum : ℕ}

theorem gtinSum_eq_ok : gtinSum runtime weight code = .ok sum ↔
    ∃ values, List.Forall₂ (fun character value => runtime.int character = .ok value) code values ∧
      sum = weightedInTurn weight values := by
  induction code generalizing weight sum with
  | nil =>
      constructor
      · intro summed
        cases summed
        exact ⟨[],.nil,rfl⟩
      · rintro ⟨values,read,rfl⟩
        cases read
        rfl
  | cons character rest ih =>
      rw [gtinSum]
      constructor
      · intro summed
        cases read : runtime.int character with
        | error message =>
            rw [read] at summed
            cases summed
        | ok digit =>
            rw [read] at summed
            cases others : gtinSum runtime (4 - weight) rest with
            | error message =>
                rw [others] at summed
                cases summed
            | ok remaining =>
                rw [others] at summed
                cases summed
                obtain ⟨values,readRest,rfl⟩ := ih.mp others
                exact ⟨digit :: values,.cons read readRest,rfl⟩
      · rintro ⟨values,read,rfl⟩
        cases read with
        | @cons _ digit _ values read readRest =>
            have others : gtinSum runtime (4 - weight) rest = .ok (weightedInTurn (4 - weight) values) :=
              ih.mpr ⟨values,readRest,rfl⟩
            rw [read,others]
            rfl

/-- The last digit belongs to the sum with weight one. -/
theorem weightedFromRight_concat (values : List ℕ) (check : ℕ) :
    weightedFromRight (values ++ [check]) = check + weightedInTurn 3 values.reverse := by
  rw [← weightedInTurn_reverse,List.reverse_append,List.reverse_singleton,List.singleton_append,
    weightedInTurn,Nat.mul_one]

theorem check_iff {check : ℕ} (digit : check ≤ 9) (sum : ℕ) :
    check = (10 - sum % 10) % 10 ↔ (check + sum) % 10 = 0 := by
  omega

/-- The check of the last character is a check of the whole code. -/
theorem checked_iff (table : DigitTable runtime) (present : code ≠ []) :
    (∃ sum check, gtinSum runtime 3 code.dropLast.reverse = .ok sum ∧
      runtime.int (code.getLastD 0) = .ok check ∧ check = (10 - sum % 10) % 10) ↔
      ∃ values, List.Forall₂ (fun character value => runtime.int character = .ok value) code values ∧
        weightedFromRight values % 10 = 0 := by
  obtain ⟨payload,last,rfl⟩ : ∃ payload last, code = payload ++ [last] :=
    ⟨_,_,(List.dropLast_append_getLast present).symm⟩
  rw [List.dropLast_concat,List.getLastD_concat]
  constructor
  · rintro ⟨sum,check,summed,read,matched⟩
    obtain ⟨values,reads,rfl⟩ := gtinSum_eq_ok.mp summed
    have forwards := List.rel_reverse reads
    rw [List.reverse_reverse] at forwards
    refine ⟨values.reverse ++ [check],List.rel_append forwards (.cons read .nil),?_⟩
    rw [weightedFromRight_concat,List.reverse_reverse]
    exact (check_iff (table.int_le last check read) _).mp matched
  · rintro ⟨values,reads,checked⟩
    have backwards := List.rel_reverse reads
    obtain ⟨reversed,rfl⟩ : ∃ reversed : List ℕ, values = reversed.reverse :=
      ⟨values.reverse,values.reverse_reverse.symm⟩
    rw [List.reverse_reverse,List.reverse_append,List.reverse_singleton,
      List.singleton_append] at backwards
    cases backwards with
    | @cons _ check _ digits read others =>
        rw [List.reverse_cons,weightedFromRight_concat,List.reverse_reverse] at checked
        exact ⟨_,check,gtinSum_eq_ok.mpr ⟨digits,others,rfl⟩,read,
          (check_iff (table.int_le last check read) _).mpr checked⟩

theorem bind_ok {α β : Type} {first : Except Text α} {second : α → Except Text β} {result : β}
    (bound : first.bind second = .ok result) : ∃ value, first = .ok value ∧ second value = .ok result := by
  cases first with
  | error message => cases bound
  | ok value => exact ⟨value,rfl,bound⟩

/-- What is accepted, whatever script the digits are of. -/
theorem normalizeUpc_eq_ok (table : DigitTable runtime) {upc : Column 14} :
    normalizeUpc runtime value = .ok upc ↔
      upc.1 = removeSpacesAnd (text "-") value ∧ upc.1.length ∈ gtinLengths ∧
        ∃ values, Reads runtime upc.1 values ∧ weightedFromRight values % 10 = 0 := by
  have present : ∀ {code : Text}, code.length ∈ gtinLengths → code ≠ [] := by
    rintro code listed rfl
    exact absurd listed (by decide)
  constructor
  · intro normalized
    unfold normalizeUpc at normalized
    dsimp only at normalized
    split at normalized
    · next gtin =>
        obtain ⟨sum,summed,normalized⟩ := bind_ok normalized
        obtain ⟨check,read,normalized⟩ := bind_ok normalized
        split at normalized
        · next matched =>
            cases normalized
            obtain ⟨values,reads,checked⟩ :=
              (checked_iff table (present gtin.2)).mp ⟨sum,check,summed,read,matched⟩
            exact ⟨rfl,gtin.2,values,⟨List.all_eq_true.mp gtin.1,reads⟩,checked⟩
        · cases normalized
    · cases normalized
  · rintro ⟨cleaned,listed,values,reads,checked⟩
    obtain ⟨upc,bound⟩ := upc
    dsimp only at cleaned
    subst cleaned
    obtain ⟨sum,check,summed,read,matched⟩ :=
      (checked_iff table (present listed)).mpr ⟨values,reads.2,checked⟩
    unfold normalizeUpc
    dsimp only
    rw [dif_pos ⟨List.all_eq_true.mpr reads.1,listed⟩,summed,Except.bind,read,Except.bind,
      if_pos matched]

/-- The values of ASCII digits. -/
theorem reads_ascii (table : DigitTable runtime)
    (digits : ∀ character ∈ code, isAsciiDigit character = true) {values : List ℕ} :
    Reads runtime code values ↔ values = code.map fun character => character - 48 := by
  constructor
  · rintro ⟨-,reads⟩
    induction reads with
    | nil => rfl
    | @cons character value rest values read others ih =>
        have first := table.ascii_int character (digits character List.mem_cons_self)
        rw [first] at read
        cases read
        rw [List.map_cons,ih fun other member => digits other (List.mem_cons_of_mem _ member)]
  · rintro rfl
    refine ⟨fun character member => table.ascii_isDigit character (digits character member),?_⟩
    exact List.forall₂_map_right_iff.mpr
      (List.forall₂_same.mpr fun character member => table.ascii_int character (digits character member))

/-- A code of ASCII digits is accepted when it is a GTIN. -/
theorem accepted_ascii_iff (table : DigitTable runtime)
    (digits : ∀ character ∈ removeSpacesAnd (text "-") value, isAsciiDigit character = true) :
    (∃ upc, normalizeUpc runtime value = .ok upc) ↔ IsGtin (removeSpacesAnd (text "-") value) := by
  constructor
  · rintro ⟨upc,normalized⟩
    obtain ⟨cleaned,listed,values,reads,checked⟩ := (normalizeUpc_eq_ok table).mp normalized
    rw [cleaned] at listed reads
    rw [reads_ascii table digits] at reads
    subst reads
    exact ⟨listed,digits,checked⟩
  · intro gtin
    let upc : Column 14 := ⟨removeSpacesAnd (text "-") value,gtinLengths_le gtin.length⟩
    have reads : Reads runtime upc.1 (upc.1.map fun character => character - 48) :=
      (reads_ascii table digits).mpr rfl
    exact ⟨upc,(normalizeUpc_eq_ok table).mpr ⟨rfl,gtin.length,_,reads,gtin.checked⟩⟩

theorem isAsciiDigit_iff {character : ℕ} : isAsciiDigit character = true ↔
    48 ≤ character ∧ character ≤ 57 := by
  simp [isAsciiDigit]

/-- Whitespace and hyphens are no digits. -/
theorem asciiDigit_kept {character : CodePoint} (digit : isAsciiDigit character = true) :
    (!(Text.isSpace character || (text "-").contains character)) = true := by
  have plain : ∀ character < 58, isAsciiDigit character = true →
      (!(Text.isSpace character || (text "-").contains character)) = true := by decide
  exact plain character (Nat.lt_succ_of_le (isAsciiDigit_iff.mp digit).2) digit

theorem removeSpacesAnd_middle (before after : Text) {digit : CodePoint}
    (ascii : isAsciiDigit digit = true) :
    removeSpacesAnd (text "-") (before ++ digit :: after) =
      removeSpacesAnd (text "-") before ++ digit :: removeSpacesAnd (text "-") after := by
  let kept := fun character : CodePoint => !(Text.isSpace character || (text "-").contains character)
  have digitKept : kept digit = true := asciiDigit_kept ascii
  change (before ++ digit :: after).filter kept = before.filter kept ++ digit :: after.filter kept
  rw [List.filter_append,List.filter_cons_of_pos digitKept]

theorem IsGtin.unchanged {before after : Text} {digit other : ℕ}
    (first : IsGtin (before ++ digit :: after)) (second : IsGtin (before ++ other :: after)) :
    digit = other := by
  have digitBound := isAsciiDigit_iff.mp (first.digits digit (by simp))
  have otherBound := isAsciiDigit_iff.mp (second.digits other (by simp))
  have firstChecked := first.checked
  have secondChecked := second.checked
  rw [List.map_append,List.map_cons] at firstChecked secondChecked
  have values := same_of_weighted (by omega) (by omega) firstChecked secondChecked
  omega

/-- What is claimed of a value: it is accepted when its digits are a GTIN, the result has these
digits, and with another digit in the place of one of them it is rejected. -/
structure AcceptsGtin (runtime : Runtime) (value : Text) : Prop where
  accepted : (∃ upc, normalizeUpc runtime value = .ok upc) ↔
    IsGtin (removeSpacesAnd (text "-") value)
  digits : ∀ upc, normalizeUpc runtime value = .ok upc → upc.1 = removeSpacesAnd (text "-") value
  changed : ∀ upc, normalizeUpc runtime value = .ok upc →
    ∀ before digit after, value = before ++ digit :: after → isAsciiDigit digit = true →
      ∀ other, isAsciiDigit other = true → other ≠ digit →
        ∀ result, normalizeUpc runtime (before ++ other :: after) ≠ .ok result

/-- A code of the digits of another script is accepted like its copy in ASCII. -/
theorem IsForeignGtin.accepted (table : DigitTable runtime)
    (code : IsForeignGtin runtime (removeSpacesAnd (text "-") value)) :
    ∃ upc, normalizeUpc runtime value = .ok upc := by
  obtain ⟨values,reads,checked⟩ := code.checked
  let upc : Column 14 := ⟨removeSpacesAnd (text "-") value,gtinLengths_le code.length⟩
  exact ⟨upc,(normalizeUpc_eq_ok table).mpr ⟨rfl,code.length,values,reads,checked⟩⟩

/-- What else is accepted is of ASCII digits. -/
theorem ascii_of_accepted (table : DigitTable runtime) {upc : Column 14}
    (normalized : normalizeUpc runtime value = .ok upc)
    (local_ : ¬IsForeignGtin runtime (removeSpacesAnd (text "-") value)) :
    ∀ character ∈ removeSpacesAnd (text "-") value, isAsciiDigit character = true := by
  obtain ⟨cleaned,listed,values,reads,checked⟩ := (normalizeUpc_eq_ok table).mp normalized
  rw [cleaned] at listed reads
  intro character member
  by_contra foreign
  rw [Bool.not_eq_true] at foreign
  exact local_ ⟨listed,⟨character,member,foreign⟩,values,reads,checked⟩

/-- A changed digit is noticed in a code of ASCII digits. -/
theorem rejected_of_changed (table : DigitTable runtime) {before after : Text}
    {digit other : CodePoint} {upc result : Column 14}
    (normalized : normalizeUpc runtime (before ++ digit :: after) = .ok upc)
    (digits : ∀ character ∈ removeSpacesAnd (text "-") (before ++ digit :: after),
      isAsciiDigit character = true)
    (ascii : isAsciiDigit digit = true) (otherAscii : isAsciiDigit other = true)
    (different : other ≠ digit) :
    normalizeUpc runtime (before ++ other :: after) ≠ .ok result := by
  intro again
  have first := (accepted_ascii_iff table digits).mp ⟨upc,normalized⟩
  rw [removeSpacesAnd_middle before after ascii] at first digits
  have changed : ∀ character ∈ removeSpacesAnd (text "-") (before ++ other :: after),
      isAsciiDigit character = true := by
    intro character member
    rw [removeSpacesAnd_middle before after otherAscii] at member
    rcases List.mem_append.mp member with early | late
    · exact digits character (List.mem_append_left _ early)
    · rcases List.mem_cons.mp late with rfl | later
      · exact otherAscii
      · exact digits character (List.mem_append_right _ (List.mem_cons_of_mem _ later))
  have second := (accepted_ascii_iff table changed).mp ⟨result,again⟩
  rw [removeSpacesAnd_middle before after otherAscii] at second
  exact different (first.unchanged second).symm

/-- Exactly the GTINs of ASCII digits are accepted, apart from those of other scripts. -/
theorem acceptsGtin_iff (runtime : Runtime) (table : DigitTable runtime) (value : Text) :
    AcceptsGtin runtime value ↔ ¬IsForeignGtin runtime (removeSpacesAnd (text "-") value) := by
  constructor
  · intro accepts foreign
    obtain ⟨character,member,other⟩ := foreign.foreign
    have gtin := accepts.accepted.mp (foreign.accepted table)
    rw [gtin.digits character member] at other
    cases other
  · intro local_
    refine ⟨?_,fun upc normalized => ((normalizeUpc_eq_ok table).mp normalized).1,?_⟩
    · constructor
      · rintro ⟨upc,normalized⟩
        exact (accepted_ascii_iff table (ascii_of_accepted table normalized local_)).mp
          ⟨upc,normalized⟩
      · intro gtin
        exact (accepted_ascii_iff table gtin.digits).mpr gtin
    · rintro upc normalized before digit after rfl ascii other otherAscii different result
      exact rejected_of_changed table normalized (ascii_of_accepted table normalized local_) ascii
        otherAscii different

end Codes

namespace Sample

def isArabicDigit (character : CodePoint) : Bool := 0x660 ≤ character && character ≤ 0x669

/-- An interpreter that knows the digits of two scripts. -/
def arabicRuntime : Runtime :=
  { runtime with
    isDigit := fun character => isAsciiDigit character || isArabicDigit character
    int := fun character =>
      if isAsciiDigit character then .ok (character - 48)
      else if isArabicDigit character then .ok (character - 0x660)
      else .error (text "invalid literal for int() with base 10") }

theorem arabicDigit_sub_le {character : ℕ} (digit : isArabicDigit character = true) :
    character - 0x660 ≤ 9 := by
  simp only [isArabicDigit,Bool.and_eq_true,decide_eq_true_eq] at digit
  have bound : character ≤ 1641 := digit.2
  omega

theorem arabicRuntime_digits : DigitTable arabicRuntime where
  ascii_isDigit character ascii := by simp [arabicRuntime,ascii]
  ascii_int character ascii := by simp [arabicRuntime,ascii]
  int_le character value read := by
    unfold arabicRuntime at read
    dsimp only at read
    split at read
    · next ascii =>
        have bounds := isAsciiDigit_iff.mp ascii
        cases read
        exact Nat.sub_le_of_le_add bounds.2
    · split at read
      · next arabic =>
          exact Except.ok.inj read ▸ arabicDigit_sub_le arabic
      · cases read

/-- 12345670 in Arabic-Indic digits. -/
def arabicCode : Text := [0x661,0x662,0x663,0x664,0x665,0x666,0x667,0x660]

theorem arabicCode_foreign : IsForeignGtin arabicRuntime (removeSpacesAnd (text "-") arabicCode) where
  length := by decide
  foreign := ⟨0x661,by decide,by decide⟩
  checked := ⟨[1,2,3,4,5,6,7,0],⟨by decide,by repeat' constructor⟩,by decide⟩

theorem asciiCode_local :
    ¬IsForeignGtin arabicRuntime (removeSpacesAnd (text "-") (text "1234-5670")) := by
  intro code
  obtain ⟨character,member,foreign⟩ := code.foreign
  have ascii : ∀ character ∈ removeSpacesAnd (text "-") (text "1234-5670"),
      isAsciiDigit character = true := by decide
  rw [ascii character member] at foreign
  cases foreign

end Sample

theorem foreign_gtin_accepted : DigitTable Sample.arabicRuntime ∧
    (∃ upc, normalizeUpc Sample.arabicRuntime Sample.arabicCode = .ok upc) ∧
      ¬AcceptsGtin Sample.arabicRuntime Sample.arabicCode := by
  refine ⟨Sample.arabicRuntime_digits,Sample.arabicCode_foreign.accepted Sample.arabicRuntime_digits,?_⟩
  intro accepts
  have gtin := accepts.accepted.mp (Sample.arabicCode_foreign.accepted Sample.arabicRuntime_digits)
  exact absurd (gtin.digits 0x661 (by decide)) (by decide)

theorem acceptsGtin_iff_sample : DigitTable Sample.arabicRuntime ∧
    AcceptsGtin Sample.arabicRuntime (text "1234-5670") :=
  ⟨Sample.arabicRuntime_digits,
    (acceptsGtin_iff Sample.arabicRuntime Sample.arabicRuntime_digits (text "1234-5670")).mpr
      Sample.asciiCode_local⟩

end Abacus.Catalog
