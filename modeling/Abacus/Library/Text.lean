import Mathlib.Data.List.Basic
import Mathlib.Data.List.Lex
import Mathlib.Order.Basic

/-! Text as Python sees it.
A `str` is the list of its code points. Text that was decoded has no surrogates, but a
JSON escape can put unpaired ones into it.
-/
set_option autoImplicit false

namespace Python

abbrev CodePoint := ℕ

abbrev Text := List CodePoint

def text (literal : String) : Text := literal.toList.map Char.toNat

namespace Text

/-- `str.isspace` of one character, and `\s` in a pattern. -/
def isSpace (character : CodePoint) : Bool :=
  (9 ≤ character && character ≤ 13) || (28 ≤ character && character ≤ 32) ||
    (0x2000 ≤ character && character ≤ 0x200A) ||
    [0x85,0xA0,0x1680,0x2028,0x2029,0x202F,0x205F,0x3000].contains character

/-- `str.strip()`. -/
def strip (value : Text) : Text := (value.dropWhile isSpace).reverse.dropWhile isSpace |>.reverse

/-- `str.split()`, for which `word` is what the current word already has. -/
def wordsFrom (word : Text) : Text → List Text
  | [] => if word = [] then [] else [word]
  | character :: rest =>
      if isSpace character then
        if word = [] then wordsFrom [] rest else word :: wordsFrom [] rest
      else wordsFrom (word ++ [character]) rest

def words (value : Text) : List Text := wordsFrom [] value

def isPrefixOf (start value : Text) : Bool := List.isPrefixOf start value

/-- The bytes that a character takes in UTF-8. -/
def utf8Size (character : CodePoint) : ℕ :=
  if character < 0x80 then 1
  else if character < 0x800 then 2
  else if character < 0x10000 then 3
  else 4

/-- The lines of `StringIO(value, newline="")`, each with its own line end. -/
def linesFrom (line : Text) : Text → List Text
  | [] => if line = [] then [] else [line]
  | 13 :: 10 :: rest => (line ++ [13,10]) :: linesFrom [] rest
  | 13 :: rest => (line ++ [13]) :: linesFrom [] rest
  | 10 :: rest => (line ++ [10]) :: linesFrom [] rest
  | character :: rest => linesFrom (line ++ [character]) rest

def lines (value : Text) : List Text := linesFrom [] value

section Strip

theorem filter_dropWhile {p kept : CodePoint → Bool}
    (dropped : ∀ character, p character = true → kept character = false) (value : Text) :
    (value.dropWhile p).filter kept = value.filter kept := by
  induction value with
  | nil => rfl
  | cons character rest ih =>
      by_cases first : p character = true
      · rw [List.dropWhile_cons_of_pos first,ih,
          List.filter_cons_of_neg (by simp [dropped character first])]
      · rw [List.dropWhile_cons_of_neg first]

/-- A filter that drops all whitespace does not see whether the text was stripped. -/
theorem filter_strip {kept : CodePoint → Bool}
    (spaces : ∀ character, isSpace character = true → kept character = false) (value : Text) :
    value.strip.filter kept = value.filter kept := by
  rw [strip,List.filter_reverse,filter_dropWhile spaces,← List.filter_reverse,List.reverse_reverse,
    filter_dropWhile spaces]

theorem dropWhile_of_no_spaces {value : Text}
    (visible : ∀ character ∈ value, isSpace character = false) : value.dropWhile isSpace = value := by
  cases value with
  | nil => rfl
  | cons character rest =>
      have first := visible character List.mem_cons_self
      rw [List.dropWhile_cons_of_neg (by simp [first])]

theorem strip_of_no_spaces {value : Text}
    (visible : ∀ character ∈ value, isSpace character = false) : value.strip = value := by
  have reversed : ∀ character ∈ value.reverse, isSpace character = false :=
    fun character member => visible character (List.mem_reverse.mp member)
  rw [strip,dropWhile_of_no_spaces visible,dropWhile_of_no_spaces reversed,List.reverse_reverse]

end Strip

/-- The lines are the text. -/
theorem flatten_linesFrom (line value : Text) : (linesFrom line value).flatten = line ++ value := by
  induction line, value using linesFrom.induct with
  | case1 => rfl
  | case2 line present => simp [linesFrom,present]
  | case3 line rest ih => simp [linesFrom,ih]
  | case4 line rest other ih =>
      rw [linesFrom]
      · simp [ih]
      · exact other
  | case5 line rest ih => simp [linesFrom,ih]
  | case6 line character rest other notReturn notFeed ih =>
      rw [linesFrom]
      · simp [ih]
      · exact other
      · exact notReturn
      · exact notFeed

end Text

section Utf8

/-- A character that still owes bytes, the next of them between `low` and `high`. -/
structure Pending where
  start : ℕ
  owed : ℕ
  low : ℕ
  high : ℕ
  value : ℕ

/-- What the first byte of a longer sequence says about the rest. -/
def leadByte (position byte : ℕ) : Option Pending :=
  if 0xC2 ≤ byte ∧ byte ≤ 0xDF then some ⟨position,1,0x80,0xBF,byte - 0xC0⟩
  else if byte = 0xE0 then some ⟨position,2,0xA0,0xBF,0⟩
  else if byte = 0xED then some ⟨position,2,0x80,0x9F,0xD⟩
  else if 0xE1 ≤ byte ∧ byte ≤ 0xEF then some ⟨position,2,0x80,0xBF,byte - 0xE0⟩
  else if byte = 0xF0 then some ⟨position,3,0x90,0xBF,0⟩
  else if 0xF1 ≤ byte ∧ byte ≤ 0xF3 then some ⟨position,3,0x80,0xBF,byte - 0xF0⟩
  else if byte = 0xF4 then some ⟨position,3,0x80,0x8F,4⟩
  else none

/-- `bytes.decode("utf-8")`, or the offset of the first sequence that is not valid. -/
def decodeUtf8 (position : ℕ) (pending : Option Pending) : List UInt8 → Except ℕ Text
  | [] =>
      match pending with
      | none => .ok []
      | some waiting => .error waiting.start
  | byte :: bytes =>
      match pending with
      | none =>
          if byte.toNat < 0x80 then
            (decodeUtf8 (position + 1) none bytes).map fun rest => byte.toNat :: rest
          else
            match leadByte position byte.toNat with
            | none => .error position
            | some waiting => decodeUtf8 (position + 1) (some waiting) bytes
      | some waiting =>
          if waiting.low ≤ byte.toNat ∧ byte.toNat ≤ waiting.high then
            let value := waiting.value * 0x40 + (byte.toNat - 0x80)
            if waiting.owed = 1 then
              (decodeUtf8 (position + 1) none bytes).map fun rest => value :: rest
            else
              decodeUtf8 (position + 1)
                (some ⟨waiting.start,waiting.owed - 1,0x80,0xBF,value⟩) bytes
          else .error waiting.start

/-- `bytes.decode("utf-8-sig")`: a byte order mark at the start is no character. -/
def decodeUtf8Sig (content : List UInt8) : Except ℕ Text :=
  match content with
  | 0xEF :: 0xBB :: 0xBF :: rest => decodeUtf8 0 none rest
  | _ => decodeUtf8 0 none content

end Utf8

section Surrogates

/-- Half of a surrogate pair, which is no character of its own. -/
def IsSurrogate (character : ℕ) : Prop := 0xD800 ≤ character ∧ character ≤ 0xDFFF

def Scalars (least greatest : ℕ) : Prop := greatest < 0xD800 ∨ 0xDFFF < least

/-- None of the characters that the owed bytes can complete is a surrogate. -/
inductive Pending.Safe : Pending → Prop where
  | last {start low high value : ℕ} : 0x80 ≤ low → high ≤ 0xBF →
      Scalars (value * 0x40 + (low - 0x80)) (value * 0x40 + (high - 0x80)) →
        Safe ⟨start,1,low,high,value⟩
  | two {start low high value : ℕ} : 0x80 ≤ low → high ≤ 0xBF →
      Scalars ((value * 0x40 + (low - 0x80)) * 0x40)
        ((value * 0x40 + (high - 0x80)) * 0x40 + 0x3F) → Safe ⟨start,2,low,high,value⟩
  | three {start low high value : ℕ} : 0x80 ≤ low → high ≤ 0xBF →
      Scalars ((value * 0x40 + (low - 0x80)) * 0x1000)
        ((value * 0x40 + (high - 0x80)) * 0x1000 + 0xFFF) → Safe ⟨start,3,low,high,value⟩

theorem leadByte_safe {position byte : ℕ} {pending : Pending}
    (lead : leadByte position byte = some pending) : pending.Safe := by
  unfold leadByte at lead
  split at lead
  · cases lead
    exact .last (by decide) (by decide) (.inl (by omega))
  · split at lead
    · cases lead
      exact .two (by decide) (by decide) (.inl (by decide))
    · split at lead
      · cases lead
        exact .two (by decide) (by decide) (.inl (by decide))
      · split at lead
        · cases lead
          exact .two (by decide) (by decide) (by unfold Scalars; omega)
        · split at lead
          · cases lead
            exact .three (by decide) (by decide) (.inr (by decide))
          · split at lead
            · cases lead
              exact .three (by decide) (by decide) (.inr (by omega))
            · split at lead
              · cases lead
                exact .three (by decide) (by decide) (.inr (by decide))
              · cases lead

/-- The byte that completes a character does not make it a surrogate. -/
theorem Pending.Safe.complete {pending : Pending} (safe : pending.Safe) (last : pending.owed = 1)
    {byte : ℕ} (low : pending.low ≤ byte) (high : byte ≤ pending.high) :
    ¬IsSurrogate (pending.value * 0x40 + (byte - 0x80)) := by
  cases safe with
  | last above below scalars =>
      dsimp only at low high ⊢
      unfold Scalars at scalars
      unfold IsSurrogate
      omega
  | two => cases last
  | three => cases last

/-- Another byte leaves fewer characters to complete. -/
theorem Pending.Safe.next {pending : Pending} (safe : pending.Safe) (more : pending.owed ≠ 1)
    {byte : ℕ} (low : pending.low ≤ byte) (high : byte ≤ pending.high) :
    (Pending.mk pending.start (pending.owed - 1) 0x80 0xBF
      (pending.value * 0x40 + (byte - 0x80))).Safe := by
  cases safe with
  | last => exact absurd rfl more
  | two above below scalars =>
      dsimp only at low high ⊢
      refine .last (by decide) (by decide) ?_
      unfold Scalars at scalars ⊢
      omega
  | three above below scalars =>
      dsimp only at low high ⊢
      refine .two (by decide) (by decide) ?_
      unfold Scalars at scalars ⊢
      omega

theorem decodeUtf8_scalars {position : ℕ} {pending : Option Pending} {bytes : List UInt8}
    {decoded : Text} (decoding : decodeUtf8 position pending bytes = .ok decoded)
    (safe : ∀ waiting ∈ pending, waiting.Safe) : ∀ character ∈ decoded, ¬IsSurrogate character := by
  induction bytes generalizing position pending decoded with
  | nil =>
      cases pending with
      | none =>
          cases decoding
          exact fun _ member => nomatch member
      | some waiting => cases decoding
  | cons byte bytes ih =>
      have consed : ∀ {first : ℕ}, ¬IsSurrogate first →
          (decodeUtf8 (position + 1) none bytes).map (fun rest => first :: rest) = .ok decoded →
            ∀ character ∈ decoded, ¬IsSurrogate character := by
        intro first scalar decoding
        cases rest : decodeUtf8 (position + 1) none bytes with
        | error offset =>
            rw [rest] at decoding
            cases decoding
        | ok later =>
            rw [rest] at decoding
            cases decoding
            exact List.forall_mem_cons.mpr ⟨scalar,ih rest fun _ waiting => nomatch waiting⟩
      cases pending with
      | none =>
          simp only [decodeUtf8] at decoding
          split at decoding
          · next ascii =>
              refine consed ?_ decoding
              simp only [IsSurrogate]
              omega
          · split at decoding
            · cases decoding
            · next waiting lead =>
                refine ih decoding ?_
                rintro _ ⟨⟩
                exact leadByte_safe lead
      | some waiting =>
          have known := safe waiting rfl
          simp only [decodeUtf8] at decoding
          split at decoding
          · next within =>
              split at decoding
              · next last => exact consed (known.complete last within.1 within.2) decoding
              · next more =>
                  refine ih decoding ?_
                  rintro _ ⟨⟩
                  exact known.next more within.1 within.2
          · cases decoding

/-- Decoded text has characters only. -/
theorem decodeUtf8Sig_scalars {content : List UInt8} {decoded : Text}
    (decoding : decodeUtf8Sig content = .ok decoded) :
    ∀ character ∈ decoded, ¬IsSurrogate character := by
  unfold decodeUtf8Sig at decoding
  split at decoding
  · exact decodeUtf8_scalars decoding fun _ waiting => nomatch waiting
  · exact decodeUtf8_scalars decoding fun _ waiting => nomatch waiting

end Surrogates

end Python
