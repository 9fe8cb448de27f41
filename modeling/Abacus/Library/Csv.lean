import Abacus.Library.Text
import Mathlib.Data.Nat.Basic

/-! The reader of Python's `csv` module, with its default dialect and `strict=True`.
It reads a line at a time, and a record may take several lines when a quoted field holds
a line end. `lineNumber` counts the lines that were read, as `line_num` does.
-/
set_option autoImplicit false

namespace Csv

open Python (CodePoint Text text)

inductive State where
  | startRecord
  | startField
  | inField
  | inQuotedField
  | quoteInQuotedField
  | eatCrNl
deriving DecidableEq, Repr

structure Parser where
  state : State := .startRecord
  field : Text := []
  fields : List Text := []

def delimiter : CodePoint := 44

def quote : CodePoint := 34

/-- `csv.field_size_limit()`. -/
def fieldLimit : ℕ := 131072

namespace Parser

def saveField (parser : Parser) (state : State) : Parser where
  state := state
  field := []
  fields := parser.fields ++ [parser.field]

def addChar (parser : Parser) (character : CodePoint) (state : State) : Except Text Parser :=
  if fieldLimit ≤ parser.field.length then .error (text "field larger than field limit (131072)")
  else .ok { parser with field := parser.field ++ [character], state := state }

def lineEnd (character : Option CodePoint) : Bool :=
  character = none || character = some 10 || character = some 13

/-- Where a record ends: at the end of its line at once, else before the rest of the line end. -/
def afterRecord (character : Option CodePoint) : State :=
  if character = none then .startRecord else .eatCrNl

def startField (parser : Parser) (character : Option CodePoint) : Except Text Parser :=
  if lineEnd character then .ok (parser.saveField (afterRecord character))
  else if character = some quote then .ok { parser with state := .inQuotedField }
  else if character = some delimiter then .ok (parser.saveField .startField)
  else parser.addChar (character.getD 0) .inField

/-- One character of a line, or `none` for the end of the line. -/
def process (parser : Parser) (character : Option CodePoint) : Except Text Parser :=
  match parser.state with
  | .startRecord =>
      if character = none then .ok parser
      else if lineEnd character then .ok { parser with state := .eatCrNl }
      else startField parser character
  | .startField => startField parser character
  | .inField =>
      if lineEnd character then .ok (parser.saveField (afterRecord character))
      else if character = some delimiter then .ok (parser.saveField .startField)
      else parser.addChar (character.getD 0) .inField
  | .inQuotedField =>
      if character = none then .ok parser
      else if character = some quote then .ok { parser with state := .quoteInQuotedField }
      else parser.addChar (character.getD 0) .inQuotedField
  | .quoteInQuotedField =>
      if character = some quote then parser.addChar quote .inQuotedField
      else if character = some delimiter then .ok (parser.saveField .startField)
      else if lineEnd character then .ok (parser.saveField (afterRecord character))
      else .error (text "',' expected after '" ++ [quote] ++ text "'")
  | .eatCrNl =>
      if character = none then .ok { parser with state := .startRecord }
      else if lineEnd character then .ok parser
      else .error (text ("new-line character seen in unquoted field - " ++
        "do you need to open the file with newline=''?"))

def processLine (parser : Parser) : Text → Except Text Parser
  | [] => parser.process none
  | character :: rest =>
      match parser.process (some character) with
      | .error message => .error message
      | .ok after => after.processLine rest

end Parser

structure Record where
  lineNumber : ℕ
  values : List Text

structure Failure where
  lineNumber : ℕ
  message : Text

/-- What a reader yields, and the `csv.Error` that ended it. -/
structure Reading where
  records : List Record
  failure : Option Failure

def Reading.cons (record : Record) (rest : Reading) : Reading :=
  { rest with records := record :: rest.records }

def readLines (parser : Parser) (lineNumber : ℕ) : List Text → Reading
  | [] =>
      if parser.field ≠ [] ∨ parser.state = .inQuotedField then
        ⟨[],some ⟨lineNumber,text "unexpected end of data"⟩⟩
      else ⟨[],none⟩
  | line :: lines =>
      match parser.processLine line with
      | .error message => ⟨[],some ⟨lineNumber + 1,message⟩⟩
      | .ok after =>
          if after.state = .startRecord then
            (readLines {} (lineNumber + 1) lines).cons ⟨lineNumber + 1,after.fields⟩
          else readLines after (lineNumber + 1) lines

/-- `csv.reader(io.StringIO(content, newline=""), strict=True)`, read to its end. -/
def read (content : Text) : Reading := readLines {} 0 content.lines

/-- Every record of a reading ends after the line that the reading starts at. -/
theorem lineNumber_readLines {parser : Parser} {start : ℕ} {lines : List Text} {record : Record}
    (member : record ∈ (readLines parser start lines).records) : start < record.lineNumber := by
  induction lines generalizing parser start with
  | nil =>
      simp only [readLines] at member
      split at member <;> cases member
  | cons line lines ih =>
      simp only [readLines] at member
      cases parsed : parser.processLine line with
      | error message =>
          rw [parsed] at member
          cases member
      | ok after =>
          rw [parsed] at member
          dsimp only at member
          split at member
          · rcases List.mem_cons.mp member with rfl | later
            · exact Nat.lt_succ_self start
            · exact (Nat.lt_succ_self start).trans (ih later)
          · exact (Nat.lt_succ_self start).trans (ih member)

theorem lineNumbers_increase (parser : Parser) (start : ℕ) (lines : List Text) :
    (readLines parser start lines).records.Pairwise fun earlier later =>
      earlier.lineNumber < later.lineNumber := by
  induction lines generalizing parser start with
  | nil =>
      simp only [readLines]
      split <;> exact .nil
  | cons line lines ih =>
      simp only [readLines]
      cases parsed : parser.processLine line with
      | error message => exact .nil
      | ok after =>
          dsimp only
          split
          · exact .cons (fun record member => lineNumber_readLines member) (ih {} (start + 1))
          · exact ih after (start + 1)

/-- The line of a failure was read after the line that the reading starts at, unless a record
was open there. -/
theorem lineNumber_failure {parser : Parser} {start : ℕ} {lines : List Text} {failure : Failure}
    (failed : (readLines parser start lines).failure = some failure) :
    start ≤ failure.lineNumber ∧ (parser = {} → start < failure.lineNumber) := by
  induction lines generalizing parser start with
  | nil =>
      simp only [readLines] at failed
      split at failed
      · rename_i unfinished
        cases failed
        refine ⟨le_rfl,?_⟩
        rintro rfl
        simp at unfinished
      · cases failed
  | cons line lines ih =>
      have later : ∀ {after : Parser},
          (readLines after (start + 1) lines).failure = some failure → start < failure.lineNumber :=
        fun failed => (Nat.lt_succ_self start).trans_le (ih failed).1
      simp only [readLines] at failed
      cases parsed : parser.processLine line with
      | error message =>
          rw [parsed] at failed
          cases failed
          exact ⟨Nat.le_succ start,fun _ => Nat.lt_succ_self start⟩
      | ok after =>
          rw [parsed] at failed
          dsimp only at failed
          split at failed
          · exact ⟨(later failed).le,fun _ => later failed⟩
          · exact ⟨(later failed).le,fun _ => later failed⟩

/-- A failure is on a line after those of all records. -/
theorem lineNumber_lt_failure {parser : Parser} {start : ℕ} {lines : List Text} {failure : Failure}
    (failed : (readLines parser start lines).failure = some failure) {record : Record}
    (member : record ∈ (readLines parser start lines).records) :
    record.lineNumber < failure.lineNumber := by
  induction lines generalizing parser start with
  | nil =>
      simp only [readLines] at member
      split at member <;> cases member
  | cons line lines ih =>
      simp only [readLines] at failed member
      cases parsed : parser.processLine line with
      | error message =>
          rw [parsed] at member
          cases member
      | ok after =>
          rw [parsed] at failed member
          dsimp only at failed member
          split at member
          · rename_i complete
            rw [if_pos complete] at failed
            rcases List.mem_cons.mp member with rfl | later
            · exact (lineNumber_failure failed).2 rfl
            · exact ih failed later
          · rename_i incomplete
            rw [if_neg incomplete] at failed
            exact ih failed member

section Characters

variable {Allowed : CodePoint → Prop}

structure Parser.Keeps (Allowed : CodePoint → Prop) (parser : Parser) : Prop where
  field : ∀ character ∈ parser.field, Allowed character
  fields : ∀ field ∈ parser.fields, ∀ character ∈ field, Allowed character

namespace Parser

variable {parser after : Parser} {message : Text}

theorem Keeps.state (keeps : parser.Keeps Allowed) (state : State) :
    ({ parser with state := state } : Parser).Keeps Allowed := ⟨keeps.field,keeps.fields⟩

theorem Keeps.saveField (keeps : parser.Keeps Allowed) (state : State) :
    (parser.saveField state).Keeps Allowed := by
  refine ⟨nofun,?_⟩
  intro field member
  rcases List.mem_append.mp member with earlier | last
  · exact keeps.fields field earlier
  · rw [List.mem_singleton.mp last]
    exact keeps.field

theorem Keeps.addChar (keeps : parser.Keeps Allowed) {character : CodePoint} {state : State}
    (allowed : Allowed character) (added : parser.addChar character state = .ok after) :
    after.Keeps Allowed := by
  unfold Parser.addChar at added
  split at added
  · cases added
  · cases added
    refine ⟨?_,keeps.fields⟩
    intro other member
    rcases List.mem_append.mp member with earlier | last
    · exact keeps.field other earlier
    · rw [List.mem_singleton.mp last]
      exact allowed

theorem Keeps.startField (keeps : parser.Keeps Allowed) {character : Option CodePoint}
    (allowed : ∀ present ∈ character, Allowed present)
    (started : parser.startField character = .ok after) : after.Keeps Allowed := by
  unfold Parser.startField at started
  cases character with
  | none =>
      cases started
      exact keeps.saveField _
  | some present =>
      split at started
      · cases started
        exact keeps.saveField _
      · split at started
        · cases started
          exact keeps.state _
        · split at started
          · cases started
            exact keeps.saveField _
          · exact keeps.addChar (allowed present rfl) started

theorem Keeps.process (keeps : parser.Keeps Allowed) {character : Option CodePoint}
    (allowed : ∀ present ∈ character, Allowed present)
    (processed : parser.process character = .ok after) : after.Keeps Allowed := by
  unfold Parser.process at processed
  cases character with
  | none =>
      cases entered : parser.state <;> rw [entered] at processed <;> dsimp only at processed
      · cases processed
        exact keeps
      · exact keeps.startField allowed processed
      · cases processed
        exact keeps.saveField _
      · cases processed
        exact keeps
      · cases processed
        exact keeps.saveField _
      · cases processed
        exact keeps.state _
  | some present =>
      have shown := allowed present rfl
      cases entered : parser.state <;> rw [entered] at processed <;> dsimp only at processed
      · rw [if_neg (by simp)] at processed
        split at processed
        · cases processed
          exact keeps.state _
        · exact keeps.startField allowed processed
      · exact keeps.startField allowed processed
      · split at processed
        · cases processed
          exact keeps.saveField _
        · split at processed
          · cases processed
            exact keeps.saveField _
          · exact keeps.addChar shown processed
      · rw [if_neg (by simp)] at processed
        split at processed
        · cases processed
          exact keeps.state _
        · exact keeps.addChar shown processed
      · split at processed
        · next quoted =>
            cases quoted
            exact keeps.addChar shown processed
        · split at processed
          · cases processed
            exact keeps.saveField _
          · split at processed
            · cases processed
              exact keeps.saveField _
            · cases processed
      · rw [if_neg (by simp)] at processed
        split at processed
        · cases processed
          exact keeps
        · cases processed

theorem Keeps.processLine (keeps : parser.Keeps Allowed) {line : Text}
    (allowed : ∀ character ∈ line, Allowed character)
    (processed : parser.processLine line = .ok after) : after.Keeps Allowed := by
  induction line generalizing parser with
  | nil => exact keeps.process (by simp) processed
  | cons character rest ih =>
      rw [Parser.processLine] at processed
      cases first : parser.process (some character) with
      | error message =>
          rw [first] at processed
          cases processed
      | ok middle =>
          rw [first] at processed
          have shown := List.forall_mem_cons.mp allowed
          have kept := keeps.process (fun present same => Option.some.inj same ▸ shown.1) first
          exact ih kept shown.2 processed

end Parser

/-- The values of the records have no other characters than the lines. -/
theorem readLines_characters {parser : Parser} {lineNumber : ℕ} {lines : List Text}
    (keeps : parser.Keeps Allowed) (allowed : ∀ line ∈ lines, ∀ character ∈ line, Allowed character) :
    ∀ record ∈ (readLines parser lineNumber lines).records, ∀ value ∈ record.values,
      ∀ character ∈ value, Allowed character := by
  induction lines generalizing parser lineNumber with
  | nil =>
      rw [readLines]
      split <;> exact nofun
  | cons line lines ih =>
      obtain ⟨here,later⟩ := List.forall_mem_cons.mp allowed
      rw [readLines]
      cases processed : parser.processLine line with
      | error message => exact nofun
      | ok after =>
          have kept := keeps.processLine here processed
          dsimp only
          split
          · have start : ({} : Parser).Keeps Allowed :=
              ⟨nofun,nofun⟩
            exact List.forall_mem_cons.mpr ⟨kept.fields,ih start later⟩
          · exact ih kept later

/-- The values of the records have no other characters than the text. -/
theorem read_characters {content : Text} (allowed : ∀ character ∈ content, Allowed character) :
    ∀ record ∈ (read content).records, ∀ value ∈ record.values,
      ∀ character ∈ value, Allowed character := by
  have start : ({} : Parser).Keeps Allowed := ⟨nofun,nofun⟩
  refine readLines_characters start ?_
  intro line member character inside
  have flat : character ∈ content.lines.flatten := List.mem_flatten.mpr ⟨line,member,inside⟩
  rw [Text.lines,Text.flatten_linesFrom,List.nil_append] at flat
  exact allowed character flat

end Characters

section Messages

def messages : List Text :=
  [text "field larger than field limit (131072)",
   text "',' expected after '" ++ [quote] ++ text "'",
   text ("new-line character seen in unquoted field - " ++
     "do you need to open the file with newline=''?"),
   text "unexpected end of data"]

namespace Parser

variable {parser : Parser} {message : Text}

theorem addChar_message {character : CodePoint} {state : State}
    (failed : parser.addChar character state = .error message) : message ∈ messages := by
  unfold Parser.addChar at failed
  split at failed
  · cases failed
    simp [messages]
  · cases failed

theorem startField_message {character : Option CodePoint}
    (failed : parser.startField character = .error message) : message ∈ messages := by
  unfold Parser.startField at failed
  split at failed
  · cases failed
  · split at failed
    · cases failed
    · split at failed
      · cases failed
      · exact addChar_message failed

theorem process_message {character : Option CodePoint}
    (failed : parser.process character = .error message) : message ∈ messages := by
  unfold Parser.process at failed
  cases entered : parser.state with
  | startRecord =>
      rw [entered] at failed
      dsimp only at failed
      split at failed
      · cases failed
      · split at failed
        · cases failed
        · exact startField_message failed
  | startField =>
      rw [entered] at failed
      exact startField_message failed
  | inField =>
      rw [entered] at failed
      dsimp only at failed
      split at failed
      · cases failed
      · split at failed
        · cases failed
        · exact addChar_message failed
  | inQuotedField =>
      rw [entered] at failed
      dsimp only at failed
      split at failed
      · cases failed
      · split at failed
        · cases failed
        · exact addChar_message failed
  | quoteInQuotedField =>
      rw [entered] at failed
      dsimp only at failed
      split at failed
      · exact addChar_message failed
      · split at failed
        · cases failed
        · split at failed
          · cases failed
          · cases failed
            simp [messages]
  | eatCrNl =>
      rw [entered] at failed
      dsimp only at failed
      split at failed
      · cases failed
      · split at failed
        · cases failed
        · cases failed
          simp [messages]

theorem processLine_message {line : Text} (failed : parser.processLine line = .error message) :
    message ∈ messages := by
  induction line generalizing parser with
  | nil => exact process_message failed
  | cons character rest ih =>
      rw [processLine] at failed
      cases first : parser.process (some character) with
      | error message =>
          rw [first] at failed
          cases failed
          exact process_message first
      | ok middle =>
          rw [first] at failed
          exact ih failed

end Parser

theorem message_of_failure {parser : Parser} {lineNumber : ℕ} {lines : List Text}
    {failure : Failure} (failed : (readLines parser lineNumber lines).failure = some failure) :
    failure.message ∈ messages := by
  induction lines generalizing parser lineNumber with
  | nil =>
      rw [readLines] at failed
      split at failed
      · cases failed
        simp [messages]
      · cases failed
  | cons line lines ih =>
      rw [readLines] at failed
      cases processed : parser.processLine line with
      | error message =>
          rw [processed] at failed
          cases failed
          exact Parser.processLine_message processed
      | ok after =>
          rw [processed] at failed
          dsimp only at failed
          split at failed
          · exact ih failed
          · exact ih failed

end Messages

end Csv
