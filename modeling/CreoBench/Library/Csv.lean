import Mathlib.Data.List.Forall2

/-!
# Comma-separated values

A parser of RFC 4180 as a machine that takes one character after another.
Fields are plain or quoted, a quote within a quoted field is doubled, and
records end in LF or CRLF.  Whether a line without any character is a record
of one empty field or no record at all is left to `skipsBlankLines`.
-/

namespace Csv

/-- What the parser has seen of the current field. -/
inductive Mode where
  /-- Nothing of the record. -/
  | recordStart
  /-- Nothing of the field, but an earlier one of its record. -/
  | fieldStart
  | unquoted
  | quoted
  /-- A quote in a quoted field, which ends it or is the first of two. -/
  | quoteInQuoted
  /-- A carriage return after a field. -/
  | carriageReturn
  /-- A carriage return at the start of a record. -/
  | blankReturn
  deriving DecidableEq

structure Parser where
  records : List (List String)
  /-- The finished fields of the current record. -/
  fields : List String
  /-- The current field so far. -/
  field : List Char
  mode : Mode
  deriving DecidableEq

namespace Parser

/-- Between two records. -/
def between (records : List (List String)) : Parser := ⟨records, [], [], .recordStart⟩

def endField (parser : Parser) : Parser where
  records := parser.records
  fields := parser.fields ++ [String.ofList parser.field]
  field := []
  mode := .fieldStart

def endRecord (parser : Parser) : Parser :=
  between (parser.records ++ [parser.fields ++ [String.ofList parser.field]])

def endBlankLine (skipsBlankLines : Bool) (parser : Parser) : Parser :=
  if skipsBlankLines then between parser.records else parser.endRecord

def push (parser : Parser) (char : Char) (mode : Mode) : Parser :=
  { parser with field := parser.field ++ [char], mode }

/-- A character after the end of a field. -/
def separate (parser : Parser) (char : Char) : Option Parser :=
  if char = ',' then some parser.endField
  else if char = '\n' then some parser.endRecord
  else if char = '\r' then some { parser with mode := .carriageReturn }
  else none

/-- A character that ends or continues a field without quotes. -/
def plain (parser : Parser) (char : Char) : Option Parser :=
  if char = '"' then none
  else (parser.separate char).or (some (parser.push char .unquoted))

/-- The first character of a field. -/
def startField (parser : Parser) (char : Char) : Option Parser :=
  if char = '"' then some { parser with mode := .quoted } else parser.plain char

def step (skipsBlankLines : Bool) (parser : Parser) (char : Char) : Option Parser :=
  match parser.mode with
  | .recordStart =>
      if char = '\n' then some (parser.endBlankLine skipsBlankLines)
      else if char = '\r' then some { parser with mode := .blankReturn }
      else parser.startField char
  | .fieldStart => parser.startField char
  | .unquoted => parser.plain char
  | .quoted =>
      if char = '"' then some { parser with mode := .quoteInQuoted }
      else some (parser.push char .quoted)
  | .quoteInQuoted =>
      if char = '"' then some (parser.push char .quoted) else parser.separate char
  | .carriageReturn => if char = '\n' then some parser.endRecord else none
  | .blankReturn =>
      if char = '\n' then some (parser.endBlankLine skipsBlankLines) else none

def run (skipsBlankLines : Bool) (parser : Parser) : List Char → Option Parser
  | [] => some parser
  | char :: chars => (parser.step skipsBlankLines char).bind (run skipsBlankLines · chars)

/-- The records of the whole text; the last one may lack its line break. -/
def finish (parser : Parser) : Option (List (List String)) :=
  match parser.mode with
  | .recordStart => some parser.records
  | .fieldStart | .unquoted | .quoteInQuoted => some parser.endRecord.records
  | .quoted | .carriageReturn | .blankReturn => none

end Parser

/-- The records of a text; `none` if it is not well formed. -/
def parse (skipsBlankLines : Bool) (text : List Char) : Option (List (List String)) :=
  ((Parser.between []).run skipsBlankLines text).bind Parser.finish

/-! ## Well-formed texts -/

/-- The characters with a meaning outside quotes. -/
def isSpecial (char : Char) : Bool := char ∈ ['"', ',', '\n', '\r']

/-- A quote within quotes is doubled. -/
def double (char : Char) : List Char := if char = '"' then ['"', '"'] else [char]

/-- The texts of a field. -/
inductive Encodes : List Char → List Char → Prop
  | plain {content : List Char} :
      (∀ char ∈ content, isSpecial char = false) → Encodes content content
  | quoted {content : List Char} : Encodes ('"' :: content.flatMap double ++ ['"']) content

def IsLineBreak (text : List Char) : Prop := text = ['\n'] ∨ text = ['\r', '\n']

/-- A line holds the fields of one record; a line that is passed over holds
none. -/
def IsLine (skipsBlankLines : Bool) (line : List Char) (record : List String) : Prop :=
  ∃ texts lineBreak, texts ≠ [] ∧ (skipsBlankLines = true → texts ≠ [[]]) ∧
    List.Forall₂ (fun text (field : String) => Encodes text field.toList) texts record ∧
    IsLineBreak lineBreak ∧ line = [','].intercalate texts ++ lineBreak

namespace Parser

variable {skipsBlankLines : Bool} {parser : Parser} {char : Char}
variable {text content : List Char}

theorem run_append (first second : List Char) :
    parser.run skipsBlankLines (first ++ second) =
      (parser.run skipsBlankLines first).bind (run skipsBlankLines · second) := by
  induction first generalizing parser with
  | nil => rfl
  | cons char chars ih =>
      rw [List.cons_append, run, run, Option.bind_assoc]
      congr 1
      funext next
      exact ih

theorem run_append_of_run {next : Parser} {first : List Char}
    (ran : parser.run skipsBlankLines first = some next) (second : List Char) :
    parser.run skipsBlankLines (first ++ second) = next.run skipsBlankLines second := by
  rw [run_append, ran, Option.bind_some]

/-- Where a field can begin or go on without quotes. -/
def TakesPlain (parser : Parser) : Prop :=
  parser.mode = .recordStart ∨ parser.mode = .fieldStart ∨ parser.mode = .unquoted

theorem step_of_not_special (takes : parser.TakesPlain)
    (notSpecial : isSpecial char = false) :
    parser.step skipsBlankLines char = some (parser.push char .unquoted) := by
  obtain ⟨notQuote, notComma, notLf, notCr⟩ :
      char ≠ '"' ∧ char ≠ ',' ∧ char ≠ '\n' ∧ char ≠ '\r' := by
    simpa [isSpecial] using notSpecial
  have pushed : parser.plain char = some (parser.push char .unquoted) := by
    simp [plain, separate, notQuote, notComma, notLf, notCr]
  rcases takes with mode | mode | mode <;>
    simp [step, mode, startField, notQuote, notLf, notCr, pushed]

/-- Characters without a meaning are taken as they are. -/
theorem run_plain (takes : parser.TakesPlain)
    (notSpecial : ∀ char ∈ content, isSpecial char = false) :
    parser.run skipsBlankLines content = some
      { parser with
        field := parser.field ++ content
        mode := if content = [] then parser.mode else .unquoted } := by
  induction content generalizing parser with
  | nil => simp [run]
  | cons char chars ih =>
      have next : (parser.push char .unquoted).TakesPlain := .inr (.inr rfl)
      rw [run, step_of_not_special takes (notSpecial char List.mem_cons_self),
        Option.bind_some,
        ih next fun char member => notSpecial char (List.mem_cons_of_mem _ member)]
      simp [push]

/-- Doubled quotes and all other characters within quotes. -/
theorem run_doubled (quoted : parser.mode = .quoted) :
    parser.run skipsBlankLines (content.flatMap double) =
      some { parser with field := parser.field ++ content } := by
  induction content generalizing parser with
  | nil => simp [run]
  | cons char chars ih =>
      have first : parser.run skipsBlankLines (double char) =
          some (parser.push char .quoted) := by
        by_cases quote : char = '"'
        · simp [double, quote, run, step, quoted, push]
        · simp [double, quote, run, step, quoted]
      rw [List.flatMap_cons, run_append_of_run first, ih rfl]
      simp [push, quoted]

/-- Where the fields of a record begin. -/
def Starts (parser : Parser) : Prop :=
  (parser.mode = .recordStart ∨ parser.mode = .fieldStart) ∧ parser.field = []

/-- After all of a field; one without any character leaves no trace. -/
def Ends (start ended : Mode) (text : List Char) : Prop :=
  ended = .unquoted ∨ ended = .quoteInQuoted ∨ (text = [] ∧ ended = start)

theorem run_field (starts : parser.Starts) (encodes : Encodes text content) :
    ∃ mode, Ends parser.mode mode text ∧
      parser.run skipsBlankLines text = some { parser with field := content, mode } := by
  obtain ⟨starts, empty⟩ := starts
  cases encodes with
  | plain notSpecial =>
      refine ⟨_, ?_, by
        rw [run_plain (starts.elim .inl fun atField => .inr (.inl atField)) notSpecial, empty,
          List.nil_append]⟩
      by_cases none : text = []
      · exact .inr (.inr ⟨none, if_pos none⟩)
      · exact .inl (if_neg none)
  | quoted =>
      have opening : parser.step skipsBlankLines '"' = some { parser with mode := .quoted } := by
        rcases starts with start | start <;> simp [step, start, startField]
      have inside : run skipsBlankLines { parser with mode := .quoted }
          (content.flatMap double) =
            some { parser with field := content, mode := .quoted } := by
        rw [run_doubled rfl, empty, List.nil_append]
      refine ⟨.quoteInQuoted, .inr (.inl rfl), ?_⟩
      rw [List.cons_append, run, opening, Option.bind_some, run_append_of_run inside]
      rfl

theorem step_comma {start : Mode} (ends : Ends start parser.mode text)
    (starts : start = .recordStart ∨ start = .fieldStart) :
    parser.step skipsBlankLines ',' = some parser.endField := by
  rcases ends with mode | mode | ⟨-, mode⟩
  · simp [step, mode, plain, separate]
  · simp [step, mode, separate]
  · rcases starts with rfl | rfl <;> simp [step, mode, startField, plain, separate]

/-- A line break ends the record, also an empty one if such records count. -/
theorem run_lineBreak {start : Mode} {lineBreak : List Char}
    (ends : Ends start parser.mode text)
    (counts : start = .fieldStart ∨
      (start = .recordStart ∧ (text = [] → skipsBlankLines = false)))
    (isLineBreak : IsLineBreak lineBreak) :
    parser.run skipsBlankLines lineBreak = some parser.endRecord := by
  have afterReturn : run skipsBlankLines { parser with mode := .carriageReturn } ['\n'] =
      some parser.endRecord := by simp [run, step, endRecord]
  rcases ends with mode | mode | ⟨empty, mode⟩
  · rcases isLineBreak with rfl | rfl
    · simp [run, step, mode, plain, separate]
    · rw [← afterReturn, run]
      simp [step, mode, plain, separate]
  · rcases isLineBreak with rfl | rfl
    · simp [run, step, mode, separate]
    · rw [← afterReturn, run]
      simp [step, mode, separate]
  · rcases counts with rfl | ⟨rfl, notSkipped⟩
    · rcases isLineBreak with rfl | rfl
      · simp [run, step, mode, startField, plain, separate]
      · rw [← afterReturn, run]
        simp [step, mode, startField, plain, separate]
    · rcases isLineBreak with rfl | rfl <;>
        simp [run, step, mode, endBlankLine, notSkipped empty, endRecord]

/-- All fields of a record, from the first or from a later one on. -/
theorem run_fields {texts : List (List Char)} {fields : List String} {lineBreak : List Char}
    (starts : parser.Starts) (someField : texts ≠ [])
    (encode : List.Forall₂ (fun text (field : String) => Encodes text field.toList) texts fields)
    (counts : parser.mode = .fieldStart ∨
      (parser.mode = .recordStart ∧ (texts = [[]] → skipsBlankLines = false)))
    (isLineBreak : IsLineBreak lineBreak) :
    parser.run skipsBlankLines ([','].intercalate texts ++ lineBreak) =
      some (between (parser.records ++ [parser.fields ++ fields])) := by
  induction texts generalizing parser fields with
  | nil => exact absurd rfl someField
  | cons text texts ih =>
      cases encode with
      | cons encodes others =>
          obtain ⟨mode, ends, ran⟩ := run_field starts encodes
          cases texts with
          | nil =>
              cases others
              rw [List.intercalate_singleton, run_append_of_run ran,
                run_lineBreak ends (counts.imp_right fun ⟨start, counted⟩ =>
                  ⟨start, fun empty => counted (by rw [empty])⟩) isLineBreak]
              simp [endRecord]
          | cons next texts =>
              rw [List.intercalate_cons_cons, List.append_assoc, List.append_assoc,
                run_append_of_run ran]
              simp only [List.singleton_append, run]
              rw [step_comma ends starts.1, Option.bind_some,
                ih ⟨.inr rfl, rfl⟩ (by simp) others (.inl rfl)]
              simp [endField]

/-- One line after another. -/
theorem run_lines {lines : List (List Char)} {records : List (List String)}
    {before : List (List String)}
    (areLines : List.Forall₂ (IsLine skipsBlankLines) lines records) :
    (between before).run skipsBlankLines lines.flatten = some (between (before ++ records)) := by
  induction areLines generalizing before with
  | nil => simp [run]
  | cons isLine _ ih =>
      obtain ⟨texts, lineBreak, someField, notSkipped, encode, isLineBreak, rfl⟩ := isLine
      have starts : (between before).Starts := ⟨.inl rfl, rfl⟩
      have line := run_fields starts someField encode
        (.inr ⟨rfl, fun blank => Bool.eq_false_iff.mpr fun skips => notSkipped skips blank⟩)
        isLineBreak
      rw [List.flatten_cons, run_append_of_run line, ih]
      simp [between]

end Parser

/-- Lines are read as the records that they were made from. -/
theorem parse_lines {skipsBlankLines : Bool} {lines : List (List Char)}
    {records : List (List String)}
    (areLines : List.Forall₂ (IsLine skipsBlankLines) lines records) :
    parse skipsBlankLines lines.flatten = some records := by
  rw [parse, Parser.run_lines areLines]
  rfl

end Csv
