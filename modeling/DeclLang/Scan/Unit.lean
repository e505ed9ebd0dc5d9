import DeclLang.Lexeme
import DeclLang.Scan.Error
import DeclLang.Source.LineTable
import DeclLang.Source.Span
import DeclLang.Token

/-!
# Scanning a text

A cursor is how far a scan has come: the running location and the starts of the lines met so far.
It moves one character at a time and notes a new line start after each line feed.

Each lexeme but white space is one step of a scan: a token, or a failure with the rune that stands
for the piece at fault. A recovering scan goes on to the end of the text; a strict scan stops
before its first failure.

A source unit is one scanned text: its name, its characters, its line table and its tokens. A
strict scan yields a unit or the first error. A recovering scan always yields a unit, in which
runes stand for the pieces at fault, and the list of all errors.
-/

namespace DeclLang

/-- A running location, with the line starts met on the way, latest first. -/
structure Cursor where
  location : Location
  lineStarts : List Nat
  deriving DecidableEq

namespace Cursor

/-- The cursor before the first character. -/
def origin : Cursor :=
  ⟨Location.origin, [0]⟩

/-- The cursor after one more character. -/
def advance (here : Cursor) (c : Char) : Cursor :=
  let location := here.location.advance c
  ⟨location, if c = '\n' then location.offset :: here.lineStarts else here.lineStarts⟩

/-- The cursor after some more characters. -/
def advanceAll (here : Cursor) (cs : List Char) : Cursor :=
  cs.foldl advance here

/-- The line table of the text up to the cursor. -/
def lines (here : Cursor) : LineTable :=
  ⟨here.lineStarts.reverse, here.location.offset⟩

end Cursor

/-- What one lexeme yields. -/
inductive ScanStep
  | token (token : Token)
  | failure (error : ScanError) (rune : Token)
  deriving DecidableEq

namespace ScanStep

/-- The token of a step; the rune when it failed. -/
def emitted : ScanStep → Token
  | .token t => t
  | .failure _ rune => rune

/-- The error of a step, if it failed. -/
def error? : ScanStep → Option ScanError
  | .token _ => none
  | .failure e _ => some e

/-- What a lexeme between two locations of a source yields; white space yields nothing. -/
def ofLexeme? (source : String) (lexeme : Lexeme) (start finish : Location) : Option ScanStep :=
  let emit (kind : TokenKind) : Token :=
    ⟨kind, String.ofList lexeme.chars, ⟨source, start, finish⟩⟩
  match lexeme.rule with
  | some .blank => none
  | some .name => some (.token (emit .identifier))
  | some .number => some (.token (emit .number))
  | some .string => some (.token (emit .string))
  | some .comparison => some (.token (emit .operator))
  | some .unclosedString =>
      some (.failure (.unterminatedString ⟨source, start⟩) (emit .rune))
  | some .loneOperator =>
      some (.failure (.malformedOperator ⟨source, start⟩ lexeme.first) (emit .rune))
  | none => some (.failure (.unrecognizedCharacter ⟨source, start⟩ lexeme.first) (emit .rune))

/-- The steps from a cursor to the end of a text, after those already `done`, latest first, and the
cursor at the end. -/
def recovering (source : String) (done : List ScanStep) (here : Cursor) :
    List Char → List ScanStep × Cursor
  | [] => (done.reverse, here)
  | c :: rest =>
      let read := Lexeme.read c rest
      let there := here.advanceAll read.1.chars
      match ofLexeme? source read.1 here.location there.location with
      | none => recovering source done there read.2
      | some step => recovering source (step :: done) there read.2
termination_by cs => cs.length
decreasing_by all_goals exact Nat.lt_succ_of_le (Lexeme.length_read_le c rest)

/-- The tokens from a cursor up to the first failure, after those already `done`, latest first, and
the cursor at the end of the text or else the error. -/
def strict (source : String) (done : List Token) (here : Cursor) :
    List Char → List Token × Except ScanError Cursor
  | [] => (done.reverse, .ok here)
  | c :: rest =>
      let read := Lexeme.read c rest
      let there := here.advanceAll read.1.chars
      match ofLexeme? source read.1 here.location there.location with
      | none => strict source done there read.2
      | some (.token t) => strict source (t :: done) there read.2
      | some (.failure e _) => (done.reverse, .error e)
termination_by cs => cs.length
decreasing_by all_goals exact Nat.lt_succ_of_le (Lexeme.length_read_le c rest)

end ScanStep

/-- A scanned text. -/
structure SourceUnit where
  name : String
  text : String
  lines : LineTable
  tokens : List Token
  deriving DecidableEq

namespace SourceUnit

/-- The steps of a recovering scan of a text, and the cursor at its end. -/
def recoveringSteps (name text : String) : List ScanStep × Cursor :=
  ScanStep.recovering name [] Cursor.origin text.toList

/-- The tokens of a strict scan of a text, and the cursor at its end or the first error. -/
def strictTokens (name text : String) : List Token × Except ScanError Cursor :=
  ScanStep.strict name [] Cursor.origin text.toList

/-- Scans a text up to the first error. -/
def scan (name text : String) : Except ScanError SourceUnit :=
  match strictTokens name text with
  | (tokens, .ok finish) => .ok ⟨name, text, finish.lines, tokens⟩
  | (_, .error e) => .error e

/-- Scans a text to its end, with all its errors. -/
def scanRecovering (name text : String) : SourceUnit × List ScanError :=
  match recoveringSteps name text with
  | (steps, finish) =>
      (⟨name, text, finish.lines, steps.map ScanStep.emitted⟩, steps.filterMap ScanStep.error?)

/-- The position of a byte offset; `none` past the end or inside a character. -/
def position? (unit : SourceUnit) (offset : Nat) : Option Position := do
  let _ ← Utf8.split? offset unit.text.toList
  let index := unit.lines.lineIndex offset
  let lineStart ← unit.lines.starts[index]?
  let (_, fromLine) ← Utf8.split? lineStart unit.text.toList
  let (before, _) ← Utf8.split? (offset - lineStart) fromLine
  return ⟨unit.name, index + 1, before.length + 1, offset⟩

/-- The column that a listing shows for an offset on a line; `none` when there is no such line. -/
def displayColumn? (unit : SourceUnit) (index offset : Nat) : Option Nat :=
  (unit.lines.lineRange? index).map fun range =>
    LineTable.displayColumn unit.text.toList range.1 range.2 offset

end SourceUnit

end DeclLang
