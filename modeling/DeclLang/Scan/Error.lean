import DeclLang.Diagnostic
import DeclLang.Text.Display

/-!
# Scan errors

A scan fails on a string that is never closed, on a character that starts no lexeme and on an
operator sign that is no comparison. Each error carries the position where the piece at fault
starts.
-/

namespace DeclLang

/-- Why a piece of text is no token. -/
inductive ScanError
  | unterminatedString (position : Position)
  | unrecognizedCharacter (position : Position) (c : Char)
  | malformedOperator (position : Position) (c : Char)
  deriving DecidableEq

namespace ScanError

/-- The code of an error. -/
def code : ScanError → String
  | .unterminatedString _ => "E001"
  | .unrecognizedCharacter _ _ => "E002"
  | .malformedOperator _ _ => "E003"

/-- The title of an error, the same for all errors of one code. -/
def title : ScanError → String
  | .unterminatedString _ => "Unterminated string literal"
  | .unrecognizedCharacter _ _ => "Unrecognized character"
  | .malformedOperator _ _ => "Unexpected operator"

/-- Where the piece at fault starts. -/
def position : ScanError → Position
  | .unterminatedString p => p
  | .unrecognizedCharacter p _ => p
  | .malformedOperator p _ => p

/-- The error in one line. -/
def message : ScanError → String
  | .unterminatedString p => p.text ++ ": unterminated string literal"
  | .unrecognizedCharacter p c => p.text ++ ": unrecognized character " ++ Text.quotedChar c
  | .malformedOperator p c => p.text ++ ": unexpected operator " ++ Text.quotedChar c

/-- The label of an error: empty at the quote of an unclosed string, else on the character. -/
def label (coloured : Bool) : ScanError → Label
  | .unterminatedString p =>
      (Span.atPosition p).label
        ("This string is never closed, add a " ++ Text.Ink.yellow.paint coloured "\"" ++
          " before the end of the file")
  | .unrecognizedCharacter p c => p.label c "This character does not start any token"
  | .malformedOperator p c => p.label c "Only comparison operators are supported"

/-- The notes of an error. -/
def notes (coloured : Bool) : ScanError → List String
  | .malformedOperator _ _ =>
      let mark := Text.Ink.yellow.paint coloured
      ["Supported operators are " ++ mark "==" ++ ", " ++ mark "!=" ++ ", " ++ mark "<=" ++
        " and " ++ mark ">="]
  | _ => []

/-- The error as it is reported on its source. -/
def diagnostic (coloured : Bool) (e : ScanError) : Diagnostic :=
  ⟨.error, e.code, e.title, [e.label coloured], e.notes coloured⟩

end ScanError

end DeclLang
