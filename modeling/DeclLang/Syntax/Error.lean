import DeclLang.Diagnostic
import DeclLang.Number.Numeral
import DeclLang.Text.Display
import DeclLang.Token

/-!
# Syntax errors

A token where something else was expected, an end where more was expected, or a number token whose
text is no number.
-/

namespace DeclLang

/-- What could have stood at the place of an error: a kind of token, one token, or whatever starts
a named part of the grammar. -/
inductive Expectation
  | anyOf (kind : TokenKind)
  | exactly (kind : TokenKind) (text : String)
  | production (name : String)
  deriving DecidableEq

namespace Expectation

/-- The start of a declaration. -/
def declaration : Expectation := .production "a declaration"

/-- The start of a type. -/
def type : Expectation := .production "a type"

/-- The start of an expression. -/
def expression : Expectation := .production "an expression"

/-- What was expected, as messages show it. -/
def message : Expectation → String
  | .anyOf kind => kind.text
  | .exactly kind text => kind.text ++ " `" ++ text ++ "`"
  | .production name => name

end Expectation

/-- Why tokens are no declaration. -/
inductive ParseError
  | unexpectedToken (found : Token) (expected : Expectation)
  | unexpectedEnd (position : Position) (expected : Expectation)
  | malformedNumber (token : Token) (error : NumberError)
  deriving DecidableEq

namespace ParseError

/-- The code of an error. -/
def code : ParseError → String
  | .unexpectedToken _ _ => "E100"
  | .unexpectedEnd _ _ => "E101"
  | .malformedNumber _ _ => "E102"

/-- The title of an error, the same for all errors of one code. -/
def title : ParseError → String
  | .unexpectedToken _ _ => "Unexpected Token"
  | .unexpectedEnd _ _ => "Unexpected End of File"
  | .malformedNumber _ _ => "Malformed Number"

/-- Where the token at fault starts, or where the tokens end. -/
def position : ParseError → Position
  | .unexpectedToken found _ => found.span.startPosition
  | .unexpectedEnd p _ => p
  | .malformedNumber token _ => token.span.startPosition

/-- The error in one line. -/
def message (e : ParseError) : String :=
  e.position.text ++ ": " ++
    match e with
    | .unexpectedToken found expected =>
        "expected " ++ expected.message ++ " found " ++ found.display
    | .unexpectedEnd _ expected => "expected " ++ expected.message ++ " found end of file"
    | .malformedNumber token error =>
        "malformed number `" ++ token.text ++ "`: " ++ error.message

/-- The label of an error: on the token at fault, or empty at the end of the tokens. -/
def label : ParseError → Label
  | .unexpectedToken found expected =>
      found.span.label ("Expected " ++ expected.message ++ " found " ++ found.kind.text)
  | .unexpectedEnd p expected =>
      (Span.atPosition p).label ("Expected " ++ expected.message ++ " found EOF")
  | .malformedNumber token error => token.span.label error.message

/-- The notes of an error. -/
def notes (coloured : Bool) : ParseError → List String
  | .malformedNumber _ _ =>
      let mark := Text.Ink.yellow.paint coloured
      ["Numbers look like " ++ mark "1_000" ++ ", " ++ mark "0xff" ++ ", " ++ mark "4e2" ++
        " or " ++ mark "1.5f"]
  | _ => []

/-- The error as it is reported on its source. -/
def diagnostic (coloured : Bool) (e : ParseError) : Diagnostic :=
  ⟨.error, e.code, e.title, [e.label], e.notes coloured⟩

end ParseError

end DeclLang
