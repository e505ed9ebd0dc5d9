import DeclLang.Source.Span

/-!
# Tokens

A token is a piece of the source with its kind and its span. Its text is exactly the piece, so a
string keeps its quotes. A rune stands for a piece that no rule of the language accepts.
-/

namespace DeclLang

/-- The kinds of tokens. -/
inductive TokenKind
  | rune
  | identifier
  | number
  | string
  | operator
  deriving DecidableEq

namespace TokenKind

/-- The name of a kind in messages. -/
def text : TokenKind → String
  | .rune => "rune"
  | .identifier => "identifier"
  | .number => "number"
  | .string => "string"
  | .operator => "operator"

end TokenKind

/-- A piece of a source, with its kind. -/
structure Token where
  kind : TokenKind
  text : String
  span : Span
  deriving DecidableEq

namespace Token

/-- Whether a token has a kind and, if one is asked for, exactly a text. -/
def is (t : Token) (kind : TokenKind) (wanted : Option String) : Bool :=
  t.kind == kind && wanted.all fun text => t.text == text

/-- A token as messages show it. -/
def display (t : Token) : String :=
  t.kind.text ++ " `" ++ t.text ++ "`"

end Token

end DeclLang
