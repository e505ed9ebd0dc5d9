import DeclLang.Scan.Unit
import DeclLang.Syntax.Tree
import DeclLang.Text.Display

/-!
# What commands print

The tokens of a unit are shown either as the source itself, each token in the ink of its kind and
everything between tokens as it stands, or as one entry for each token, with its place, its kind and
its text. A tree is shown as an outline of its nodes.
-/

namespace DeclLang

namespace TokenKind

/-- The ink that a kind of token is painted in. -/
def ink : TokenKind → Text.Ink
  | .rune => .underlinedRed
  | .identifier => .cyan
  | .number => .purple
  | .string => .green
  | .operator => .yellow

end TokenKind

namespace SourceUnit

/-- Cuts the next piece off a text, from one offset up to another. -/
def cutPiece (offset stop : Nat) (text : List Char) : Except Fault (List Char × List Char) :=
  if offset ≤ stop then
    match Utf8.split? (stop - offset) text with
    | some pieces => .ok pieces
    | none => .error .misplacedCut
  else .error .misplacedCut

/-- A text that starts at an offset, with some tokens painted, after the pieces already `done`,
latest first. -/
def paintFrom (coloured : Bool) (done : List String) (offset : Nat) (text : List Char) :
    List Token → Except Fault String
  | [] => .ok (String.join (String.ofList text :: done).reverse)
  | t :: tokens => do
      let (gap, fromToken) ← cutPiece offset t.span.start.offset text
      let (_, after) ← cutPiece t.span.start.offset t.span.finish.offset fromToken
      let painted := t.kind.ink.paint coloured t.text
      paintFrom coloured (painted :: String.ofList gap :: done) t.span.finish.offset after tokens

/-- The source of a unit with its tokens painted. -/
def painted (coloured : Bool) (unit : SourceUnit) : Except Fault String :=
  paintFrom coloured [] 0 unit.text.toList unit.tokens

end SourceUnit

namespace Token

/-- The entry of a token in a listing. -/
def entry (t : Token) : String :=
  Text.alignRight 4 (toString t.span.start.line) ++ ":" ++
    Text.alignLeft 4 (toString t.span.start.column) ++ " |" ++ t.kind.text ++ ":" ++ t.text ++
    "|\n"

/-- The listing of some tokens. -/
def listing (tokens : List Token) : String :=
  String.join (tokens.map entry)

end Token

/-! ## Indented outlines

An outline shows nested data, one item a line. A group puts its items between an opening and a
closing text, each four spaces further in and with a comma after it; an empty group stays on one
line. -/

/-- Nested data to be shown. -/
inductive Outline
  | leaf (text : String)
  | labelled (label : String) (value : Outline)
  | group (opening : String) (items : List Outline) (closing : String)

namespace Outline

/-- The start of a line at a depth. -/
def margin (depth : Nat) : String :=
  Text.spaces (4 * depth)

mutual

/-- An outline as text; its first line continues the current one, at a depth. -/
def render (depth : Nat) : Outline → String
  | .leaf text => text
  | .labelled label value => label ++ ": " ++ render depth value
  | .group opening [] closing => opening ++ closing
  | .group opening (item :: items) closing =>
      opening ++ "\n" ++ renderItems (depth + 1) (item :: items) ++ margin depth ++ closing

/-- Items as text, each on lines of its own at a depth. -/
def renderItems (depth : Nat) : List Outline → String
  | [] => ""
  | item :: items =>
      margin depth ++ render depth item ++ ",\n" ++ renderItems depth items

end

/-- Named fields between braces. -/
def record (name : String) (fields : List (String × Outline)) : Outline :=
  .group (name ++ " \x7b") (fields.map fun field => .labelled field.1 field.2) "\x7d"

/-- One item between parentheses. -/
def wrapped (name : String) (item : Outline) : Outline :=
  .group (name ++ "(") [item] ")"

/-- Items between square brackets. -/
def sequence (items : List Outline) : Outline :=
  .group "[" items "]"

/-- An item that may be missing. -/
def optional : Option Outline → Outline
  | none => .leaf "None"
  | some item => wrapped "Some" item

/-- A natural number. -/
def natural (n : Nat) : Outline :=
  .leaf (toString n)

end Outline

/-! ## Outlines of syntax trees

Every node of a tree is shown with its fields in order, its span first. Texts are quoted. -/

namespace Location

/-- The outline of a location. -/
def outline (l : Location) : Outline :=
  .record "Location"
    [("line", .natural l.line), ("column", .natural l.column), ("offset", .natural l.offset)]

end Location

namespace Span

/-- The outline of a span. -/
def outline (s : Span) : Outline :=
  .record "Span"
    [("name", .leaf (Text.quotedString s.source)), ("start", s.start.outline),
      ("end", s.finish.outline)]

end Span

namespace LocatedText

/-- The outline of a text with its place. -/
def outline (t : LocatedText) : Outline :=
  .record "LocatedString"
    [("span", t.span.outline), ("value", .leaf (Text.quotedString t.text))]

end LocatedText

namespace TypeExpr

/-- The outline of a type. -/
def outline : TypeExpr → Outline
  | .named type =>
      .wrapped "Named"
        (.record "NamedType"
          [("span", type.span.outline),
            ("name",
              .record "Name"
                [("span", type.name.span.outline), ("name", type.name.name.outline)])])

end TypeExpr

namespace TypeReference

/-- The outline of a type reference. -/
def outline (reference : TypeReference) : Outline :=
  .record "TypeReference"
    [("span", reference.span.outline), ("ty", reference.type.outline)]

end TypeReference

namespace Numeral

/-- The outline of a number. -/
def outline : Numeral → Outline
  | .integer n => .wrapped "Int" (.natural n)
  | .float x size =>
      .record "Float" [("value", .leaf x.text), ("size", .leaf size.text)]

end Numeral

namespace Expression

/-- The outline of an expression. -/
def outline : Expression → Outline
  | .number literal =>
      .wrapped "Number"
        (.record "NumberLit"
          [("span", literal.span.outline), ("value", literal.value.outline)])

end Expression

namespace Declaration

/-- The outline of a declaration. -/
def outline : Declaration → Outline
  | .type declaration =>
      .wrapped "Type"
        (.record "TypeDecl"
          [("span", declaration.span.outline), ("name", declaration.name.outline),
            ("ty", declaration.type.outline)])
  | .variable declaration =>
      .wrapped "Var"
        (.record "VarDecl"
          [("span", declaration.span.outline), ("name", declaration.name.outline),
            ("ty", .optional (declaration.type.map TypeReference.outline)),
            ("value", .optional (declaration.value.map Expression.outline))])

end Declaration

namespace Tree

/-- The outline of a tree. -/
def outline (tree : Tree) : Outline :=
  .record "ParseTree"
    [("source", .leaf (Text.quotedString tree.source)),
      ("declarations", .sequence (tree.declarations.map Declaration.outline))]

end Tree

end DeclLang
