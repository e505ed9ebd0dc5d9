import DeclLang.Number.Numeral
import DeclLang.Token

/-!
# Syntax trees

A tree lists the declarations of one source in order. Every node carries its own span. A variable
declaration has a name, a type and optionally a value; its span runs from the name to the value, or
to the type when there is no value. A type is so far always a name.
-/

namespace DeclLang

/-- A piece of text with its place. -/
structure LocatedText where
  span : Span
  text : String
  deriving DecidableEq

namespace LocatedText

/-- The text of a token with its place. -/
def ofToken (t : Token) : LocatedText :=
  ⟨t.span, t.text⟩

end LocatedText

/-- A name where it is used. -/
structure NameUse where
  span : Span
  name : LocatedText
  deriving DecidableEq

/-- A type given by its name. -/
structure NamedType where
  span : Span
  name : NameUse
  deriving DecidableEq

/-- A type. -/
inductive TypeExpr
  | named (type : NamedType)
  deriving DecidableEq

namespace TypeExpr

/-- The span of a type. -/
def span : TypeExpr → Span
  | .named type => type.span

end TypeExpr

/-- A type as a declaration writes it. -/
structure TypeReference where
  span : Span
  type : TypeExpr
  deriving DecidableEq

namespace TypeReference

/-- The type that a piece of text names; all its nodes have the place of the text. -/
def ofName (name : LocatedText) : TypeReference :=
  ⟨name.span, .named ⟨name.span, ⟨name.span, name⟩⟩⟩

/-- The text of a type's name. -/
def nameText (reference : TypeReference) : String :=
  match reference.type with
  | .named type => type.name.name.text

/-- The spans of the nodes of a type, outermost first. -/
def nodeSpans (reference : TypeReference) : List Span :=
  match reference.type with
  | .named type => [reference.span, type.span, type.span, type.name.span, type.name.name.span]

end TypeReference

/-- A number literal with its value. -/
structure NumberLiteral where
  span : Span
  value : Numeral
  deriving DecidableEq

/-- An expression. -/
inductive Expression
  | number (literal : NumberLiteral)
  deriving DecidableEq

namespace Expression

/-- The span of an expression. -/
def span : Expression → Span
  | .number literal => literal.span

end Expression

/-- The declaration of a type under a name. -/
structure TypeDeclaration where
  span : Span
  name : LocatedText
  type : TypeReference
  deriving DecidableEq

/-- The declaration of a variable. -/
structure VariableDeclaration where
  span : Span
  name : LocatedText
  type : Option TypeReference
  value : Option Expression
  deriving DecidableEq

namespace VariableDeclaration

/-- The last node of a declaration: its value, or its type when it has no value. -/
def lastSpan? (type : Option TypeReference) (value : Option Expression) : Option Span :=
  match value, type with
  | some value, _ => some value.span
  | none, some type => some type.span
  | none, none => none

/-- The declaration of a name with a type, a value or both, from the name to its last node. -/
def build (name : LocatedText) (type : Option TypeReference) (value : Option Expression) :
    Except Fault VariableDeclaration :=
  match lastSpan? type value with
  | none => .error .bareDeclaration
  | some last => (Span.merge name.span last).map fun span => ⟨span, name, type, value⟩

end VariableDeclaration

/-- A declaration. -/
inductive Declaration
  | type (declaration : TypeDeclaration)
  | variable (declaration : VariableDeclaration)
  deriving DecidableEq

namespace Declaration

/-- The span of a declaration. -/
def span : Declaration → Span
  | .type declaration => declaration.span
  | .variable declaration => declaration.span

/-- The variable that is declared, if one is. -/
def asVariable? : Declaration → Option VariableDeclaration
  | .type _ => none
  | .variable declaration => some declaration

/-- The type that is declared, if one is. -/
def asType? : Declaration → Option TypeDeclaration
  | .type declaration => some declaration
  | .variable _ => none

end Declaration

/-- The declarations of one source, in order. -/
structure Tree where
  source : String
  declarations : List Declaration
  deriving DecidableEq

end DeclLang
