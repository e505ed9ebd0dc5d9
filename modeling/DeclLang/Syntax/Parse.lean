import DeclLang.Number.Numeral
import DeclLang.Syntax.Error
import DeclLang.Syntax.Tree

/-!
# Reading declarations up to the first error

A declaration is a name and a type, both identifiers, and optionally an equals sign with a number.
It is read from the head of a list of tokens, strictly from left to right. A reading ends with the
declaration or with an error, and tells how many tokens it took: those of the declaration, or those
before the error was found. A number token is taken before its text is looked at.

A list of tokens is parsed by reading declarations one after another until no token is left. The
first error ends the parse. A fault of the caller's spans ends it too.
-/

namespace DeclLang

/-- What reading one declaration comes to, with the number of tokens taken. -/
inductive Reading
  | declared (declaration : Declaration) (taken : Nat)
  | refused (error : ParseError) (taken : Nat)
  deriving DecidableEq

namespace Reading

/-- The equals sign before a value. -/
def assigns (t : Token) : Bool :=
  t.is .operator (some "=")

/-- The error for another token than expected, or for none after `last`. -/
def mismatch (last : Token) (expected : Expectation) : List Token → ParseError
  | [] => .unexpectedEnd last.span.finishPosition expected
  | found :: _ => .unexpectedToken found expected

/-- The declaration made of a name, a type and a value. -/
def finish (name type : Token) (value : Option Expression) (taken : Nat) :
    Except Fault Reading :=
  let type := TypeReference.ofName (LocatedText.ofToken type)
  (VariableDeclaration.build (LocatedText.ofToken name) (some type) value).map fun declaration =>
    .declared (.variable declaration) taken

/-- Reads the value after a name, a type and an equals sign. -/
def readValue (name type equals : Token) (tokens : List Token) : Except Fault Reading :=
  match tokens with
  | [] => .ok (.refused (mismatch equals .expression []) 3)
  | number :: rest =>
      if number.kind = .number then
        match Numeral.read number.text with
        | .ok value => finish name type (some (.number ⟨number.span, value⟩)) 4
        | .error e => .ok (.refused (.malformedNumber number e) 4)
      else .ok (.refused (mismatch equals .expression (number :: rest)) 3)

/-- Reads what follows a name and a type. -/
def readInitializer (name type : Token) (tokens : List Token) : Except Fault Reading :=
  match tokens with
  | [] => finish name type none 2
  | equals :: rest =>
      if assigns equals then readValue name type equals rest else finish name type none 2

/-- Reads what follows a name. -/
def readType (name : Token) (tokens : List Token) : Except Fault Reading :=
  match tokens with
  | [] => .ok (.refused (mismatch name .type []) 1)
  | type :: rest =>
      if type.kind = .identifier then readInitializer name type rest
      else .ok (.refused (mismatch name .type (type :: rest)) 1)

/-- Reads a declaration from tokens that start with `first`. -/
def read (first : Token) (rest : List Token) : Except Fault Reading :=
  if first.kind = .identifier then readType first rest
  else .ok (.refused (.unexpectedToken first .declaration) 0)

end Reading

namespace Tree

/-- Reads declarations from some tokens, after those already `done`, latest first. -/
def readAll (done : List Declaration) (tokens : List Token) :
    Except Fault (Except ParseError (List Declaration)) :=
  match tokens with
  | [] => .ok (.ok done.reverse)
  | first :: rest =>
      match Reading.read first rest with
      | .error fault => .error fault
      | .ok (.refused e _) => .ok (.error e)
      | .ok (.declared declaration taken) =>
          readAll (declaration :: done) (rest.drop (taken - 1))
termination_by tokens.length
decreasing_by
  simp only [List.length_drop, List.length_cons]
  omega

/-- Declarations read earlier stand before the others. -/
theorem readAll_append (done earlier : List Declaration) (tokens : List Token) :
    readAll (done ++ earlier) tokens =
      (readAll done tokens).map fun result => result.map (earlier.reverse ++ ·) := by
  fun_induction readAll done tokens with
  | case1 done => simp [readAll, Except.map]
  | case2 done first rest fault faulted => rw [readAll, faulted]; rfl
  | case3 done first rest e taken refused => rw [readAll, refused]; rfl
  | case4 done first rest declaration taken declared ih => rw [readAll, declared, ← ih]; rfl

/-- Parses tokens up to the first error. -/
def parse (source : String) (tokens : List Token) : Except Fault (Except ParseError Tree) :=
  (readAll [] tokens).map fun result => result.map fun declarations => ⟨source, declarations⟩

end Tree

end DeclLang
