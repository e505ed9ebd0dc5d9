/-!
# Locations, positions and spans

A location counts lines and columns from one, in characters, and carries the byte offset in the
UTF-8 form of the text. Only a line feed starts a new line. Locations are ordered by line, then
column, then offset, so that the order agrees with equality.

A position is a location in a named source; a span is a stretch of one source from a start up to,
but not including, a finish. Spans that a caller asks for are checked: both ends must lie in one
source, and the start must not come after the finish. A failed check is a fault of the caller, not
an error of the text.
-/

namespace DeclLang

/-- A point between two characters of a text. -/
structure Location where
  line : Nat
  column : Nat
  offset : Nat
  deriving DecidableEq

namespace Location

/-- The point before the first character of any text. -/
def origin : Location :=
  ⟨1, 1, 0⟩

instance : LT Location where
  lt a b :=
    a.line < b.line ∨
      a.line = b.line ∧ (a.column < b.column ∨ a.column = b.column ∧ a.offset < b.offset)

instance : LE Location where
  le a b := a < b ∨ a = b

instance (a b : Location) : Decidable (a < b) :=
  inferInstanceAs (Decidable (_ ∨ _))

instance (a b : Location) : Decidable (a ≤ b) :=
  inferInstanceAs (Decidable (_ ∨ _))

instance : Ord Location where
  compare a b := if a < b then .lt else if a = b then .eq else .gt

/-- The location after one more character. -/
def advance (here : Location) (c : Char) : Location :=
  if c = '\n' then ⟨here.line + 1, 1, here.offset + c.utf8Size⟩
  else ⟨here.line, here.column + 1, here.offset + c.utf8Size⟩

/-- The location after some more characters. -/
def advanceAll (here : Location) (cs : List Char) : Location :=
  cs.foldl advance here

end Location

/-- The broken promises of callers: a span that ends before it starts, a span over two sources, a
declaration with neither a type nor a value, and a cut of a text that goes back or falls inside a
character. -/
inductive Fault
  | reversedSpan
  | mixedSources
  | bareDeclaration
  | misplacedCut
  deriving DecidableEq

/-- A location in a named source. -/
structure Position where
  source : String
  location : Location
  deriving DecidableEq

namespace Position

/-- The position as messages show it: source, line and column. -/
def text (p : Position) : String :=
  p.source ++ ":" ++ toString p.location.line ++ ":" ++ toString p.location.column

end Position

/-- A stretch of one source, its finish excluded. -/
structure Span where
  source : String
  start : Location
  finish : Location
  deriving DecidableEq

namespace Span

/-- Whether the start of a span does not come after its finish. -/
def Ordered (s : Span) : Prop :=
  s.start ≤ s.finish

instance (s : Span) : Decidable s.Ordered :=
  inferInstanceAs (Decidable (s.start ≤ s.finish))

/-- The stretch of a source between two locations, when they are in order. -/
def ofLocations (source : String) (start finish : Location) : Except Fault Span :=
  if start ≤ finish then .ok ⟨source, start, finish⟩ else .error .reversedSpan

/-- The stretch between two positions of one source. -/
def between (start finish : Position) : Except Fault Span :=
  if start.source = finish.source then
    ofLocations start.source start.location finish.location
  else .error .mixedSources

/-- The stretch from the start of one span to the finish of another in the same source; the two
need not touch. -/
def merge (first last : Span) : Except Fault Span :=
  if first.source = last.source then ofLocations first.source first.start last.finish
  else .error .mixedSources

/-- The empty stretch at a position. -/
def atPosition (p : Position) : Span :=
  ⟨p.source, p.location, p.location⟩

/-- The position where a span starts. -/
def startPosition (s : Span) : Position :=
  ⟨s.source, s.start⟩

/-- The position where a span ends. -/
def finishPosition (s : Span) : Position :=
  ⟨s.source, s.finish⟩

/-- Whether a span covers no byte. -/
def isEmpty (s : Span) : Bool :=
  s.start.offset == s.finish.offset

/-- The span as messages show it: source, start and finish. -/
def text (s : Span) : String :=
  s.startPosition.text ++ "-" ++ toString s.finish.line ++ ":" ++ toString s.finish.column

end Span

end DeclLang
