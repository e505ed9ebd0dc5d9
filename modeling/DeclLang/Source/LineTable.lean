/-!
# Bytes and lines of a text

Offsets into a text count the bytes of its UTF-8 form, while a text is a list of characters. A list
of characters is cut at a byte offset, and a cut inside a character is refused.

A line table lists the byte offsets at which the lines of a text start, beginning with zero, and
the offset where the text ends. A text has one line more than it has line feeds. The table finds
the line of an offset and the range of a line; the range of a line includes its line feed.
-/

namespace DeclLang

namespace Utf8

/-- The number of bytes of some characters. -/
def size (cs : List Char) : Nat :=
  cs.foldl (fun total c => total + c.utf8Size) 0

/-- The characters of the first `bytes` bytes and those after them, unless the cut falls inside a
character or after the end. -/
def split? (bytes : Nat) : List Char → Option (List Char × List Char)
  | [] => if bytes = 0 then some ([], []) else none
  | c :: rest =>
      if bytes = 0 then some ([], c :: rest)
      else if bytes < c.utf8Size then none
      else (split? (bytes - c.utf8Size) rest).map fun parts => (c :: parts.1, parts.2)

/-- The offsets at which the characters end, the first one starting at `start`. -/
def ends (start : Nat) : List Char → List Nat
  | [] => []
  | c :: rest => (start + c.utf8Size) :: ends (start + c.utf8Size) rest

end Utf8

/-- The offsets at which lines start, in increasing order, and the end of the text. -/
structure LineTable where
  starts : List Nat
  finish : Nat
  deriving DecidableEq

namespace LineTable

/-- The offsets just after each line feed of a text that starts at `offset`. -/
def startsAfterFeeds (offset : Nat) : List Char → List Nat
  | [] => []
  | c :: rest =>
      if c = '\n' then (offset + c.utf8Size) :: startsAfterFeeds (offset + c.utf8Size) rest
      else startsAfterFeeds (offset + c.utf8Size) rest

/-- The line table of a text. -/
def ofText (cs : List Char) : LineTable :=
  ⟨0 :: startsAfterFeeds 0 cs, Utf8.size cs⟩

/-- The number of lines. -/
def size (table : LineTable) : Nat :=
  table.starts.length

/-- The index, from zero, of the last line that starts at or before an offset. -/
def lineIndex (table : LineTable) (offset : Nat) : Nat :=
  (table.starts.takeWhile fun start => decide (start ≤ offset)).length - 1

/-- Where a line starts; the line after the last one starts at the end of the text. -/
def lineStart? (table : LineTable) (index : Nat) : Option Nat :=
  if index = table.size then some table.finish else table.starts[index]?

/-- The bytes of a line, its line feed included. -/
def lineRange? (table : LineTable) (index : Nat) : Option (Nat × Nat) := do
  let start ← table.lineStart? index
  let finish ← table.lineStart? (index + 1)
  return (start, finish)

/-- The column that a listing shows for an offset on a line: one more than the number of characters
that end on the line no later than the offset. -/
def displayColumn (cs : List Char) (lineStart lineFinish offset : Nat) : Nat :=
  ((Utf8.ends 0 cs).filter fun stop =>
    decide (lineStart < stop) && decide (stop ≤ min offset lineFinish)).length + 1

/-- The line and column, from one, that a listing shows for an offset of a text; `none` when the
table has no such line. -/
def displayLocation? (table : LineTable) (cs : List Char) (offset : Nat) : Option (Nat × Nat) :=
  (table.lineRange? (table.lineIndex offset)).map fun range =>
    (table.lineIndex offset + 1, displayColumn cs range.1 range.2 offset)

end LineTable

end DeclLang
