import DeclLang.Proofs.Scan.Positions
import DeclLang.Proofs.Source.Columns
import DeclLang.Proofs.Source.LineRanges

/-!
# Lines and columns in listings

A scan fills the line table of its unit as it passes the line feeds, inside strings too and whether
or not it meets errors; at its end the table is the one that the text alone gives. There are two
readers of it. A unit finds the position of an offset and counts the characters before it on its
line. A listing takes any offset, also one inside a character, and counts the bytes of the line that
end a character. They agree on every character.
-/

namespace DeclLang

namespace SourceUnit

/-- A listing shows an offset at a position: it finds the line of the position and, counting bytes,
its column, and so does a listing that goes by a table made anew from the text. -/
structure Lists (unit : SourceUnit) (offset : Nat) (p : Position) : Prop where
  line : unit.lines.lineIndex offset + 1 = p.location.line
  column : unit.displayColumn? (unit.lines.lineIndex offset) offset = some p.location.column
  counted : ∃ start finish,
    unit.lines.lineRange? (unit.lines.lineIndex offset) = some (start, finish) ∧
      LineTable.byteColumn unit.text.toList start finish offset = p.location.column
  anew : (LineTable.ofText unit.text.toList).displayLocation? unit.text.toList offset =
    some (p.location.line, p.location.column)

variable {unit : SourceUnit}

/-- A byte is listed at the place of its character. -/
theorem lists_of_character (table : unit.lines = LineTable.ofText unit.text.toList)
    {front back : List Char} {offset : Nat} (split : unit.text.toList = front ++ back)
    (reached : Utf8.size front ≤ offset)
    (within : ∀ c ∈ back.head?, offset < Utf8.size front + c.utf8Size)
    (inside : offset ≤ unit.text.utf8ByteSize) :
    unit.Lists offset ⟨unit.name, Location.after front⟩ := by
  have exact := LineTable.exact_ofText unit.text
  rw [← table] at exact
  have index : unit.lines.lineIndex offset = front.count '\n' := by
    rw [table, split, LineTable.lineIndex_of_character front back reached within]
  obtain ⟨start, finish, range, started, -, covered⟩ := exact.lineRange?_lineIndex inside
  have column : LineTable.displayColumn unit.text.toList start finish offset =
      (Location.after front).column := by
    rw [index, table, split, LineTable.getElem?_starts_ofText] at started
    obtain rfl := Option.some.inj started
    rw [split, LineTable.displayColumn_of_character reached within (reached.trans covered),
      Location.after, Nat.add_comm]
  have line : unit.lines.lineIndex offset + 1 = (Location.after front).line := by
    rw [index, Location.after, Nat.add_comm]
  constructor
  case line => exact line
  case column => rw [displayColumn?, range, Option.map_some, column]
  case counted =>
    rw [LineTable.displayColumn_eq_byteColumn] at column
    exact ⟨start, finish, range, column⟩
  case anew => rw [← table, LineTable.displayLocation?, range, Option.map_some, line, column]

/-- **The line table is exact, and its readers agree.** The table of a scanned text lists its lines
exactly and is the table made from the text alone. Each offset, up to the end of the text, is listed
at the position that the unit finds for the start of its character, which is the offset itself when
the unit finds a position for it. -/
theorem lines_exact_of_scan (name text : String) :
    (scanRecovering name text).1.lines.Exact text ∧
      (scanRecovering name text).1.lines = LineTable.ofText text.toList ∧
      (∀ offset ≤ text.utf8ByteSize, ∃ front back p, text.toList = front ++ back ∧
        Utf8.size front ≤ offset ∧ (∀ c ∈ back.head?, offset < Utf8.size front + c.utf8Size) ∧
        (scanRecovering name text).1.position? (Utf8.size front) = some p ∧
        (scanRecovering name text).1.Lists offset p) ∧
      ∀ offset p, (scanRecovering name text).1.position? offset = some p →
        (scanRecovering name text).1.Lists offset p := by
  have table := lines_scanRecovering name text
  refine ⟨table ▸ LineTable.exact_ofText text, table, ?_, ?_⟩
  · intro offset inside
    rw [← Utf8.size_toList] at inside
    obtain ⟨front, back, split, reached, within⟩ := Utf8.exists_character inside
    rw [Utf8.size_toList] at inside
    exact ⟨front, back, _, split, reached, within, position?_size table split,
      lists_of_character table split reached within inside⟩
  · intro offset p found
    obtain ⟨front, back, split, rfl⟩ := exists_front_of_position? found
    obtain rfl := Option.some.inj (found.symm.trans (position?_size table split))
    apply lists_of_character table split (Nat.le_refl _)
    · intro c _
      exact Nat.lt_add_of_pos_right c.utf8Size_pos
    · exact Utf8.size_le_of_append split

/-- The end of the text is on the second line, which starts inside a string that is never closed. -/
theorem lists_end_of_unclosedString :
    (scanRecovering "main" "é \"\n").1.Lists 5 ⟨"main", ⟨2, 1, 5⟩⟩ := by
  have found : (scanRecovering "main" "é \"\n").1.position? 5 = some ⟨"main", ⟨2, 1, 5⟩⟩ := by
    decide +kernel
  exact (lines_exact_of_scan "main" "é \"\n").2.2.2 5 _ found

end SourceUnit

end DeclLang
