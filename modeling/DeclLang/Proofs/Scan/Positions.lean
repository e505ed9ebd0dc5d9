import DeclLang.Proofs.Scan.Course
import DeclLang.Proofs.Source.Lines

/-!
# Positions of a scanned text

A scan keeps a running location and puts it into its tokens and errors; a unit finds a position
again from an offset, through its line table. Every location of a scan is the one after some first
characters of the text, so the two agree, and locations of one unit are in the order of their
offsets.
-/

namespace DeclLang

namespace Cursor

/-- A cursor notes the line starts of the characters that it passes, the latest first. -/
theorem lineStarts_advanceAll (here : Cursor) (cs : List Char) :
    (here.advanceAll cs).lineStarts =
      (LineTable.startsAfterFeeds here.location.offset cs).reverse ++ here.lineStarts := by
  induction cs generalizing here with
  | nil => rfl
  | cons c cs ih =>
      have moved : (here.advance c).location.offset = here.location.offset + c.utf8Size := by
        simp
      rw [advanceAll_cons, ih, moved, LineTable.startsAfterFeeds]
      by_cases feed : c = '\n'
      · have noted : (here.advance c).lineStarts =
            (here.location.offset + c.utf8Size) :: here.lineStarts := by
          rw [← moved, advance, if_pos feed]
        rw [if_pos feed, noted, List.reverse_cons, List.append_assoc, List.singleton_append]
      · have kept : (here.advance c).lineStarts = here.lineStarts := by
          rw [advance, if_neg feed]
        rw [if_neg feed, kept]

/-- A cursor that has passed a text holds its line table. -/
theorem lines_advanceAll_origin (cs : List Char) :
    (origin.advanceAll cs).lines = LineTable.ofText cs := by
  have starts := lineStarts_advanceAll origin cs
  have finish : (origin.advanceAll cs).location.offset = Utf8.size cs := by
    simp [origin, Location.origin]
  rw [lines, finish, starts, List.reverse_append, List.reverse_reverse]
  rfl

/-- The cursor that has passed some characters. -/
def after (passed : List Char) : Cursor :=
  origin.advanceAll passed

@[simp]
theorem location_after (passed : List Char) : (after passed).location = Location.after passed := by
  rw [after, location_advanceAll]
  exact Location.advanceAll_origin passed

/-- A cursor behind some characters that passes more is behind them all. -/
@[simp]
theorem advanceAll_after (passed cs : List Char) :
    (after passed).advanceAll cs = after (passed ++ cs) := by
  simp [after]

theorem offset_after (passed : List Char) : (after passed).location.offset = Utf8.size passed := by
  simp

/-- A cursor holds no line start that lies ahead of it. -/
theorem lineStarts_after_le (passed : List Char) :
    ∀ start ∈ (after passed).lineStarts, start ≤ Utf8.size passed := by
  intro start member
  rw [after, lineStarts_advanceAll, List.mem_append, List.mem_reverse] at member
  rcases member with fed | first
  · have within := (LineTable.mem_startsAfterFeeds fed).2
    rwa [show origin.location.offset = 0 from rfl, Nat.zero_add] at within
  · obtain rfl := List.mem_singleton.mp first
    exact Nat.zero_le _

end Cursor

namespace ScanStep

variable {source : String} {here finish : Cursor} {cs : List Char} {steps : List ScanStep}

/-- A course ends where passing all characters ends, whatever its lexemes are. -/
theorem Course.finish_eq (course : Course source here cs steps finish) :
    finish = here.advanceAll cs := by
  induction course with
  | finished here => rfl
  | skipped read blank later ih => simp [ih, ← Lexeme.append_of_read read]
  | taken read found later ih => simp [ih, ← Lexeme.append_of_read read]

/-- What a step emits stands between two places of the text. -/
theorem Course.placed (course : Course source here cs steps finish) :
    ∀ step ∈ steps, ∃ front piece back, cs = front ++ piece ++ back ∧
      step.emitted.span = ⟨source, here.location.advanceAll front,
        here.location.advanceAll (front ++ piece)⟩ := by
  induction course with
  | finished here => simp
  | @skipped here c rest after lexeme steps finish read blank later ih =>
      intro step member
      obtain ⟨front, piece, back, split, span⟩ := ih step member
      exact ⟨lexeme.chars ++ front, piece, back, by simp [← Lexeme.append_of_read read, split],
        by simp [span]⟩
  | @taken here c rest after lexeme step steps finish read found later ih =>
      intro other member
      rcases List.mem_cons.mp member with rfl | member
      · refine ⟨[], lexeme.chars, after, (Lexeme.append_of_read read).symm, ?_⟩
        simp [(emitted_of_ofLexeme? found).2]
      · obtain ⟨front, piece, back, split, span⟩ := ih other member
        exact ⟨lexeme.chars ++ front, piece, back, by simp [← Lexeme.append_of_read read, split],
          by simp [span]⟩

/-- Each error of a course is found where its rune starts. -/
theorem Course.position_of_error (course : Course source here cs steps finish) :
    ∀ step ∈ steps, ∀ e ∈ step.error?, e.position = step.emitted.span.startPosition := by
  induction course with
  | finished here => simp
  | skipped read blank later ih => exact ih
  | taken read found later ih =>
      exact List.forall_mem_cons.mpr ⟨position_of_ofLexeme? found, ih⟩

end ScanStep

namespace SourceUnit

/-- Positions that agree with the places in the text that a unit and some errors are about. -/
structure Positioned (unit : SourceUnit) (errors : List ScanError) : Prop where
  counted : ∀ front back, unit.text.toList = front ++ back →
    unit.position? (Utf8.size front) = some ⟨unit.name, Location.after front⟩
  refused : ∀ offset,
    (∀ front back, unit.text.toList = front ++ back → Utf8.size front ≠ offset) →
      unit.position? offset = none
  ofTokens : ∀ t ∈ unit.tokens,
    unit.position? t.span.start.offset = some t.span.startPosition ∧
      unit.position? t.span.finish.offset = some t.span.finishPosition
  ofErrors : ∀ e ∈ errors, unit.position? e.position.location.offset = some e.position
  ordered : ∀ offset offset' p p',
    unit.position? offset = some p → unit.position? offset' = some p' →
      (p.location < p'.location ↔ offset < offset')

/-- The line table of a scan is the one made from the text alone. -/
theorem lines_scanRecovering (name text : String) :
    (scanRecovering name text).1.lines = LineTable.ofText text.toList := by
  obtain ⟨steps, finish, course, recovered, -⟩ := scan_eq_of_course name text
  rw [recovered, course.finish_eq, Cursor.lines_advanceAll_origin]

variable {unit : SourceUnit}

/-- A line table of the text finds the location counted anew. -/
theorem position?_size (table : unit.lines = LineTable.ofText unit.text.toList)
    {front back : List Char} (split : unit.text.toList = front ++ back) :
    unit.position? (Utf8.size front) = some ⟨unit.name, Location.after front⟩ := by
  have index : unit.lines.lineIndex (Utf8.size front) = front.count '\n' := by
    rw [table, split, LineTable.lineIndex_ofText]
  have lineStart : unit.lines.starts[front.count '\n']? =
      some (Utf8.size (front.rdropWhile inLine)) := by
    rw [table, split, LineTable.getElem?_starts_ofText]
  have line : front.rdropWhile inLine ++ front.rtakeWhile inLine = front :=
    List.rdropWhile_append_rtakeWhile
  have first : Utf8.split? (Utf8.size front) unit.text.toList = some (front, back) := by
    rw [split, Utf8.split?_append]
  have second : Utf8.split? (Utf8.size (front.rdropWhile inLine)) unit.text.toList =
      some (front.rdropWhile inLine, front.rtakeWhile inLine ++ back) := by
    refine Utf8.split?_eq_some_iff.mpr ⟨?_, rfl⟩
    rw [split, ← List.append_assoc, line]
  have width : Utf8.size front - Utf8.size (front.rdropWhile inLine) =
      Utf8.size (front.rtakeWhile inLine) := by
    have whole := congrArg Utf8.size line
    rw [Utf8.size_append] at whole
    omega
  have third : Utf8.split? (Utf8.size front - Utf8.size (front.rdropWhile inLine))
      (front.rtakeWhile inLine ++ back) = some (front.rtakeWhile inLine, back) := by
    rw [width, Utf8.split?_append]
  simp only [position?, first, index, lineStart, second, third, Option.bind_eq_bind,
    Option.bind_some, Option.pure_def, Location.after, Nat.add_comm 1]

/-- Only offsets between characters have a position. -/
theorem exists_front_of_position? {offset : Nat} {p : Position}
    (found : unit.position? offset = some p) :
    ∃ front back, unit.text.toList = front ++ back ∧ Utf8.size front = offset := by
  rw [position?] at found
  obtain ⟨⟨front, back⟩, cut, -⟩ := Option.bind_eq_some_iff.mp found
  obtain ⟨split, size⟩ := Utf8.split?_eq_some_iff.mp cut
  exact ⟨front, back, split, size⟩

/-- Positions are ordered as their offsets are, so that one comparison serves for both. -/
theorem lt_iff_of_position? (table : unit.lines = LineTable.ofText unit.text.toList)
    {offset offset' : Nat} {p p' : Position} (found : unit.position? offset = some p)
    (found' : unit.position? offset' = some p') :
    p.location < p'.location ↔ offset < offset' := by
  obtain ⟨front, back, split, rfl⟩ := exists_front_of_position? found
  obtain ⟨front', back', split', rfl⟩ := exists_front_of_position? found'
  obtain rfl := Option.some.inj (found.symm.trans (position?_size table split))
  obtain rfl := Option.some.inj (found'.symm.trans (position?_size table split'))
  have same := split.symm.trans split'
  constructor
  · intro before
    rcases Nat.lt_trichotomy (Utf8.size front) (Utf8.size front') with fewer | equal | more
    · exact fewer
    · have halves := Utf8.split?_append front back
      rw [same, equal, Utf8.split?_append] at halves
      obtain ⟨rfl, -⟩ := Prod.mk.inj (Option.some.inj halves)
      exact absurd before (lt_irrefl _)
    · exact absurd before (Location.after_lt_after same.symm more).asymm
  · exact Location.after_lt_after same

/-- **Positions agree.** In a recovering scan of any text, a position found from an offset is the
one counted in the text, every token and every error carries the positions found from its offsets,
and the order of locations is the order of offsets. -/
theorem positioned_of_scan (name text : String) :
    (scanRecovering name text).1.name = name ∧ (scanRecovering name text).1.text = text ∧
      Positioned (scanRecovering name text).1 (scanRecovering name text).2 := by
  obtain ⟨steps, finish, course, recovered, -⟩ := scan_eq_of_course name text
  rw [recovered]
  have table : finish.lines = LineTable.ofText text.toList := by
    rw [course.finish_eq, Cursor.lines_advanceAll_origin]
  have found (front back : List Char) (split : text.toList = front ++ back) :
      position? ⟨name, text, finish.lines, steps.map ScanStep.emitted⟩
          (Location.origin.advanceAll front).offset =
        some ⟨name, Location.origin.advanceAll front⟩ := by
    rw [Location.advanceAll_origin]
    exact position?_size table split
  have spans : ∀ step ∈ steps,
      position? ⟨name, text, finish.lines, steps.map ScanStep.emitted⟩
          step.emitted.span.start.offset = some step.emitted.span.startPosition ∧
        position? ⟨name, text, finish.lines, steps.map ScanStep.emitted⟩
          step.emitted.span.finish.offset = some step.emitted.span.finishPosition := by
    intro step member
    obtain ⟨front, piece, back, split, span⟩ := course.placed step member
    rw [span]
    exact ⟨found front (piece ++ back) (split.trans (List.append_assoc ..)),
      found (front ++ piece) back split⟩
  refine ⟨rfl, rfl, ?_⟩
  constructor
  case counted => exact fun front back split => position?_size table split
  case refused =>
    intro offset inside
    by_contra present
    obtain ⟨p, isFound⟩ := Option.ne_none_iff_exists'.mp present
    obtain ⟨front, back, split, size⟩ := exists_front_of_position? isFound
    exact inside front back split size
  case ofTokens =>
    intro t member
    obtain ⟨step, taken, rfl⟩ := List.mem_map.mp member
    exact spans step taken
  case ofErrors =>
    intro e member
    obtain ⟨step, taken, failed⟩ := List.mem_filterMap.mp member
    rw [course.position_of_error step taken e failed]
    exact (spans step taken).1
  case ordered => exact fun offset offset' p p' => lt_iff_of_position? table

end SourceUnit

end DeclLang
