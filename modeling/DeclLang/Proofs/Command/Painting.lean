import DeclLang.Command.Execute
import DeclLang.Proofs.Scan.Tiling

/-!
# Painting gives the source back

A painted source is put together from slices of the text between the tokens and from the tokens
themselves. The tokens of a scan lie one after another with their texts at their places, whatever
the errors, so no slice goes back or cuts a character. With colours off nothing is added, and what
is put together is the text.
-/

namespace DeclLang

namespace SourceUnit

variable {offset : Nat} {cs : List Char} {tokens : List Token}

/-- A piece is cut off where its last character ends. -/
theorem cutPiece_append {stop : Nat} {front : List Char}
    (reached : stop = offset + Utf8.size front) (back : List Char) :
    cutPiece offset stop (front ++ back) = .ok (front, back) := by
  subst reached
  rw [cutPiece, if_pos (Nat.le_add_right _ _), Nat.add_sub_cancel_left, Utf8.split?_append]

/-- Painting passes a gap and the token behind it. -/
theorem paintFrom_token (coloured : Bool) (done : List String) {gap rest : List Char} {t : Token}
    (start : t.span.start.offset = offset + Utf8.size gap)
    (finish : t.span.finish.offset = t.span.start.offset + Utf8.size t.text.toList) :
    paintFrom coloured done offset (gap ++ (t.text.toList ++ rest)) (t :: tokens) =
      paintFrom coloured (t.kind.ink.paint coloured t.text :: String.ofList gap :: done)
        t.span.finish.offset rest tokens := by
  simp only [paintFrom, cutPiece_append start, cutPiece_append finish, bind, Except.bind]

/-- Without colours the pieces done and the text that is left are the same text at every token. -/
theorem paintFrom_plain (layout : Token.LaidOut offset cs tokens) (done : List String) :
    paintFrom false done offset cs tokens =
      .ok (String.join done.reverse ++ String.ofList cs) := by
  induction layout generalizing done with
  | gap offset blank =>
      rw [paintFrom, List.reverse_cons, String.join_append, String.join_cons, String.join_nil,
        String.append_empty]
  | @token offset gap rest t tokens blank filled start finish later ih =>
      have plain : t.kind.ink.paint false t.text = t.text := rfl
      rw [paintFrom_token false done start finish, plain, ih]
      simp only [List.reverse_cons, String.join_append, String.join_cons, String.join_nil,
        String.append_empty, String.ofList_append, String.ofList_toList, String.append_assoc]

theorem laidOut_of_scanRecovering (name text : String) :
    Token.LaidOut 0 text.toList (scanRecovering name text).1.tokens := by
  obtain ⟨steps, finish, course, recovered, -⟩ := scan_eq_of_course name text
  rw [recovered]
  exact course.laidOut

/-- A slice between two tokens, before the first one or after the last goes forward from one
character to another. -/
theorem sliced_of_mem_gapRanges {text : String} (layout : Token.LaidOut 0 text.toList tokens)
    {range : Nat × Nat} (between : range ∈ Token.gapRanges 0 text.utf8ByteSize tokens) :
    range.1 ≤ range.2 ∧ ∃ gap, Utf8.slice? range.1 range.2 text.toList = some gap := by
  obtain ⟨gaps, slices, -, -⟩ := layout.tiling.gaps
  have sliced : Utf8.slice? range.1 range.2 text.toList ∈ gaps.map some := by
    rw [← slices]
    exact List.mem_map_of_mem between
  obtain ⟨gap, -, found⟩ := List.mem_map.mp sliced
  obtain ⟨before, after, -, start, finish⟩ := Utf8.slice?_eq_some_iff.mp found.symm
  refine ⟨?_, gap, found.symm⟩
  rw [← start, ← finish, Utf8.size_append]
  exact Nat.le_add_right _ _

/-- The command that prints a source prints what is painted of it, with errors or without. -/
theorem exists_report_of_painted {coloured : Bool} {name text source : String}
    (whole : painted coloured (scanRecovering name text).1 = .ok source) :
    ∃ report, Command.execute coloured (.lex name false) (.ok text) = .ok report ∧
      report.printed = source ++ "\n" := by
  simp only [Command.execute, Command.executeLex, whole, Bool.false_eq_true, if_false,
    Except.map, bind, Except.bind]
  split
  · exact ⟨_, rfl, rfl⟩
  · exact ⟨_, rfl, rfl⟩

/-- **Painting without colours gives the source back.** Whatever the errors of a scan, its tokens are
painted back to the text. No slice of the text between them goes back or cuts a character, and the
command that prints a source prints it with a line feed behind it. -/
theorem painted_scanRecovering (name text : String) :
    painted false (scanRecovering name text).1 = .ok text ∧
      (∀ range ∈ Token.gapRanges 0 text.utf8ByteSize (scanRecovering name text).1.tokens,
        range.1 ≤ range.2 ∧ ∃ gap, Utf8.slice? range.1 range.2 text.toList = some gap) ∧
      ∃ report, Command.execute false (.lex name false) (.ok text) = .ok report ∧
        report.printed = text ++ "\n" := by
  have layout := laidOut_of_scanRecovering name text
  have whole : painted false (scanRecovering name text).1 = .ok text := by
    have kept : (scanRecovering name text).1.text = text := rfl
    rw [painted, kept, paintFrom_plain layout]
    exact congrArg Except.ok String.ofList_toList
  exact ⟨whole, fun _ between => sliced_of_mem_gapRanges layout between,
    exists_report_of_painted whole⟩

end SourceUnit

end DeclLang
