import DeclLang.Proofs.Lexeme.LongestMatch
import DeclLang.Proofs.Scan.Course
import DeclLang.Proofs.Source.Bytes

/-!
# The tokens tile the text

The tokens of a scan are slices of its text, one after another, and only white space stands between
them. So the text is its tokens with the gaps around them, and every other character lies in exactly
one token. A layout lists the gaps and the tokens of a text in turn; a scan keeps one as it goes on,
whichever rule its lexemes follow.
-/

namespace DeclLang

namespace Token

/-- The byte ranges before, between and after some tokens of a text from `start` to `finish`. -/
def gapRanges (start finish : Nat) : List Token → List (Nat × Nat)
  | [] => [(start, finish)]
  | t :: tokens => (start, t.span.start.offset) :: gapRanges t.span.finish.offset finish tokens

/-- Some gaps and the texts of some tokens in turn, beginning with a gap. -/
def interleave : List (List Char) → List Token → List Char
  | gap :: gaps, t :: tokens => gap ++ t.text.toList ++ interleave gaps tokens
  | gaps, _ => gaps.flatten

/-- Tokens that tile a text: slices of it with something in them, one after another, with white
space before, between and after them. -/
structure Tiling (text : String) (tokens : List Token) : Prop where
  nonempty : ∀ t ∈ tokens, t.span.start.offset < t.span.finish.offset
  disjoint : tokens.Pairwise fun earlier later =>
    earlier.span.finish.offset ≤ later.span.start.offset
  sliced : ∀ t ∈ tokens,
    Utf8.slice? t.span.start.offset t.span.finish.offset text.toList = some t.text.toList
  gaps : ∃ gaps : List (List Char),
    (gapRanges 0 text.utf8ByteSize tokens).map
        (fun range => Utf8.slice? range.1 range.2 text.toList) = gaps.map some ∧
      (∀ gap ∈ gaps, ∀ c ∈ gap, Text.isBlank c = true) ∧
      interleave gaps tokens = text.toList
  covered : ∀ before c after, text.toList = before ++ c :: after → Text.isBlank c = false →
    ∃! t, t ∈ tokens ∧ t.span.start.offset ≤ Utf8.size before ∧
      Utf8.size (before ++ [c]) ≤ t.span.finish.offset

/-- A text from an offset on, laid out as gaps of white space and tokens in turn. -/
inductive LaidOut : Nat → List Char → List Token → Prop
  | gap (offset : Nat) {gap : List Char} (blank : ∀ c ∈ gap, Text.isBlank c = true) :
      LaidOut offset gap []
  | token {offset : Nat} {gap rest : List Char} {t : Token} {tokens : List Token}
      (blank : ∀ c ∈ gap, Text.isBlank c = true) (filled : t.text.toList ≠ [])
      (start : t.span.start.offset = offset + Utf8.size gap)
      (finish : t.span.finish.offset = t.span.start.offset + Utf8.size t.text.toList)
      (later : LaidOut t.span.finish.offset rest tokens) :
      LaidOut offset (gap ++ (t.text.toList ++ rest)) (t :: tokens)

namespace LaidOut

variable {offset : Nat} {cs : List Char} {tokens : List Token}

/-- White space in front of a layout makes its first gap longer. -/
theorem of_gap {gap : List Char} (blank : ∀ c ∈ gap, Text.isBlank c = true)
    (layout : LaidOut (offset + Utf8.size gap) cs tokens) :
    LaidOut offset (gap ++ cs) tokens := by
  cases layout with
  | gap _ blank' => exact .gap offset (List.forall_mem_append.mpr ⟨blank, blank'⟩)
  | @token _ gap' rest t tokens blank' filled start finish later =>
      rw [← List.append_assoc]
      refine .token (List.forall_mem_append.mpr ⟨blank, blank'⟩) filled ?_ finish later
      simp [start, Nat.add_assoc]

/-- No token of a layout is empty. -/
theorem nonempty (layout : LaidOut offset cs tokens) :
    ∀ t ∈ tokens, t.span.start.offset < t.span.finish.offset := by
  induction layout with
  | gap => simp
  | token blank filled start finish later ih =>
      refine List.forall_mem_cons.mpr ⟨?_, ih⟩
      rw [finish]
      exact Nat.lt_add_of_pos_right (Utf8.size_pos filled)

/-- No token of a layout starts before it. -/
theorem offset_le (layout : LaidOut offset cs tokens) :
    ∀ t ∈ tokens, offset ≤ t.span.start.offset := by
  induction layout with
  | gap => simp
  | token blank filled start finish later ih =>
      refine List.forall_mem_cons.mpr ⟨?_, fun t member => ?_⟩
      · omega
      · have := ih t member
        omega

/-- No two tokens of a layout share a byte. -/
theorem disjoint (layout : LaidOut offset cs tokens) :
    tokens.Pairwise fun earlier later =>
      earlier.span.finish.offset ≤ later.span.start.offset := by
  induction layout with
  | gap => exact .nil
  | token blank filled start finish later ih => exact .cons later.offset_le ih

/-- The text up to the end of a token has the bytes that its span counts. -/
theorem size_through {before gap : List Char} {t : Token} (placed : Utf8.size before = offset)
    (start : t.span.start.offset = offset + Utf8.size gap)
    (finish : t.span.finish.offset = t.span.start.offset + Utf8.size t.text.toList) :
    Utf8.size (before ++ gap ++ t.text.toList) = t.span.finish.offset := by
  simp [placed, start, finish, Nat.add_assoc]

/-- Each token of a layout is the slice of the text at its span. -/
theorem sliced (layout : LaidOut offset cs tokens) (before : List Char)
    (placed : Utf8.size before = offset) :
    ∀ t ∈ tokens,
      Utf8.slice? t.span.start.offset t.span.finish.offset (before ++ cs) =
        some t.text.toList := by
  induction layout generalizing before with
  | gap => simp
  | @token offset gap rest t tokens blank filled start finish later ih =>
      have passed := size_through placed start finish
      have whole : before ++ (gap ++ (t.text.toList ++ rest)) =
          before ++ gap ++ t.text.toList ++ rest := by
        simp only [List.append_assoc]
      rw [whole]
      refine List.forall_mem_cons.mpr ⟨?_, ih _ passed⟩
      refine Utf8.slice?_eq_some_iff.mpr ⟨before ++ gap, rest, rfl, ?_, passed⟩
      simp [placed, start]

/-- The text between the tokens of a layout is white space, and in turn with the tokens it gives the
text back. -/
theorem gaps (layout : LaidOut offset cs tokens) (before : List Char)
    (placed : Utf8.size before = offset) :
    ∃ gaps : List (List Char),
      (gapRanges offset (Utf8.size (before ++ cs)) tokens).map
          (fun range => Utf8.slice? range.1 range.2 (before ++ cs)) = gaps.map some ∧
        (∀ gap ∈ gaps, ∀ c ∈ gap, Text.isBlank c = true) ∧
        interleave gaps tokens = cs := by
  induction layout generalizing before with
  | @gap offset gap blank =>
      refine ⟨[gap], ?_, by simpa using blank, by simp [interleave]⟩
      have slice : Utf8.slice? offset (Utf8.size (before ++ gap)) (before ++ gap) = some gap :=
        Utf8.slice?_eq_some_iff.mpr ⟨before, [], (List.append_nil _).symm, placed, rfl⟩
      rw [gapRanges, List.map_singleton, slice]
      rfl
  | @token offset gap rest t tokens blank filled start finish later ih =>
      have passed := size_through placed start finish
      have whole : before ++ (gap ++ (t.text.toList ++ rest)) =
          before ++ gap ++ t.text.toList ++ rest := by
        simp only [List.append_assoc]
      rw [whole]
      obtain ⟨gaps, slices, allBlank, woven⟩ := ih _ passed
      refine ⟨gap :: gaps, ?_, List.forall_mem_cons.mpr ⟨blank, allBlank⟩, ?_⟩
      · have slice : Utf8.slice? offset t.span.start.offset
            (before ++ gap ++ t.text.toList ++ rest) = some gap := by
          refine Utf8.slice?_eq_some_iff.mpr
            ⟨before, t.text.toList ++ rest, List.append_assoc .., placed, ?_⟩
          simp [placed, start]
        rw [gapRanges, List.map_cons, slices, slice]
        rfl
      · rw [interleave, woven, List.append_assoc]

/-- A character found in two texts joined is found in the first or in the second. -/
theorem before_or_after {cs cs' front back : List Char} {c : Char}
    (found : cs ++ cs' = front ++ c :: back) :
    (∃ back', cs = front ++ c :: back') ∨ ∃ front', front = cs ++ front' ∧
      cs' = front' ++ c :: back := by
  rcases List.append_eq_append_iff.mp found with ⟨front', before, after⟩ | ⟨back', before, after⟩
  · exact Or.inr ⟨front', before, after⟩
  · cases back' with
    | nil => exact Or.inr ⟨[], by simp [before], by simpa using after.symm⟩
    | cons d back' =>
        obtain ⟨rfl, -⟩ := List.cons.inj after
        exact Or.inl ⟨back', before⟩

/-- A character that is not white space cannot lie in a gap, so some token covers it. -/
theorem exists_covering (layout : LaidOut offset cs tokens) {front back : List Char} {c : Char}
    (found : cs = front ++ c :: back) (inked : Text.isBlank c = false) :
    ∃ t ∈ tokens, t.span.start.offset ≤ offset + Utf8.size front ∧
      offset + Utf8.size (front ++ [c]) ≤ t.span.finish.offset := by
  induction layout generalizing front with
  | gap offset blank =>
      have contrary := blank c (found ▸ List.mem_append_cons_self)
      rw [inked] at contrary
      cases contrary
  | @token offset gap rest t tokens blank filled start finish later ih =>
      -- The character is in the gap, in the token or behind both.
      rcases before_or_after found with ⟨back', inGap⟩ | ⟨inner, rfl, onward⟩
      · have contrary := blank c (inGap ▸ List.mem_append_cons_self)
        rw [inked] at contrary
        cases contrary
      rcases before_or_after onward with ⟨back', inToken⟩ | ⟨further, rfl, beyond⟩
      · refine ⟨t, List.mem_cons_self, ?_, ?_⟩
        · rw [start, Utf8.size_append]
          omega
        · rw [finish, start, inToken]
          simp only [Utf8.size_append, Utf8.size_cons, Utf8.size_nil]
          omega
      · obtain ⟨u, member, starts, finishes⟩ := ih beyond
        refine ⟨u, List.mem_cons_of_mem _ member, ?_, ?_⟩
        · simp only [Utf8.size_append] at starts ⊢
          omega
        · simp only [Utf8.size_append] at finishes ⊢
          omega

/-- One of two tokens ends before the other starts. -/
def Apart (t u : Token) : Prop :=
  t.span.finish.offset ≤ u.span.start.offset ∨ u.span.finish.offset ≤ t.span.start.offset

/-- No two tokens share a character. -/
theorem eq_of_covering (layout : LaidOut offset cs tokens) {t u : Token} (first : t ∈ tokens)
    (second : u ∈ tokens) {start finish : Nat} (filled : start < finish)
    (covers : t.span.start.offset ≤ start ∧ finish ≤ t.span.finish.offset)
    (covers' : u.span.start.offset ≤ start ∧ finish ≤ u.span.finish.offset) : u = t := by
  by_contra different
  have : Std.Symm Apart := ⟨fun _ _ => Or.symm⟩
  have apart : tokens.Pairwise Apart := layout.disjoint.imp Or.inl
  rcases apart.forall second first different with before | before <;> omega

/-- A layout of a whole text is a tiling of it. -/
theorem tiling {text : String} (layout : LaidOut 0 text.toList tokens) : Tiling text tokens where
  nonempty := layout.nonempty
  disjoint := layout.disjoint
  sliced := layout.sliced [] Utf8.size_nil
  gaps := by
    rw [← Utf8.size_toList]
    exact layout.gaps [] Utf8.size_nil
  covered before c after found inked := by
    obtain ⟨t, member, starts, finishes⟩ := layout.exists_covering found inked
    rw [Nat.zero_add] at starts finishes
    refine ⟨t, ⟨member, starts, finishes⟩, fun u other => ?_⟩
    refine layout.eq_of_covering member other.1 ?_ ⟨starts, finishes⟩ other.2
    rw [Utf8.size_append]
    exact Nat.lt_add_of_pos_right (Utf8.size_pos (List.cons_ne_nil c []))

end LaidOut

end Token

namespace ScanStep

/-- What the rule of blanks takes is white space. -/
theorem isBlank_of_mem_blank {c : Char} {rest after : List Char} {lexeme : Lexeme}
    (read : Lexeme.read c rest = (lexeme, after)) (blank : lexeme.rule = some .blank) :
    ∀ d ∈ lexeme.chars, Text.isBlank d = true := by
  have won := Lexeme.wins_or_noneStarts c rest
  rw [read] at won
  rcases won with ⟨rule, isRule, wins⟩ | ⟨alone, -⟩
  · obtain rfl := Option.some.inj (blank.symm.trans isRule)
    obtain ⟨first, others, spelled, firstBlank, blanks⟩ := Rule.mem_run.mp wins.accepted
    rw [spelled]
    exact List.forall_mem_cons.mpr ⟨firstBlank, blanks⟩
  · simp only at alone
    rw [alone] at blank
    cases blank

/-- A scan keeps a layout of the text. -/
theorem Course.laidOut {source : String} {here finish : Cursor} {cs : List Char}
    {steps : List ScanStep} (course : Course source here cs steps finish) :
    Token.LaidOut here.location.offset cs (steps.map emitted) := by
  induction course with
  | finished here => exact .gap _ (by simp)
  | @skipped here c rest after lexeme steps finish read blank later ih =>
      rw [Cursor.location_advanceAll, Location.offset_advanceAll] at ih
      rw [← Lexeme.append_of_read read]
      exact ih.of_gap (isBlank_of_mem_blank read (ofLexeme?_eq_none_iff.mp blank))
  | @taken here c rest after lexeme step steps finish read found later ih =>
      obtain ⟨text, span⟩ := emitted_of_ofLexeme? found
      have chars : step.emitted.text.toList = lexeme.chars := by
        rw [text, String.toList_ofList]
      rw [← Lexeme.append_of_read read, List.map_cons, ← chars]
      refine @Token.LaidOut.token _ [] _ _ _ (by simp) ?_ ?_ ?_ ?_
      · rw [chars]
        exact List.cons_ne_nil _ _
      · simp [span]
      · simp [span, chars]
      · rw [span]
        exact ih

end ScanStep

namespace SourceUnit

/-- The tokens of every scan tile its text, those of a recovering scan whatever its errors. -/
theorem tiling_of_scans (name text : String) :
    Token.Tiling text (scanRecovering name text).1.tokens ∧
      ∀ unit, scan name text = .ok unit → unit.text = text ∧ Token.Tiling text unit.tokens := by
  obtain ⟨steps, finish, course, recovered, scanned⟩ := scan_eq_of_course name text
  have tiling : Token.Tiling text (steps.map ScanStep.emitted) := course.laidOut.tiling
  refine ⟨by rwa [recovered], fun unit passed => ?_⟩
  rw [scanned] at passed
  split at passed
  · obtain rfl := Except.ok.inj passed
    exact ⟨rfl, tiling⟩
  · cases passed

/-- A name of two bytes, a comparison and a string over two lines. -/
def mixedWidths : SourceUnit where
  name := "main"
  text := "é == \"\n\""
  lines := ⟨[0, 8], 9⟩
  tokens :=
    [⟨.identifier, "é", "main", ⟨1, 1, 0⟩, ⟨1, 2, 2⟩⟩,
     ⟨.operator, "==", "main", ⟨1, 3, 3⟩, ⟨1, 5, 5⟩⟩,
     ⟨.string, "\"\n\"", "main", ⟨1, 6, 6⟩, ⟨2, 2, 9⟩⟩]

/-- Three tokens over two lines, the first a letter of two bytes, the last one with a line feed. -/
theorem tiling_of_mixedWidths :
    scan "main" mixedWidths.text = .ok mixedWidths ∧
      Token.Tiling mixedWidths.text mixedWidths.tokens := by
  have scanned : scan "main" mixedWidths.text = .ok mixedWidths := by decide +kernel
  exact ⟨scanned, ((tiling_of_scans "main" mixedWidths.text).2 mixedWidths scanned).2⟩

end SourceUnit

end DeclLang
