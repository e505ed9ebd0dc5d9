import DeclLang.Proofs.Lexeme.Seam
import DeclLang.Proofs.Scan.Positions
import DeclLang.Proofs.Scan.Tiling
import DeclLang.Proofs.Source.Shift

/-!
# Scanning across white space

White space between two texts keeps their lexemes apart, so the texts scan together as they scan one
by one. The second text only moves: its tokens, its errors and its lines stand behind the first text
and the gap. A string of the first text that is not closed would run on and is left out.
-/

namespace DeclLang

namespace Cursor

/-- A cursor that stands behind some characters where another stands without them. -/
structure Behind (front : List Char) (here there : Cursor) : Prop where
  placed : there.location = here.location.shift front
  counted : 1 ≤ here.location.line

/-- Where the first text ends, a cursor stands behind the whole of it. -/
theorem behind_origin (front : List Char) : Behind front origin (origin.advanceAll front) where
  placed := by simp [Location.advanceAll_origin]
  counted := Nat.le_refl 1

/-- Passing the same characters keeps a cursor behind the same text. -/
theorem Behind.advanceAll {front : List Char} {here there : Cursor}
    (behind : Behind front here there) (cs : List Char) :
    Behind front (here.advanceAll cs) (there.advanceAll cs) where
  placed := by simp [behind.placed, Location.advanceAll_shift front behind.counted]
  counted := by simpa using behind.counted.trans (here.location.line_le_advanceAll cs)

end Cursor

/-- A text behind some white space starts with white space. -/
theorem Text.isBlank_of_head?_append {gap : String} (filled : gap ≠ "")
    (blank : ∀ c ∈ gap.toList, Text.isBlank c = true) (tail : List Char) :
    ∀ d ∈ (gap.toList ++ tail).head?, Text.isBlank d = true := by
  intro d first
  have notEmpty : gap.toList ≠ [] := fun empty => filled (String.toList_eq_nil_iff.mp empty)
  rw [List.head?_append_of_ne_nil _ notEmpty] at first
  exact blank d (List.mem_of_mem_head? first)

namespace ScanStep

variable {source : String} {here there finish finish' : Cursor} {cs gap tail : List Char}
  {steps steps' : List ScanStep}

/-- Behind some characters a scan takes the same steps, moved. -/
theorem Course.shift {front : List Char} (course : Course source here cs steps finish)
    (behind : Cursor.Behind front here there) :
    ∃ finish', Course source there cs (steps.map (ScanStep.shift front)) finish' := by
  induction course generalizing there with
  | finished here => exact ⟨there, .finished there⟩
  | @skipped here c rest after lexeme steps finish read blank later ih =>
      have onward := behind.advanceAll lexeme.chars
      obtain ⟨finish', later'⟩ := ih onward
      refine ⟨finish', .skipped read ?_ later'⟩
      rw [behind.placed, onward.placed, ofLexeme?_shift, blank]
      rfl
  | @taken here c rest after lexeme step steps finish read found later ih =>
      have onward := behind.advanceAll lexeme.chars
      obtain ⟨finish', later'⟩ := ih onward
      refine ⟨finish', .taken read ?_ later'⟩
      rw [behind.placed, onward.placed, ofLexeme?_shift, found]
      rfl

/-- A scan that starts at white space passes all of it. -/
theorem Course.after_blank (course : Course source here cs steps finish) :
    Course source (here.advanceAll (cs.takeWhile Text.isBlank)) (cs.dropWhile Text.isBlank) steps
      finish := by
  cases cs with
  | nil => exact course
  | cons c rest =>
      by_cases blank : Text.isBlank c = true
      · rw [List.takeWhile_cons_of_pos blank, List.dropWhile_cons_of_pos blank]
        cases course with
        | skipped read _ later =>
            cases (Lexeme.read_of_isBlank blank rest).symm.trans read
            exact later
        | taken read found _ =>
            cases (Lexeme.read_of_isBlank blank rest).symm.trans read
            cases found
      · rw [List.takeWhile_cons_of_neg blank, List.dropWhile_cons_of_neg blank]
        exact course

/-- White space in front of a text is passed over, together with the white space that the text
starts with. -/
theorem Course.blank_append (blank : ∀ c ∈ gap, Text.isBlank c = true)
    (course : Course source (here.advanceAll gap) cs steps finish) :
    Course source here (gap ++ cs) steps finish := by
  cases gap with
  | nil => exact course
  | cons c gap =>
      obtain ⟨first, others⟩ := List.forall_mem_cons.mp blank
      have read := Lexeme.read_of_isBlank first (gap ++ cs)
      rw [List.takeWhile_append_of_pos others, List.dropWhile_append_of_pos others] at read
      have later := course.after_blank
      rw [← Cursor.advanceAll_append] at later
      exact .skipped read rfl later

/-- A text with a course is followed by white space and another course. -/
theorem Course.append (course : Course source here cs steps finish)
    (closed : ∀ p, .unterminatedString p ∉ steps.filterMap error?)
    (blank : ∀ d ∈ tail.head?, Text.isBlank d = true)
    (later : Course source finish tail steps' finish') :
    Course source here (cs ++ tail) (steps ++ steps') finish' := by
  induction course with
  | finished here => exact later
  | @skipped here c rest after lexeme steps finish read blank' onward ih =>
      -- White space at the end of the text runs on, but it yields nothing either way.
      have passed := ih closed later
      rw [← Lexeme.append_of_read read, List.append_assoc]
      exact passed.blank_append (isBlank_of_mem_blank read (ofLexeme?_eq_none_iff.mp blank'))
  | @taken here c rest after lexeme step steps finish read found onward ih =>
      have closed' : ∀ p, .unterminatedString p ∉ steps.filterMap error? := by
        intro p member
        have kept := (List.sublist_cons_self step steps).filterMap error?
        exact closed p (kept.subset member)
      have inked : lexeme.rule ≠ some .blank := by
        intro isBlank
        rw [ofLexeme?_eq_none_iff.mpr isBlank] at found
        cases found
      have ended : lexeme.rule ≠ some .unclosedString := by
        intro unclosed
        rw [ofLexeme?, unclosed] at found
        cases found
        exact closed _ List.mem_cons_self
      exact .taken (Lexeme.read_append read inked ended blank) found (ih closed' later)

end ScanStep

/-- What a token shows apart from its place. -/
def Token.spelling (t : Token) : TokenKind × String :=
  (t.kind, t.text)

namespace SourceUnit

variable {name : String}

/-- Two texts with white space between them scan to the tokens, errors and lines of both, those of
the second moved. -/
theorem scanRecovering_append {a gap b : String} (filled : gap ≠ "")
    (blank : ∀ c ∈ gap.toList, Text.isBlank c = true)
    (closed : ∀ p, .unterminatedString p ∉ (scanRecovering name a).2) :
    (scanRecovering name (a ++ gap ++ b)).1.tokens =
        (scanRecovering name a).1.tokens ++
          (scanRecovering name b).1.tokens.map (Token.shift (a ++ gap).toList) ∧
      (scanRecovering name (a ++ gap ++ b)).2 =
        (scanRecovering name a).2 ++
          (scanRecovering name b).2.map (ScanError.shift (a ++ gap).toList) ∧
      (scanRecovering name (a ++ gap ++ b)).1.lines.starts =
        (scanRecovering name (a ++ gap)).1.lines.starts ++
          (scanRecovering name b).1.lines.starts.tail.map (· + (a ++ gap).utf8ByteSize) := by
  obtain ⟨steps, finish, course, recovered, -⟩ := scan_eq_of_course name a
  obtain ⟨steps', finish', course', recovered', -⟩ := scan_eq_of_course name b
  rw [recovered] at closed
  have starts := Text.isBlank_of_head?_append filled blank b.toList
  obtain ⟨reached, moved⟩ := course'.shift (Cursor.behind_origin (a ++ gap).toList)
  have passed : ScanStep.Course name finish (gap.toList ++ b.toList)
      (steps'.map (ScanStep.shift (a ++ gap).toList)) reached := by
    refine ScanStep.Course.blank_append blank ?_
    rw [course.finish_eq, ← Cursor.advanceAll_append, ← String.toList_append]
    exact moved
  have whole := course.append closed starts passed
  rw [← List.append_assoc, ← String.toList_append, ← String.toList_append] at whole
  refine ⟨?_, ?_, ?_⟩
  · rw [scanRecovering_of_course whole, recovered, recovered']
    simp [Function.comp_def]
  · rw [scanRecovering_of_course whole, recovered, recovered']
    simp [List.map_filterMap]
  · rw [lines_scanRecovering, lines_scanRecovering, lines_scanRecovering, String.toList_append,
      LineTable.starts_ofText_append, Utf8.size_toList]

/-- Texts joined to one, with white space between each and the next. -/
inductive Joined : List String → String → Prop
  | nil : Joined [] ""
  | single (text : String) : Joined [text] text
  | cons {text gap next rest : String} {texts : List String} (filled : gap ≠ "")
      (blank : ∀ c ∈ gap.toList, Text.isBlank c = true) (later : Joined (next :: texts) rest) :
      Joined (text :: next :: texts) (text ++ gap ++ rest)

/-- A text that scans to one token and does not end inside a string. -/
structure Lone (name text : String) (t : Token) : Prop where
  token : (scanRecovering name text).1.tokens = [t]
  closed : ∀ p, .unterminatedString p ∉ (scanRecovering name text).2

/-- Texts of one token each scan together to these tokens, without an error if each has none. -/
theorem Joined.scanned {texts : List String} {text : String} {tokens : List Token}
    (joined : Joined texts text) (lone : List.Forall₂ (Lone name) texts tokens) :
    (scanRecovering name text).1.tokens.map Token.spelling = tokens.map Token.spelling ∧
      ((∀ part ∈ texts, (scanRecovering name part).2 = []) →
        (scanRecovering name text).2 = []) := by
  induction joined generalizing tokens with
  | nil =>
      cases lone
      have course : ScanStep.Course name Cursor.origin "".toList [] Cursor.origin :=
        .finished Cursor.origin
      rw [scanRecovering_of_course course]
      exact ⟨rfl, fun _ => rfl⟩
  | single text =>
      obtain ⟨t, _, first, others, rfl⟩ := List.forall₂_cons_left_iff.mp lone
      cases others
      rw [first.token]
      exact ⟨rfl, fun clean => clean text List.mem_cons_self⟩
  | @cons text gap next rest texts filled blank later ih =>
      obtain ⟨t, tokens, first, others, rfl⟩ := List.forall₂_cons_left_iff.mp lone
      obtain ⟨spelled, clean⟩ := ih others
      obtain ⟨tokensJoined, errorsJoined, -⟩ := scanRecovering_append filled blank first.closed
      constructor
      -- The places of the rest move, so only kinds and texts can be compared.
      · have moved : ((scanRecovering name rest).1.tokens.map
            (Token.shift (text ++ gap).toList)).map Token.spelling =
              tokens.map Token.spelling := by
          rw [List.map_map, ← spelled]
          rfl
        rw [tokensJoined, first.token, List.map_append, moved]
        rfl
      · intro allClean
        obtain ⟨firstClean, othersClean⟩ := List.forall_mem_cons.mp allClean
        rw [errorsJoined, firstClean, clean othersClean]
        rfl

/-- **Scanning composes across white space.** Two texts with white space between them scan to the
tokens, the errors and the lines of the first, followed by those of the second at their places
behind the first and the gap, unless the first ends inside a string. So texts of one token each,
joined by white space, scan to just these tokens. -/
theorem scan_composes_across_blank (name : String) :
    (∀ a gap b : String, gap ≠ "" → (∀ c ∈ gap.toList, Text.isBlank c = true) →
      (∀ p, .unterminatedString p ∉ (scanRecovering name a).2) →
      (scanRecovering name (a ++ gap ++ b)).1.tokens =
          (scanRecovering name a).1.tokens ++
            (scanRecovering name b).1.tokens.map (Token.shift (a ++ gap).toList) ∧
        (scanRecovering name (a ++ gap ++ b)).2 =
          (scanRecovering name a).2 ++
            (scanRecovering name b).2.map (ScanError.shift (a ++ gap).toList) ∧
        (scanRecovering name (a ++ gap ++ b)).1.lines.starts =
          (scanRecovering name (a ++ gap)).1.lines.starts ++
            (scanRecovering name b).1.lines.starts.tail.map (· + (a ++ gap).utf8ByteSize)) ∧
    (∀ texts text tokens, Joined texts text → List.Forall₂ (Lone name) texts tokens →
      (scanRecovering name text).1.tokens.map Token.spelling = tokens.map Token.spelling) ∧
    (∀ texts text tokens, Joined texts text →
      List.Forall₂ (fun part t => ∃ unit, scan name part = .ok unit ∧ unit.tokens = [t])
        texts tokens →
      ∃ unit, scan name text = .ok unit ∧
        unit.tokens.map Token.spelling = tokens.map Token.spelling) := by
  refine ⟨fun a gap b filled blank closed => scanRecovering_append filled blank closed,
    fun texts text tokens joined lone => (joined.scanned lone).1,
    fun texts text tokens joined scanned => ?_⟩
  have sound : List.Forall₂
      (fun part t => (scanRecovering name part).2 = [] ∧ Lone name part t) texts tokens := by
    refine scanned.imp ?_
    rintro part t ⟨unit, passed, single⟩
    rw [scan_eq_ok_iff] at passed
    exact ⟨by rw [passed], by rw [passed, single], by simp [passed]⟩
  obtain ⟨clean, lone⟩ := (List.forall₂_and_left _ _).mp sound
  obtain ⟨spelled, joinedClean⟩ := joined.scanned lone
  exact ⟨_, scan_eq_ok_iff.mpr (Prod.ext rfl (joinedClean clean)), spelled⟩

/-- A failed character and an unclosed string across a line feed, and three tokens on two lines. -/
theorem scan_across_lineFeed :
    ((scanRecovering "main" ("é @" ++ " \n\t" ++ "x\n \"open")).1.tokens =
        (scanRecovering "main" "é @").1.tokens ++
          (scanRecovering "main" "x\n \"open").1.tokens.map
            (Token.shift ("é @" ++ " \n\t").toList) ∧
      (scanRecovering "main" ("é @" ++ " \n\t" ++ "x\n \"open")).2 =
        [.unrecognizedCharacter ⟨"main", 1, 3, 3⟩ '@', .unterminatedString ⟨"main", 3, 2, 10⟩]) ∧
    ∃ unit, scan "main" ("x" ++ " " ++ ("==" ++ "\n" ++ "1")) = .ok unit ∧
      unit.tokens.map Token.spelling =
        [(.identifier, "x"), (.operator, "=="), (.number, "1")] := by
  have first : (scanRecovering "main" "é @").2 =
      [.unrecognizedCharacter ⟨"main", 1, 3, 3⟩ '@'] := by decide +kernel
  have second : (scanRecovering "main" "x\n \"open").2 =
      [.unterminatedString ⟨"main", 2, 2, 3⟩] := by decide +kernel
  have composed := (scan_composes_across_blank "main").1 "é @" " \n\t" "x\n \"open"
    (by decide) (List.all_eq_true.mp (by decide +kernel)) (by simp [first])
  obtain ⟨tokens, errors, -⟩ := composed
  refine ⟨⟨tokens, ?_⟩, ?_⟩
  · rw [errors, first, second]
    decide +kernel
  · have joined : Joined ["x", "==", "1"] ("x" ++ " " ++ ("==" ++ "\n" ++ "1")) :=
      .cons (by decide) (List.all_eq_true.mp (by decide +kernel))
        (.cons (by decide) (List.all_eq_true.mp (by decide +kernel)) (.single "1"))
    have name : scan "main" "x" = .ok ⟨"main", "x", ⟨[0], 1⟩, [.single .identifier "x" 0]⟩ := by
      decide +kernel
    have comparison : scan "main" "==" = .ok ⟨"main", "==", ⟨[0], 2⟩,
        [⟨.operator, "==", "main", ⟨1, 1, 0⟩, ⟨1, 3, 2⟩⟩]⟩ := by
      decide +kernel
    have number : scan "main" "1" = .ok ⟨"main", "1", ⟨[0], 1⟩, [.single .number "1" 0]⟩ := by
      decide +kernel
    exact (scan_composes_across_blank "main").2.2 _ _ _ joined
      (.cons ⟨_, name, rfl⟩ (.cons ⟨_, comparison, rfl⟩ (.cons ⟨_, number, rfl⟩ .nil)))

end SourceUnit

end DeclLang
