import DeclLang.Proofs.Source.Order
import DeclLang.Scan.Unit

/-!
# The course of a scan

A scan passes one lexeme after another, and each but white space is a step. The course of a scan
from a cursor lists these steps without the bookkeeping of the loop. A recovering scan takes the
whole course; a strict scan takes it up to the first failure
(`DeclLang.SourceUnit.scan_eq_of_course`). Facts about all scans are proved by induction on the
course, the first of them being that the tokens are in order.
-/

namespace DeclLang

/-- A lexeme takes its characters from the front of the text and leaves the others. -/
theorem Lexeme.append_of_read {c : Char} {rest after : List Char} {lexeme : Lexeme}
    (read : Lexeme.read c rest = (lexeme, after)) : lexeme.chars ++ after = c :: rest := by
  have whole := chars_read_append c rest
  rwa [read] at whole

namespace Cursor

@[simp]
theorem advanceAll_nil (here : Cursor) : here.advanceAll [] = here :=
  rfl

@[simp]
theorem advanceAll_cons (here : Cursor) (c : Char) (cs : List Char) :
    here.advanceAll (c :: cs) = (here.advance c).advanceAll cs :=
  rfl

@[simp]
theorem advanceAll_append (here : Cursor) (front back : List Char) :
    here.advanceAll (front ++ back) = (here.advanceAll front).advanceAll back :=
  List.foldl_append

@[simp]
theorem location_origin : origin.location = Location.origin :=
  rfl

@[simp]
theorem location_advance (here : Cursor) (c : Char) :
    (here.advance c).location = here.location.advance c :=
  rfl

/-- The line starts that a cursor notes have no effect on where it is. -/
@[simp]
theorem location_advanceAll (here : Cursor) (cs : List Char) :
    (here.advanceAll cs).location = here.location.advanceAll cs := by
  induction cs generalizing here with
  | nil => rfl
  | cons c cs ih => simp [ih]

theorem location_le_advanceAll (here : Cursor) (cs : List Char) :
    here.location ≤ (here.advanceAll cs).location := by
  simpa using here.location.le_advanceAll cs

end Cursor

namespace ScanStep

/-- A lexeme yields no step exactly when it is white space. -/
theorem ofLexeme?_eq_none_iff {source : String} {lexeme : Lexeme} {start finish : Location} :
    ofLexeme? source lexeme start finish = none ↔ lexeme.rule = some .blank := by
  rw [ofLexeme?]
  split <;> simp_all

/-- A step emits the characters of its lexeme, where they stand. -/
theorem emitted_of_ofLexeme? {source : String} {lexeme : Lexeme} {start finish : Location}
    {step : ScanStep} (found : ofLexeme? source lexeme start finish = some step) :
    step.emitted.text = String.ofList lexeme.chars ∧
      step.emitted.span = ⟨source, start, finish⟩ := by
  rw [ofLexeme?] at found
  split at found <;> cases found <;> exact ⟨rfl, rfl⟩

/-- Runes are emitted by failures and by nothing else. -/
theorem kind_of_ofLexeme? {source : String} {lexeme : Lexeme} {start finish : Location}
    {step : ScanStep} (found : ofLexeme? source lexeme start finish = some step) :
    step.emitted.kind = .rune ↔ step.error?.isSome := by
  rw [ofLexeme?] at found
  split at found <;> cases found <;> simp [emitted, error?]

/-- An error is found where its rune starts. -/
theorem position_of_ofLexeme? {source : String} {lexeme : Lexeme} {start finish : Location}
    {step : ScanStep} (found : ofLexeme? source lexeme start finish = some step) :
    ∀ e ∈ step.error?, e.position = step.emitted.span.startPosition := by
  rw [ofLexeme?] at found
  split at found <;> cases found <;> rintro e ⟨⟩ <;> rfl

/-- The tokens emitted before the first failure. -/
def beforeFailure : List ScanStep → List Token
  | [] => []
  | .token t :: steps => t :: beforeFailure steps
  | .failure _ _ :: _ => []

/-- Without a failure, all tokens come before it. -/
theorem beforeFailure_of_clean {steps : List ScanStep} (clean : steps.filterMap error? = []) :
    beforeFailure steps = steps.map emitted := by
  induction steps with
  | nil => rfl
  | cons step steps ih =>
      cases step with
      | token t => rw [beforeFailure, ih clean]; rfl
      | failure e rune => cases clean

/-- The tokens of a strict scan are the first ones of a recovering scan. -/
theorem beforeFailure_prefix (steps : List ScanStep) :
    beforeFailure steps <+: steps.map emitted := by
  induction steps with
  | nil => exact List.nil_prefix
  | cons step steps ih =>
      cases step with
      | token t => exact List.cons_prefix_cons.mpr ⟨rfl, ih⟩
      | failure e rune => exact List.nil_prefix

/-- The course of a scan from a cursor to the end of a text: its steps, and the cursor at the
end. -/
inductive Course (source : String) : Cursor → List Char → List ScanStep → Cursor → Prop
  | finished (here : Cursor) : Course source here [] [] here
  | skipped {here : Cursor} {c : Char} {rest after : List Char} {lexeme : Lexeme}
      {steps : List ScanStep} {finish : Cursor} (read : Lexeme.read c rest = (lexeme, after))
      (blank : ofLexeme? source lexeme here.location
        (here.advanceAll lexeme.chars).location = none)
      (later : Course source (here.advanceAll lexeme.chars) after steps finish) :
      Course source here (c :: rest) steps finish
  | taken {here : Cursor} {c : Char} {rest after : List Char} {lexeme : Lexeme} {step : ScanStep}
      {steps : List ScanStep} {finish : Cursor} (read : Lexeme.read c rest = (lexeme, after))
      (found : ofLexeme? source lexeme here.location
        (here.advanceAll lexeme.chars).location = some step)
      (later : Course source (here.advanceAll lexeme.chars) after steps finish) :
      Course source here (c :: rest) (step :: steps) finish

/-- Every text gives a scan its course. -/
theorem exists_course (source : String) (here : Cursor) :
    (cs : List Char) → ∃ steps finish, Course source here cs steps finish
  | [] => ⟨[], here, .finished here⟩
  | c :: rest => by
      obtain ⟨steps, finish, later⟩ := exists_course source
        (here.advanceAll (Lexeme.read c rest).1.chars) (Lexeme.read c rest).2
      cases found : ofLexeme? source (Lexeme.read c rest).1 here.location
          (here.advanceAll (Lexeme.read c rest).1.chars).location with
      | none => exact ⟨steps, finish, .skipped rfl found later⟩
      | some step => exact ⟨step :: steps, finish, .taken rfl found later⟩
termination_by cs => cs.length
decreasing_by exact Nat.lt_succ_of_le (Lexeme.length_read_le c rest)

/-- A recovering scan takes its whole course. -/
theorem recovering_of_course {source : String} {here finish : Cursor} {cs : List Char}
    {steps : List ScanStep} (course : Course source here cs steps finish)
    (done : List ScanStep) :
    recovering source done here cs = (done.reverse ++ steps, finish) := by
  induction course generalizing done with
  | finished here => rw [recovering, List.append_nil]
  | skipped read blank later ih =>
      rw [recovering]
      simp only [read, blank]
      exact ih done
  | taken read found later ih =>
      rw [recovering]
      simp only [read, found, ih, List.reverse_cons, List.append_assoc, List.singleton_append]

/-- How a strict scan ends that has a course: at the first error, if there is one. -/
def Course.ending (steps : List ScanStep) (finish : Cursor) : Except ScanError Cursor :=
  match (steps.filterMap error?).head? with
  | none => .ok finish
  | some e => .error e

/-- A strict scan takes its course up to the first failure. -/
theorem strict_of_course {source : String} {here finish : Cursor} {cs : List Char}
    {steps : List ScanStep} (course : Course source here cs steps finish) (done : List Token) :
    strict source done here cs =
      (done.reverse ++ beforeFailure steps, Course.ending steps finish) := by
  induction course generalizing done with
  | finished here => rw [strict, beforeFailure, List.append_nil]; rfl
  | skipped read blank later ih =>
      rw [strict]
      simp only [read, blank]
      exact ih done
  | @taken here c rest after lexeme step steps finish read found later ih =>
      rw [strict]
      simp only [read, found]
      cases step with
      | token t =>
          simp only [ih, beforeFailure, List.reverse_cons, List.append_assoc,
            List.singleton_append]
          rfl
      | failure e rune => rw [beforeFailure, List.append_nil]; rfl

variable {source : String} {here finish : Cursor} {cs : List Char} {steps : List ScanStep}

/-- A scan never goes back, so its tokens are in order and none starts before the cursor. -/
theorem Course.inOrder (course : Course source here cs steps finish) :
    Token.InOrder source (steps.map emitted) ∧
      ∀ t ∈ (steps.map emitted).head?, here.location ≤ t.span.start := by
  induction course with
  | finished here =>
      refine ⟨.nil, fun t first => ?_⟩
      cases first
  | @skipped here c rest after lexeme steps finish read blank later ih =>
      refine ⟨ih.1, fun t first => ?_⟩
      have onward := here.location_le_advanceAll lexeme.chars
      exact onward.trans (ih.2 t first)
  | @taken here c rest after lexeme step steps finish read found later ih =>
      have onward := here.location_le_advanceAll lexeme.chars
      have span := (emitted_of_ofLexeme? found).2
      refine ⟨.cons ?_ ?_ ?_ ih.1, fun t first => ?_⟩
      · rw [span]
      · rw [span]
        exact onward
      · rw [span]
        exact ih.2
      · obtain rfl := Option.some.inj first
        rw [span]

/-- A course without errors emits no rune. -/
theorem Course.kind_ne_rune (course : Course source here cs steps finish)
    (clean : steps.filterMap error? = []) : ∀ t ∈ steps.map emitted, t.kind ≠ .rune := by
  induction course with
  | finished here => simp
  | skipped read blank later ih => exact ih clean
  | @taken here c rest after lexeme step steps finish read found later ih =>
      rw [List.filterMap_cons] at clean
      cases failed : step.error? with
      | some e => simp [failed] at clean
      | none =>
          rw [failed] at clean
          intro t member
          rcases List.mem_cons.mp member with rfl | member
          · rw [ne_eq, kind_of_ofLexeme? found, failed]
            exact Bool.false_ne_true
          · exact ih clean t member

end ScanStep

namespace SourceUnit

variable {name text : String} {steps : List ScanStep} {finish : Cursor}

/-- A recovering scan takes the whole course: every step emits its token, and every failure adds its
error. -/
theorem scanRecovering_of_course
    (course : ScanStep.Course name Cursor.origin text.toList steps finish) :
    scanRecovering name text =
      (⟨name, text, finish.lines, steps.map ScanStep.emitted⟩,
        steps.filterMap ScanStep.error?) := by
  rw [scanRecovering, recoveringSteps, ScanStep.recovering_of_course course]
  rfl

/-- A strict scan is decided by the first error of the course, and without one it makes the same
unit. -/
theorem scan_of_course (course : ScanStep.Course name Cursor.origin text.toList steps finish) :
    scan name text =
      match (steps.filterMap ScanStep.error?).head? with
      | none => .ok ⟨name, text, finish.lines, steps.map ScanStep.emitted⟩
      | some e => .error e := by
  rw [scan, strictTokens, ScanStep.strict_of_course course, ScanStep.Course.ending]
  cases first : (steps.filterMap ScanStep.error?).head? with
  | none => rw [ScanStep.beforeFailure_of_clean (List.head?_eq_none_iff.mp first)]; rfl
  | some e => rfl

/-- Both scans of a text take the same course: the recovering one takes all of it, and the strict
one yields the same unit unless the course has an error, of which it yields the first. -/
theorem scan_eq_of_course (name text : String) :
    ∃ steps finish, ScanStep.Course name Cursor.origin text.toList steps finish ∧
      scanRecovering name text =
        (⟨name, text, finish.lines, steps.map ScanStep.emitted⟩,
          steps.filterMap ScanStep.error?) ∧
      scan name text =
        match (steps.filterMap ScanStep.error?).head? with
        | none => .ok ⟨name, text, finish.lines, steps.map ScanStep.emitted⟩
        | some e => .error e := by
  obtain ⟨steps, finish, course⟩ := ScanStep.exists_course name Cursor.origin text.toList
  exact ⟨steps, finish, course, scanRecovering_of_course course, scan_of_course course⟩

/-- A strict scan succeeds exactly when the recovering scan has no error, with the same unit. -/
theorem scan_eq_ok_iff {unit : SourceUnit} :
    scan name text = .ok unit ↔ scanRecovering name text = (unit, []) := by
  obtain ⟨steps, finish, -, recovered, scanned⟩ := scan_eq_of_course name text
  rw [recovered, scanned]
  cases errors : steps.filterMap ScanStep.error? with
  | nil => simp
  | cons e es => simp

/-- The tokens of every recovering scan are in order. -/
theorem inOrder_of_scanRecovering (name text : String) :
    Token.InOrder name (scanRecovering name text).1.tokens := by
  obtain ⟨steps, finish, course, recovered, -⟩ := scan_eq_of_course name text
  rw [recovered]
  exact course.inOrder.1

theorem inOrder_of_scan {unit : SourceUnit} (scanned : scan name text = .ok unit) :
    Token.InOrder name unit.tokens := by
  have inOrder := inOrder_of_scanRecovering name text
  rwa [scan_eq_ok_iff.mp scanned] at inOrder

/-- A strict scan fails with the first error of the recovering scan. -/
theorem scan_eq_error_iff {e : ScanError} :
    scan name text = .error e ↔ (scanRecovering name text).2.head? = some e := by
  obtain ⟨steps, finish, -, recovered, scanned⟩ := scan_eq_of_course name text
  rw [recovered, scanned]
  cases errors : steps.filterMap ScanStep.error? with
  | nil => simp
  | cons e es => simp

end SourceUnit

end DeclLang
