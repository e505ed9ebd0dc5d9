import DeclLang.Proofs.Lexeme.Seam
import DeclLang.Proofs.Scan.Positions

/-!
# A scan up to its first error

A text with a scan error is sound up to the place of the first one. Cut there, it has the same
lexemes as before, since each of them ends before the cut, and so the same tokens: those that a
recovering scan of the whole text emits before its first rune. A strict scan stops at this error,
and where there is none the two scans yield the same unit.
-/

namespace DeclLang

namespace ScanStep

variable {source : String} {here finish : Cursor} {cs : List Char} {steps : List ScanStep}

/-- A text scans without an error up to the place of the first one. -/
theorem Course.before_error (course : Course source here cs steps finish) {e : ScanError}
    (first : (steps.filterMap error?).head? = some e) :
    ∃ before after clean reached, cs = before ++ after ∧
      Course source here before clean reached ∧ reached.location = e.position.location ∧
      clean.filterMap error? = [] ∧
      clean.map emitted = (steps.map emitted).takeWhile fun t => t.kind != .rune := by
  induction course with
  | finished here => cases first
  | @skipped here c rest onward lexeme steps finish read blank later ih =>
      obtain ⟨before, after, clean, reached, rfl, passed, located, silent, emits⟩ := ih first
      obtain ⟨-, split⟩ := Lexeme.others_append_of_read read
      refine ⟨c :: (lexeme.others ++ before), after, clean, reached, ?_, ?_, located, silent, emits⟩
      · rw [List.cons_append, List.append_assoc, split]
      · exact .skipped (Lexeme.read_of_append read) blank passed
  | @taken here c rest onward lexeme step steps finish read found later ih =>
      have kinded := kind_of_ofLexeme? found
      cases step with
      | failure error rune =>
          -- The text is cut in front of the lexeme at fault, where its error is.
          obtain rfl : error = e := Option.some.inj first
          refine ⟨[], c :: rest, [], here, rfl, .finished here, ?_, rfl, ?_⟩
          · rw [position_of_ofLexeme? found error rfl, (emitted_of_ofLexeme? found).2]
            rfl
          · have isRune : (emitted (.failure error rune)).kind = .rune := kinded.mpr rfl
            rw [List.map_cons, List.takeWhile_cons_of_neg (by simp [isRune])]
            rfl
      | token t =>
          obtain ⟨before, after, clean, reached, rfl, passed, located, silent, emits⟩ := ih first
          obtain ⟨-, split⟩ := Lexeme.others_append_of_read read
          refine ⟨c :: (lexeme.others ++ before), after, .token t :: clean, reached, ?_, ?_,
            located, silent, ?_⟩
          · rw [List.cons_append, List.append_assoc, split]
          · exact .taken (Lexeme.read_of_append read) found passed
          · have noRune : (emitted (.token t)).kind ≠ .rune := by
              intro isRune
              exact Bool.false_ne_true (kinded.mp isRune)
            rw [List.map_cons, List.map_cons, List.takeWhile_cons_of_pos (by simp [noRune]), emits]

end ScanStep

namespace SourceUnit

/-- **Strict and recovering scans agree.** A strict scan yields a unit exactly when a recovering one
has no error, and then the same unit; it fails at the first error of the recovering scan otherwise.
The text before the place of this error then scans to the tokens before the first rune. -/
theorem scans_agree_before_first_error (name text : String) :
    (∀ unit, scan name text = .ok unit ↔ scanRecovering name text = (unit, [])) ∧
    (∀ e, scan name text = .error e ↔ (scanRecovering name text).2.head? = some e) ∧
    ∀ e, scan name text = .error e →
      ∃ before after unit, text = before ++ after ∧
        before.utf8ByteSize = e.position.location.offset ∧
        scan name before = .ok unit ∧
        unit.tokens = (scanRecovering name text).1.tokens.takeWhile fun t => t.kind != .rune := by
  refine ⟨fun unit => scan_eq_ok_iff, fun e => scan_eq_error_iff, ?_⟩
  intro e failed
  obtain ⟨steps, finish, course, recovered, -⟩ := scan_eq_of_course name text
  rw [scan_eq_error_iff, recovered] at failed
  obtain ⟨before, after, clean, reached, split, passed, located, silent, emits⟩ :=
    course.before_error failed
  have size : reached.location.offset = Utf8.size before := by
    simp [passed.finish_eq, Location.origin]
  have spelled : (String.ofList before).toList = before := String.toList_ofList
  rw [← spelled] at passed
  have scanned := scan_of_course passed
  rw [silent] at scanned
  refine ⟨String.ofList before, String.ofList after, _, ?_, ?_, scanned, ?_⟩
  · rw [← String.ofList_append, ← split, String.ofList_toList]
  · rw [← located, size, Utf8.size_eq_utf8ByteSize]
  · rw [recovered]
    exact emits

/-- The name and the string before a lone equals sign scan without it. -/
theorem scan_before_loneOperator :
    scan "main" "é \"s\" = 1" = .error (.malformedOperator ⟨"main", 1, 7, 7⟩ '=') ∧
      ∃ before after unit, "é \"s\" = 1" = before ++ after ∧ before.utf8ByteSize = 7 ∧
        scan "main" before = .ok unit ∧
        unit.tokens =
          (scanRecovering "main" "é \"s\" = 1").1.tokens.takeWhile fun t => t.kind != .rune := by
  have failed : scan "main" "é \"s\" = 1" = .error (.malformedOperator ⟨"main", 1, 7, 7⟩ '=') := by
    decide +kernel
  exact ⟨failed, (scans_agree_before_first_error "main" "é \"s\" = 1").2.2 _ failed⟩

end SourceUnit

end DeclLang
