import DeclLang.Proofs.Lexeme.LongestMatch
import DeclLang.Proofs.Scan.Course

/-!
# Runes and the errors of a scan

A recovering scan reports one error for each rune and no other, and the rune tells which one it is:
a rune that starts with a quote is a string that is never closed, and any other rune is one
character, an operator sign or not. So the errors of a unit can be read off its tokens
(`DeclLang.SourceUnit.errors_scanRecovering`). A string that is never closed is the last token.
-/

namespace DeclLang

namespace Lexeme

variable {c : Char} {rest after : List Char} {lexeme : Lexeme}

/-- A character that no rule accepts is neither an operator sign nor a quote. -/
theorem unruled_of_read (read : Lexeme.read c rest = (lexeme, after))
    (unruled : lexeme.rule = none) :
    lexeme = ⟨none, c, []⟩ ∧ isSign c = false ∧ c ≠ '"' := by
  have found := wins_or_noneStarts c rest
  rw [read] at found
  rcases found with ⟨rule, isRule, -⟩ | ⟨alone, noRule⟩
  · rw [unruled] at isRule
    cases isRule
  · have atHead : [c] <+: c :: rest := List.prefix_append [c] rest
    refine ⟨alone, ?_, ?_⟩
    · by_contra sign
      rw [Bool.not_eq_false] at sign
      apply noRule .loneOperator [c] (List.cons_ne_nil c []) atHead
      exact Rule.mem_language_loneOperator.mpr ⟨c, sign, rfl⟩
    · rintro rfl
      apply noRule .unclosedString ['"'] (List.cons_ne_nil _ []) atHead
      exact Rule.mem_language_unclosedString.mpr ⟨[], Language.nil_mem_kstar _, Or.inl rfl⟩

/-- A lone operator is a single character, and a sign. -/
theorem loneOperator_of_read (read : Lexeme.read c rest = (lexeme, after))
    (lone : lexeme.rule = some .loneOperator) :
    lexeme = ⟨some .loneOperator, c, []⟩ ∧ isSign c = true := by
  have found := wins_or_noneStarts c rest
  have first := first_read c rest
  rw [read] at found first
  rcases found with ⟨rule, isRule, wins⟩ | ⟨alone, -⟩
  · obtain rfl := Option.some.inj (lone.symm.trans isRule)
    obtain ⟨d, sign, spelled⟩ := Rule.mem_language_loneOperator.mp wins.accepted
    obtain ⟨same, others⟩ := List.cons.inj spelled
    obtain ⟨rule, first', others'⟩ := lexeme
    simp only at lone first same others
    subst lone first others
    rw [same]
    exact ⟨rfl, sign⟩
  · rw [show lexeme = _ from alone] at lone
    cases lone

/-- A string that is never closed starts with a quote and takes all of the text. -/
theorem unclosedString_of_read (read : Lexeme.read c rest = (lexeme, after))
    (unclosed : lexeme.rule = some .unclosedString) : c = '"' ∧ after = [] := by
  have found := wins_or_noneStarts c rest
  have whole := append_of_read read
  rw [read] at found
  rcases found with ⟨rule, isRule, wins⟩ | ⟨alone, -⟩
  · obtain rfl := Option.some.inj (unclosed.symm.trans isRule)
    obtain ⟨_, -, -, started⟩ := Rule.head_of_accepted wins.accepted wins.atHead
    obtain rfl : c = '"' := eq_of_beq started
    refine ⟨rfl, ?_⟩
    -- What is read after the quote wins too, so it is the same string with nothing left after it.
    obtain ⟨sameChars, sameRule⟩ := wins.unique (wins_readString rest)
    have ends := stringEnds_readString [] rest
    generalize readString [] rest = result at ends sameChars sameRule
    cases ends with
    | closed items after => cases sameRule
    | unclosed items ended =>
        change lexeme.chars ++ after = _ at whole
        rw [← sameChars, List.cons_append] at whole
        exact List.append_right_eq_self.mp (List.cons.inj whole).2
  · rw [show lexeme = _ from alone] at unclosed
    cases unclosed

end Lexeme

namespace ScanError

/-- The error for a piece at fault, told by the position and the first character of the piece. -/
def ofFirst (p : Position) (c : Char) : ScanError :=
  if c = '"' then .unterminatedString p
  else if Lexeme.isSign c then .malformedOperator p c
  else .unrecognizedCharacter p c

/-- The error for a character is found at the place it was given. -/
theorem position_ofFirst (p : Position) (c : Char) : (ofFirst p c).position = p := by
  unfold ofFirst
  split
  · rfl
  split <;> rfl

end ScanError

/-- The error that a rune stands for; no other token stands for one. -/
def Token.scanError? (t : Token) : Option ScanError :=
  if t.kind = .rune then t.text.toList.head?.map (ScanError.ofFirst t.span.startPosition) else none

/-- A token with an error is a rune, and the error is where the rune starts. -/
theorem Token.rune_of_scanError? {t : Token} {e : ScanError} (found : t.scanError? = some e) :
    t.kind = .rune ∧ ∃ c others, t.text.toList = c :: others ∧
      e = ScanError.ofFirst t.span.startPosition c := by
  unfold scanError? at found
  split at found
  · rename_i isRune
    obtain ⟨c, first, same⟩ := Option.map_eq_some_iff.mp found
    obtain ⟨others, spelled⟩ := List.head?_eq_some_iff.mp first
    exact ⟨isRune, c, others, spelled, same.symm⟩
  · cases found

namespace ScanStep

variable {source : String} {c : Char} {rest after : List Char} {lexeme : Lexeme}
  {start finish : Location} {step : ScanStep}

/-- The error of a step is the one that its rune stands for. -/
theorem error?_of_ofLexeme? (read : Lexeme.read c rest = (lexeme, after))
    (found : ofLexeme? source lexeme start finish = some step) :
    step.error? = step.emitted.scanError? := by
  have spelled : (String.ofList lexeme.chars).toList.head? = some lexeme.first := by
    rw [String.toList_ofList]
    rfl
  have first : lexeme.first = c := by
    have first := Lexeme.first_read c rest
    rwa [read] at first
  rw [ofLexeme?] at found
  split at found
  next => cases found
  next => cases found; rfl
  next => cases found; rfl
  next => cases found; rfl
  next => cases found; rfl
  next unclosed =>
    cases found
    obtain ⟨quote, -⟩ := Lexeme.unclosedString_of_read read unclosed
    simp only [error?, emitted, Token.scanError?, ↓reduceIte, spelled, Option.map_some,
      ScanError.ofFirst, first, quote]
    rfl
  next lone =>
    cases found
    obtain ⟨-, sign⟩ := Lexeme.loneOperator_of_read read lone
    have noQuote : c ≠ '"' := by
      rintro rfl
      cases sign
    simp only [error?, emitted, Token.scanError?, ↓reduceIte, spelled, Option.map_some,
      ScanError.ofFirst, first, noQuote, sign]
    rfl
  next unruled =>
    cases found
    obtain ⟨-, noSign, noQuote⟩ := Lexeme.unruled_of_read read unruled
    simp only [error?, emitted, Token.scanError?, ↓reduceIte, spelled, Option.map_some,
      ScanError.ofFirst, first, noQuote, noSign, Bool.false_eq_true]
    rfl

/-- A rune is one character, or else a string that is never closed, after which no text is left. -/
theorem rune_of_ofLexeme? (read : Lexeme.read c rest = (lexeme, after))
    (found : ofLexeme? source lexeme start finish = some step)
    (isRune : step.emitted.kind = .rune) :
    (∃ c, c ≠ '"' ∧ step.emitted.text.toList = [c]) ∨
      step.emitted.text.toList.head? = some '"' ∧ after = [] := by
  have text := (emitted_of_ofLexeme? found).1
  rw [text, String.toList_ofList]
  rw [ofLexeme?] at found
  split at found
  next => cases found
  next => cases found; cases isRune
  next => cases found; cases isRune
  next => cases found; cases isRune
  next => cases found; cases isRune
  next unclosed =>
    obtain ⟨quote, ended⟩ := Lexeme.unclosedString_of_read read unclosed
    have first := Lexeme.first_read c rest
    rw [read, quote] at first
    exact Or.inr ⟨congrArg some first, ended⟩
  next lone =>
    obtain ⟨alone, sign⟩ := Lexeme.loneOperator_of_read read lone
    refine Or.inl ⟨c, ?_, ?_⟩
    · rintro rfl
      cases sign
    · rw [alone]
      rfl
  next unruled =>
    obtain ⟨alone, -, noQuote⟩ := Lexeme.unruled_of_read read unruled
    refine Or.inl ⟨c, noQuote, ?_⟩
    rw [alone]
    rfl

namespace Course

variable {here finish : Cursor} {cs : List Char} {steps : List ScanStep}

/-- The errors of a scan are those that its runes stand for. -/
theorem errors_eq (course : Course source here cs steps finish) :
    steps.filterMap error? = (steps.map emitted).filterMap Token.scanError? := by
  induction course with
  | finished here => rfl
  | skipped read blank later ih => exact ih
  | taken read found later ih =>
      rw [List.map_cons, List.filterMap_cons, List.filterMap_cons, error?_of_ofLexeme? read found,
        ih]

/-- A rune is one character, or else a string that is never closed and the last token. -/
theorem rune_spelled (course : Course source here cs steps finish) :
    ∀ rune ∈ steps.map emitted, rune.kind = .rune →
      (∃ c, c ≠ '"' ∧ rune.text.toList = [c]) ∨
        rune.text.toList.head? = some '"' ∧ (steps.map emitted).getLast? = some rune := by
  induction course with
  | finished here => simp
  | skipped read blank later ih => exact ih
  | @taken here c rest after lexeme step steps finish read found later ih =>
      intro rune member isRune
      rcases List.mem_cons.mp member with rfl | member
      · rcases rune_of_ofLexeme? read found isRune with alone | ⟨quote, rfl⟩
        · exact Or.inl alone
        · cases later with
          | finished => exact Or.inr ⟨quote, rfl⟩
      · rcases ih rune member isRune with alone | ⟨quote, isLast⟩
        · exact Or.inl alone
        · refine Or.inr ⟨quote, ?_⟩
          rw [List.map_cons, List.getLast?_cons, isLast]
          rfl

end Course

end ScanStep

namespace SourceUnit

/-- The errors of a recovering scan are read off the runes of its unit. -/
theorem errors_scanRecovering (name text : String) :
    (scanRecovering name text).2 =
      (scanRecovering name text).1.tokens.filterMap Token.scanError? := by
  obtain ⟨steps, finish, course, recovered, -⟩ := scan_eq_of_course name text
  rw [recovered]
  exact course.errors_eq

/-- A rune is one character other than a quote, or it is a string that runs to the end of the
text. -/
theorem rune_spelled_of_scanRecovering (name text : String) :
    ∀ rune ∈ (scanRecovering name text).1.tokens, rune.kind = .rune →
      (∃ c, c ≠ '"' ∧ rune.text.toList = [c]) ∨
        rune.text.toList.head? = some '"' ∧
          (scanRecovering name text).1.tokens.getLast? = some rune := by
  obtain ⟨steps, finish, course, recovered, -⟩ := scan_eq_of_course name text
  rw [recovered]
  exact course.rune_spelled

end SourceUnit

end DeclLang
