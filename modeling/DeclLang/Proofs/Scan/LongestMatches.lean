import DeclLang.Proofs.Lexeme.LongestMatch
import DeclLang.Proofs.Scan.Course

/-!
# A scan takes longest matches

What a scan yields is determined by the languages of the rules alone: at each place it takes the
longest piece that some rule accepts, yields what that one rule yields, and goes on after the piece;
where no rule accepts anything it takes one character and fails.
-/

namespace DeclLang

/-- The kind of the tokens of a rule. White space is no token, and an unclosed string and a lone
operator are faults. -/
def Rule.kind? : Rule → Option TokenKind
  | .name => some .identifier
  | .number => some .number
  | .string => some .string
  | .comparison => some .operator
  | .blank | .unclosedString | .loneOperator => none

namespace ScanStep

/-- The token over a piece of a source. -/
def piece (source : String) (here : Location) (kind : TokenKind) (cs : List Char) : Token :=
  ⟨kind, String.ofList cs, ⟨source, here, here.advanceAll cs⟩⟩

/-- A match at the head of a text: the piece that one rule wins and what it yields, or one
character and its failure when no rule accepts anything. -/
inductive Match (source : String) (here : Location) (text : List Char) :
    List Char → Option ScanStep → Prop
  | blank {cs : List Char} (wins : Rule.blank.Wins cs text) : Match source here text cs none
  | token {rule : Rule} {kind : TokenKind} {cs : List Char} (kinded : rule.kind? = some kind)
      (wins : rule.Wins cs text) :
      Match source here text cs (some (.token (piece source here kind cs)))
  | unclosedString {cs : List Char} (wins : Rule.unclosedString.Wins cs text) :
      Match source here text cs
        (some (.failure (.unterminatedString ⟨source, here⟩) (piece source here .rune cs)))
  | loneOperator {c : Char} (wins : Rule.loneOperator.Wins [c] text) :
      Match source here text [c]
        (some (.failure (.malformedOperator ⟨source, here⟩ c) (piece source here .rune [c])))
  | unrecognized {c : Char} (first : text.head? = some c) (noRule : Rule.NoneStarts text) :
      Match source here text [c]
        (some (.failure (.unrecognizedCharacter ⟨source, here⟩ c) (piece source here .rune [c])))

/-- The steps of longest matches, one after another up to the end of a text. -/
inductive LongestMatches (source : String) : Location → List Char → List ScanStep → Prop
  | finished (here : Location) : LongestMatches source here [] []
  | matched {here : Location} {cs rest : List Char} {step? : Option ScanStep}
      {steps : List ScanStep} (first : Match source here (cs ++ rest) cs step?)
      (later : LongestMatches source (here.advanceAll cs) rest steps) :
      LongestMatches source here (cs ++ rest) (step?.toList ++ steps)

variable {source : String} {here : Location}

/-- The lexeme read at the head of a text is the match there. -/
theorem match_read (source : String) (here : Location) (c : Char) (rest : List Char) :
    Match source here (c :: rest) (Lexeme.read c rest).1.chars
      (ofLexeme? source (Lexeme.read c rest).1 here
        (here.advanceAll (Lexeme.read c rest).1.chars)) := by
  rcases Lexeme.wins_or_noneStarts c rest with ⟨rule, isRule, wins⟩ | ⟨alone, noRule⟩
  · rw [ofLexeme?, isRule]
    cases rule with
    | blank => exact .blank wins
    | name => exact .token rfl wins
    | number => exact .token rfl wins
    | string => exact .token rfl wins
    | unclosedString => exact .unclosedString wins
    | comparison => exact .token rfl wins
    | loneOperator =>
        obtain ⟨d, -, spelled⟩ := Rule.mem_language_loneOperator.mp wins.accepted
        rw [spelled] at wins ⊢
        rw [(List.cons.inj spelled).1]
        exact .loneOperator wins
  · rw [alone]
    exact .unrecognized rfl noRule

/-- There is no other match than the lexeme read. -/
theorem Match.eq_read {c : Char} {rest cs : List Char} {step? : Option ScanStep}
    (found : Match source here (c :: rest) cs step?) :
    cs = (Lexeme.read c rest).1.chars ∧
      step? = ofLexeme? source (Lexeme.read c rest).1 here (here.advanceAll cs) := by
  cases found with
  | blank wins =>
      obtain ⟨isRule, chars⟩ := Lexeme.read_of_wins wins
      refine ⟨chars.symm, ?_⟩
      rw [ofLexeme?, isRule]
  | @token rule kind _ kinded wins =>
      obtain ⟨isRule, chars⟩ := Lexeme.read_of_wins wins
      refine ⟨chars.symm, ?_⟩
      rw [ofLexeme?, isRule, chars]
      cases rule <;> cases kinded <;> rfl
  | unclosedString wins =>
      obtain ⟨isRule, chars⟩ := Lexeme.read_of_wins wins
      refine ⟨chars.symm, ?_⟩
      rw [ofLexeme?, isRule, chars]
      rfl
  | loneOperator wins =>
      obtain ⟨isRule, chars⟩ := Lexeme.read_of_wins wins
      refine ⟨chars.symm, ?_⟩
      rw [ofLexeme?, isRule, chars, (List.cons.inj chars).1]
      rfl
  | unrecognized first noRule =>
      obtain rfl := Option.some.inj first
      rw [Lexeme.read_of_noneStarts noRule]
      exact ⟨rfl, rfl⟩

/-- Only a text with something in it has a match at its front. -/
theorem Match.ne_nil {text cs : List Char} {step? : Option ScanStep}
    (found : Match source here text cs step?) : text ≠ [] := by
  rintro rfl
  have nothing : ∀ rule : Rule, ¬ rule.Wins cs [] := fun rule wins =>
    wins.nonempty (List.prefix_nil.mp wins.atHead)
  cases found with
  | blank wins => exact nothing _ wins
  | token _ wins => exact nothing _ wins
  | unclosedString wins => exact nothing _ wins
  | loneOperator wins => exact nothing _ wins
  | unrecognized first _ => cases first

/-- A text leaves no choice of the match at its front, nor of what it yields. -/
theorem Match.unique {text cs cs' : List Char} {step? step?' : Option ScanStep}
    (found : Match source here text cs step?) (found' : Match source here text cs' step?') :
    cs' = cs ∧ step?' = step? := by
  obtain ⟨c, rest, rfl⟩ := List.exists_cons_of_ne_nil found.ne_nil
  obtain ⟨chars, step⟩ := found.eq_read
  obtain ⟨chars', step'⟩ := found'.eq_read
  have same : cs' = cs := chars'.trans chars.symm
  exact ⟨same, by rw [step', step, same]⟩

theorem LongestMatches.unique {text : List Char} {steps steps' : List ScanStep}
    (matched : LongestMatches source here text steps)
    (matched' : LongestMatches source here text steps') : steps' = steps := by
  induction matched generalizing steps' with
  | finished here =>
      generalize empty : ([] : List Char) = text at matched'
      cases matched' with
      | finished => rfl
      | matched first later => exact absurd empty.symm first.ne_nil
  | @matched here cs rest step? steps first later ih =>
      generalize whole : cs ++ rest = text at first matched'
      cases matched' with
      | finished => exact absurd rfl first.ne_nil
      | @matched _ cs' rest' step?' steps' first' later' =>
          obtain ⟨rfl, rfl⟩ := first.unique first'
          obtain rfl := List.append_cancel_left whole
          rw [ih later']

/-- The course of a scan takes the longest match at each place. -/
theorem Course.longestMatches {here finish : Cursor} {cs : List Char} {steps : List ScanStep}
    (course : Course source here cs steps finish) :
    LongestMatches source here.location cs steps := by
  induction course with
  | finished here => exact .finished here.location
  | @skipped here c rest after lexeme steps finish read blank later ih =>
      have first := match_read source here.location c rest
      rw [Cursor.location_advanceAll] at blank ih
      rw [read, ← Lexeme.append_of_read read, blank] at first
      rw [← Lexeme.append_of_read read]
      exact .matched first ih
  | @taken here c rest after lexeme step steps finish read found later ih =>
      have first := match_read source here.location c rest
      rw [Cursor.location_advanceAll] at found ih
      rw [read, ← Lexeme.append_of_read read, found] at first
      rw [← Lexeme.append_of_read read]
      exact .matched first ih

end ScanStep

namespace SourceUnit

/-- The steps of longest matches of a text are those of its recovering scan and no others, and they
are what both scans yield: the recovering scan all their tokens, runes and errors, the strict scan
the same unit, or the tokens before the first failure and its error. -/
theorem scans_take_longestMatches (name text : String) :
    ∃ steps,
      (∀ others, ScanStep.LongestMatches name Location.origin text.toList others ↔
        others = steps) ∧
      (scanRecovering name text).1.tokens = steps.map ScanStep.emitted ∧
      (scanRecovering name text).2 = steps.filterMap ScanStep.error? ∧
      (strictTokens name text).1 = ScanStep.beforeFailure steps ∧
      scan name text =
        match (steps.filterMap ScanStep.error?).head? with
        | none => .ok (scanRecovering name text).1
        | some e => .error e := by
  obtain ⟨steps, finish, course, recovered, scanned⟩ := scan_eq_of_course name text
  have longest := course.longestMatches
  refine ⟨steps, fun others => ⟨longest.unique, ?_⟩, ?_, ?_, ?_, ?_⟩
  · rintro rfl
    exact longest
  · rw [recovered]
  · rw [recovered]
  · rw [strictTokens, ScanStep.strict_of_course course]
    rfl
  · rw [recovered]
    exact scanned

end SourceUnit

end DeclLang
