import DeclLang.Proofs.Source.Lines
import DeclLang.Scan.Unit

/-!
# Places behind a text

When a text is put in front of another, every place of the second moves: down by the line feeds of
the first, by its bytes, and, on the first line only, to the right by the characters of its last
line. A running location that starts behind the first text gives the moved places one by one.
-/

namespace DeclLang

namespace Location

/-- The place of a location when some characters are put in front of its text. -/
def shift (front : List Char) (here : Location) : Location :=
  ⟨here.line + front.count '\n',
    if here.line = 1 then here.column + (front.rtakeWhile inLine).length else here.column,
    here.offset + Utf8.size front⟩

/-- The start of a text moves to the end of the characters put in front. -/
@[simp]
theorem shift_origin (front : List Char) : origin.shift front = after front := by
  have first : origin.line = 1 := rfl
  rw [shift, after, if_pos first]
  exact congrArg _ (Nat.zero_add _)

theorem line_le_advance (here : Location) (c : Char) : here.line ≤ (here.advance c).line := by
  rw [advance]
  split
  · exact Nat.le_succ _
  · exact Nat.le_refl _

/-- No characters move a location up a line, so lines count from one throughout. -/
theorem line_le_advanceAll (here : Location) (cs : List Char) :
    here.line ≤ (here.advanceAll cs).line := by
  induction cs generalizing here with
  | nil => exact Nat.le_refl _
  | cons c cs ih => exact (here.line_le_advance c).trans (ih (here.advance c))

/-- Moving over a character does the same behind a text. Lines count from one, so that no later line
is taken for the first. -/
theorem advance_shift (front : List Char) {here : Location} (counted : 1 ≤ here.line) (c : Char) :
    (here.shift front).advance c = (here.advance c).shift front := by
  rw [advance, advance]
  by_cases feed : c = '\n'
  · have later : ¬ here.line + 1 = 1 := by omega
    rw [if_pos feed, if_pos feed]
    simp only [shift, if_neg later, Location.mk.injEq, true_and]
    omega
  · rw [if_neg feed, if_neg feed]
    simp only [shift, Location.mk.injEq, true_and]
    constructor
    · split
      · omega
      · rfl
    · omega

/-- Moving over characters does the same behind a text. -/
theorem advanceAll_shift (front : List Char) {here : Location} (counted : 1 ≤ here.line)
    (cs : List Char) : (here.shift front).advanceAll cs = (here.advanceAll cs).shift front := by
  induction cs generalizing here with
  | nil => rfl
  | cons c cs ih =>
      rw [advanceAll_cons, advanceAll_cons, advance_shift front counted]
      exact ih (counted.trans (here.line_le_advance c))

end Location

/-- The place of a position when some characters are put in front of its text. -/
def Position.shift (front : List Char) (p : Position) : Position :=
  ⟨p.source, p.location.shift front⟩

/-- The place of a span when some characters are put in front of its text. -/
def Span.shift (front : List Char) (s : Span) : Span :=
  ⟨s.source, s.start.shift front, s.finish.shift front⟩

/-- A token when some characters are put in front of its text. -/
def Token.shift (front : List Char) (t : Token) : Token :=
  ⟨t.kind, t.text, t.span.shift front⟩

/-- A scan error when some characters are put in front of its text. -/
def ScanError.shift (front : List Char) : ScanError → ScanError
  | .unterminatedString p => .unterminatedString (p.shift front)
  | .unrecognizedCharacter p c => .unrecognizedCharacter (p.shift front) c
  | .malformedOperator p c => .malformedOperator (p.shift front) c

namespace ScanStep

/-- A step when some characters are put in front of its text. -/
def shift (front : List Char) : ScanStep → ScanStep
  | .token t => .token (t.shift front)
  | .failure e rune => .failure (e.shift front) (rune.shift front)

@[simp]
theorem emitted_shift (front : List Char) (step : ScanStep) :
    (step.shift front).emitted = step.emitted.shift front := by
  cases step <;> rfl

@[simp]
theorem error?_shift (front : List Char) (step : ScanStep) :
    (step.shift front).error? = step.error?.map (ScanError.shift front) := by
  cases step <;> rfl

/-- What a lexeme yields moves with its place. -/
@[simp]
theorem ofLexeme?_shift (front : List Char) (source : String) (lexeme : Lexeme)
    (start finish : Location) :
    ofLexeme? source lexeme (start.shift front) (finish.shift front) =
      (ofLexeme? source lexeme start finish).map (shift front) := by
  rw [ofLexeme?, ofLexeme?]
  split <;> rfl

end ScanStep

namespace LineTable

/-- The lines of a text behind another start later by the bytes of the other. -/
theorem startsAfterFeeds_add (offset distance : Nat) (cs : List Char) :
    startsAfterFeeds (offset + distance) cs = (startsAfterFeeds offset cs).map (· + distance) := by
  induction cs generalizing offset with
  | nil => rfl
  | cons c cs ih =>
      have moved : offset + distance + c.utf8Size = offset + c.utf8Size + distance :=
        Nat.add_right_comm ..
      rw [startsAfterFeeds, startsAfterFeeds, moved, ih]
      split <;> rfl

/-- The line table of two texts joined, in which the first line of the second is no line of its
own. -/
theorem starts_ofText_append (front back : List Char) :
    (ofText (front ++ back)).starts =
      (ofText front).starts ++ (ofText back).starts.tail.map (· + Utf8.size front) := by
  rw [ofText, startsAfterFeeds_append, startsAfterFeeds_add]
  rfl

end LineTable

end DeclLang
