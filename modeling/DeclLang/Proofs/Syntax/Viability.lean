import DeclLang.Proofs.Syntax.Grammar
import Mathlib.Order.Bounds.Basic

/-!
# Where a strict parse fails

Tokens are viable when they can still be continued to a sequence of phrases. A strict parse never
reads past the first token that ends viability, and it fails nowhere else: the error is at that
token, or at the end when the tokens are viable but no sequence of phrases. What the error asks for
is what the tokens before it await.
-/

namespace DeclLang

namespace ParseError

/-- What an error says could have stood at its place, if it says so. -/
def expected? : ParseError → Option Expectation
  | .unexpectedToken _ expected => some expected
  | .unexpectedEnd _ expected => some expected
  | .malformedNumber _ _ => none

end ParseError

namespace Phrase

/-- Tokens that are phrases, one after another. -/
def Sequence (tokens : List Token) : Prop :=
  ∃ phrases : List Phrase, tokens = phrases.flatMap Phrase.tokens

/-- Tokens that some more tokens make a sequence of phrases. -/
def Viable (tokens : List Token) : Prop :=
  ∃ more, Sequence (tokens ++ more)

/-- The first tokens of a phrase, up to a place where the grammar requires something. -/
inductive Begun : List Token → Expectation → Prop
  | unnamed : Begun [] .declaration
  | untyped (name : Token) (named : name.kind = .identifier) : Begun [name] .type
  | unvalued (name type equals : Token) (named : name.kind = .identifier)
      (typed : type.kind = .identifier) (assigned : equals.kind = .operator ∧ equals.text = "=") :
      Begun [name, type, equals] .expression

/-- Tokens that are some phrases and the first tokens of one more: between declarations, after a
name or after an equals sign. -/
def Awaits (passed : List Token) (expected : Expectation) : Prop :=
  ∃ (phrases : List Phrase) (begun : List Token),
    passed = phrases.flatMap tokens ++ begun ∧ Begun begun expected

theorem Viable.of_append {front back : List Token} (viable : Viable (front ++ back)) :
    Viable front := by
  obtain ⟨more, phrases, split⟩ := viable
  exact ⟨back ++ more, phrases, by rw [← split, List.append_assoc]⟩

/-- What is begun of a phrase starts with an identifier, if with anything. -/
theorem Begun.starts {begun : List Token} {expected : Expectation} (part : Begun begun expected) :
    ∀ next ∈ begun.head?, next.kind = .identifier := by
  intro next isNext
  cases part with
  | unnamed => cases isNext
  | untyped name named =>
      obtain rfl := Option.some.inj isNext
      exact named
  | unvalued name type equals named typed assigned =>
      obtain rfl := Option.some.inj isNext
      exact named

/-- A phrase that is begun can be finished. -/
theorem Begun.viable {begun : List Token} {expected : Expectation} (part : Begun begun expected) :
    Viable begun := by
  cases part with
  | unnamed => exact ⟨[], [], rfl⟩
  | untyped name named =>
      exact ⟨[name], [⟨name, name, none, named, named⟩], rfl⟩
  | unvalued name type equals named typed assigned =>
      -- Any number serves as a value.
      have read : Numeral.read "0" = .ok (.integer 0) := by decide
      let zero : Assignment :=
        { equals, number := ⟨.number, "0", equals.span⟩, value := .integer 0
          equals_kind := assigned.1, equals_text := assigned.2
          number_kind := rfl, number_text := read }
      exact ⟨[zero.number], [⟨name, type, some zero, named, typed⟩], rfl⟩

/-- Where something is awaited, the tokens so far can be continued. -/
theorem Awaits.viable {passed : List Token} {expected : Expectation}
    (awaits : Awaits passed expected) : Viable passed := by
  obtain ⟨phrases, begun, rfl, part⟩ := awaits
  obtain ⟨more, others, split⟩ := part.viable
  refine ⟨more, phrases ++ others, ?_⟩
  rw [List.append_assoc, split, List.flatMap_append]

/-- What some tokens await is awaited behind one phrase more as well. -/
theorem Awaits.of_phrase {passed : List Token} {expected : Expectation} (phrase : Phrase)
    (awaits : Awaits passed expected) : Awaits (phrase.tokens ++ passed) expected := by
  obtain ⟨phrases, begun, rfl, part⟩ := awaits
  refine ⟨phrase :: phrases, begun, ?_, part⟩
  rw [List.flatMap_cons, List.append_assoc]

/-- Only a declaration, a type or an expression is ever awaited. -/
theorem Awaits.expected_eq {passed : List Token} {expected : Expectation}
    (awaits : Awaits passed expected) :
    expected = .declaration ∨ expected = .type ∨ expected = .expression := by
  obtain ⟨phrases, begun, rfl, part⟩ := awaits
  cases part <;> simp

/-- The index of the first token with which some tokens are no longer viable. -/
def EndsViability (tokens : List Token) (index : Nat) : Prop :=
  IsLeast {i | i < tokens.length ∧ ¬ Viable (tokens.take (i + 1))} index

/-- The token that breaks viable tokens is the first that ends viability. -/
theorem endsViability_append {before after : List Token} {found : Token} (viable : Viable before)
    (broken : ¬ Viable (before ++ [found])) :
    EndsViability (before ++ found :: after) before.length := by
  have taken : (before ++ found :: after).take (before.length + 1) = before ++ [found] := by
    rw [List.append_cons, List.take_append_of_le_length (by simp)]
    exact List.take_of_length_le (by simp)
  refine ⟨⟨by simp, by rwa [taken]⟩, ?_⟩
  rintro index ⟨-, unviable⟩
  by_contra earlier
  have short : index + 1 ≤ before.length := by omega
  rw [List.take_append_of_le_length short] at unviable
  have whole : before = before.take (index + 1) ++ before.drop (index + 1) :=
    (List.take_append_drop _ _).symm
  rw [whole] at viable
  exact unviable viable.of_append

end Phrase

namespace Reading

open Phrase

/-- The error for a token that does not fit where something is required. -/
inductive Misfit (found : Token) : Expectation → ParseError → Prop
  | unexpected {expected : Expectation}
      (other : ¬ (expected = .expression ∧ found.kind = .number)) :
      Misfit found expected (.unexpectedToken found expected)
  | malformed {e : NumberError} (numbered : found.kind = .number)
      (unread : Numeral.read found.text = .error e) :
      Misfit found .expression (.malformedNumber found e)

theorem Misfit.unique {found : Token} {expected : Expectation} {e e' : ParseError}
    (misfit : Misfit found expected e) (misfit' : Misfit found expected e') : e = e' := by
  cases misfit with
  | unexpected other =>
      cases misfit' with
      | unexpected _ => rfl
      | malformed numbered _ => exact absurd ⟨rfl, numbered⟩ other
  | malformed numbered unread =>
      cases misfit' with
      | unexpected other => exact absurd ⟨rfl, numbered⟩ other
      | malformed _ unread' =>
          obtain rfl := Except.error.inj (unread.symm.trans unread')
          rfl

/-- A refusal is due to the first token that does not fit, whatever follows it, or to the end. -/
theorem Refusal.cause {tokens : List Token} {e : ParseError} {taken : Nat}
    (refusal : Refusal tokens e taken) :
    (∃ begun found after expected, tokens = begun ++ found :: after ∧ Begun begun expected ∧
      Misfit found expected e ∧ ∀ other, Refusal (begun ++ found :: other) e taken) ∨
    ∃ last ∈ tokens.getLast?, ∃ expected, Begun tokens expected ∧
      e = .unexpectedEnd last.span.finishPosition expected := by
  cases refusal with
  | noName found rest other =>
      refine Or.inl ⟨[], found, rest, _, rfl, .unnamed, .unexpected ?_, fun rest' => ?_⟩
      · exact fun numbered => absurd numbered.1 (by decide)
      · exact .noName found rest' other
  | endAfterName name named => exact Or.inr ⟨name, rfl, _, .untyped name named, rfl⟩
  | noType name found rest named other =>
      refine Or.inl ⟨[name], found, rest, _, rfl, .untyped name named, .unexpected ?_,
        fun rest' => ?_⟩
      · exact fun numbered => absurd numbered.1 (by decide)
      · exact .noType name found rest' named other
  | endAfterEquals name type equals named typed assigned =>
      exact Or.inr ⟨equals, rfl, _, .unvalued name type equals named typed assigned, rfl⟩
  | noValue name type equals found rest named typed assigned other =>
      refine Or.inl ⟨[name, type, equals], found, rest, _, rfl,
        .unvalued name type equals named typed assigned, .unexpected ?_, fun rest' => ?_⟩
      · exact fun numbered => other numbered.2
      · exact .noValue name type equals found rest' named typed assigned other
  | noNumber name type equals number rest e named typed assigned numbered malformed =>
      refine Or.inl ⟨[name, type, equals], number, rest, _, rfl,
        .unvalued name type equals named typed assigned, .malformed numbered malformed,
        fun rest' => ?_⟩
      exact .noNumber name type equals number rest' e named typed assigned numbered malformed

end Reading

namespace Tree

open Phrase Reading

/-- A strict parse stops at the first token that does not fit, whatever follows it, or at the
end. -/
theorem Course.cause {tokens : List Token} {phrases : List Phrase} {e : ParseError}
    (course : Course tokens phrases (some e)) :
    (∃ before found after expected, tokens = before ++ found :: after ∧ Awaits before expected ∧
      Misfit found expected e ∧ ∀ other, Course (before ++ found :: other) phrases (some e)) ∨
    ∃ last ∈ tokens.getLast?, ∃ expected, Awaits tokens expected ∧
      e = .unexpectedEnd last.span.finishPosition expected := by
  generalize stopped : some e = stop at course
  induction course with
  | finished => cases stopped
  | refused refusal =>
      obtain rfl := Option.some.inj stopped
      rcases refusal.cause with
        ⟨begun, found, after, expected, split, part, misfit, always⟩ |
          ⟨last, isLast, expected, part, ended⟩
      · exact Or.inl ⟨begun, found, after, expected, split, ⟨[], begun, rfl, part⟩, misfit,
          fun other => .refused (always other)⟩
      · exact Or.inr ⟨last, isLast, expected, ⟨[], _, rfl, part⟩, ended⟩
  | @passed phrase rest ends phrases stop later ih =>
      rcases ih stopped with
        ⟨before, found, after, expected, rfl, awaits, misfit, always⟩ |
          ⟨last, isLast, expected, awaits, ended⟩
      · refine Or.inl ⟨phrase.tokens ++ before, found, after, expected,
          (List.append_assoc ..).symm, awaits.of_phrase phrase, misfit, fun other => ?_⟩
        have sameHead : (before ++ found :: other).head? = (before ++ found :: after).head? := by
          cases before <;> rfl
        rw [List.append_assoc]
        refine .passed phrase (fun absent next isNext => ?_) (always other)
        rw [sameHead] at isNext
        exact ends absent next isNext
      · refine Or.inr ⟨last, ?_, expected, awaits.of_phrase phrase, ended⟩
        rw [List.getLast?_append, isLast]
        rfl

/-- Tokens that await something are a sequence of phrases, or the end is unexpected. -/
theorem exists_course_of_awaits {passed : List Token} {expected : Expectation}
    (awaits : Awaits passed expected) :
    ∃ phrases stop, Course passed phrases stop ∧
      (stop = none ∧ expected = .declaration ∨
        ∃ position, stop = some (.unexpectedEnd position expected)) := by
  obtain ⟨phrases, begun, rfl, part⟩ := awaits
  have ends : ∀ last ∈ phrases.getLast?, last.EndsBefore begun :=
    fun last _ => last.endsBefore_of_identifier part.starts
  cases part with
  | unnamed => exact ⟨_, _, .of_append ends .finished, Or.inl ⟨rfl, rfl⟩⟩
  | untyped name named =>
      exact ⟨_, _, .of_append ends (.refused (.endAfterName name named)), Or.inr ⟨_, rfl⟩⟩
  | unvalued name type equals named typed assigned =>
      exact ⟨_, _, .of_append ends (.refused (.endAfterEquals name type equals named typed
        assigned)), Or.inr ⟨_, rfl⟩⟩

/-- Tokens do not await two different things: a strict parse of them would have two courses. -/
theorem awaits_unique {passed : List Token} {expected expected' : Expectation}
    (awaits : Awaits passed expected) (awaits' : Awaits passed expected') :
    expected = expected' := by
  obtain ⟨phrases, stop, course, ended⟩ := exists_course_of_awaits awaits
  obtain ⟨phrases', stop', course', ended'⟩ := exists_course_of_awaits awaits'
  obtain ⟨-, rfl⟩ := course.unique course'
  rcases ended with ⟨rfl, rfl⟩ | ⟨position, rfl⟩
  · rcases ended' with ⟨-, rfl⟩ | ⟨position, stopped⟩
    · rfl
    · cases stopped
  · rcases ended' with ⟨stopped, -⟩ | ⟨position', stopped⟩
    · cases stopped
    · cases stopped
      rfl

/-- Tokens at which a strict parse fails are no sequence of phrases. -/
theorem not_sequence_of_course {tokens : List Token} {phrases : List Phrase} {e : ParseError}
    (course : Course tokens phrases (some e)) : ¬ Sequence tokens := by
  rintro ⟨others, rfl⟩
  cases (course.unique (course_flatMap others)).2

/-- How a strict parse with an error fails: at the token that ends viability, or at the end of
tokens that are viable. -/
theorem Course.failure {tokens : List Token} {phrases : List Phrase} {e : ParseError}
    (course : Course tokens phrases (some e)) :
    (∃ index found expected, EndsViability tokens index ∧ tokens[index]? = some found ∧
      Awaits (tokens.take index) expected ∧ Misfit found expected e) ∨
    (Viable tokens ∧ ∃ last ∈ tokens.getLast?, ∃ expected, Awaits tokens expected ∧
      e = .unexpectedEnd last.span.finishPosition expected) := by
  rcases course.cause with
    ⟨before, found, after, expected, rfl, awaits, misfit, always⟩ |
      ⟨last, isLast, expected, awaits, ended⟩
  · have broken : ¬ Viable (before ++ [found]) := by
      rintro ⟨more, sequence⟩
      rw [← List.append_cons] at sequence
      exact not_sequence_of_course (always more) sequence
    refine Or.inl ⟨before.length, found, expected, endsViability_append awaits.viable broken,
      ?_, ?_, misfit⟩
    · simp
    · rwa [List.take_left]
  · exact Or.inr ⟨awaits.viable, last, isLast, expected, awaits, ended⟩

/-- Where viability has ended, it does not come back. -/
theorem not_viable_of_endsViability {tokens : List Token} {index : Nat}
    (ends : EndsViability tokens index) : ¬ Viable tokens := by
  intro viable
  rw [← List.take_append_drop (index + 1) tokens] at viable
  exact ends.1.2 viable.of_append

/-- Tokens that are no sequence of phrases stop a strict parse with an error. -/
theorem exists_course_of_not_sequence {tokens : List Token} (unspelled : ¬ Sequence tokens) :
    ∃ phrases e, Course tokens phrases (some e) := by
  obtain ⟨phrases, stop, course⟩ := exists_course tokens
  cases stop with
  | none => exact absurd ⟨phrases, course.eq_flatMap⟩ unspelled
  | some e => exact ⟨phrases, e, course⟩

/-- A token that ends viability and does not fit is where a strict parse stops. -/
theorem exists_course_of_misfit {tokens : List Token} {index : Nat} {found : Token}
    {expected : Expectation} {e : ParseError} (ends : EndsViability tokens index)
    (isFound : tokens[index]? = some found) (awaits : Awaits (tokens.take index) expected)
    (misfit : Misfit found expected e) : ∃ phrases, Course tokens phrases (some e) := by
  have unviable := not_viable_of_endsViability ends
  have unspelled : ¬ Sequence tokens := by
    intro sequence
    exact unviable ⟨[], by rwa [List.append_nil]⟩
  obtain ⟨phrases, e', course⟩ := exists_course_of_not_sequence unspelled
  rcases course.failure with
    ⟨index', found', expected', ends', isFound', awaits', misfit'⟩ | ⟨viable, -⟩
  · obtain rfl : index' = index := IsLeast.unique ends' ends
    obtain rfl := Option.some.inj (isFound'.symm.trans isFound)
    obtain rfl := awaits_unique awaits' awaits
    obtain rfl := misfit'.unique misfit
    exact ⟨phrases, course⟩
  · exact absurd viable unviable

/-- A strict parse of tokens in order fails with the error that its course stops at. -/
theorem parse_eq_error_iff (name source : String) {tokens : List Token}
    (inOrder : Token.InOrder source tokens) {e : ParseError} :
    parse name tokens = .ok (.error e) ↔ ∃ phrases, Course tokens phrases (some e) := by
  constructor
  · intro failed
    obtain ⟨phrases, stop, course⟩ := exists_course tokens
    have parsed := (parse_of_course name course inOrder).symm.trans failed
    cases stop with
    | none => cases parsed
    | some e' =>
        cases parsed
        exact ⟨phrases, course⟩
  · rintro ⟨phrases, course⟩
    exact parse_of_course name course inOrder

/-- **The correct-prefix property.** A strict parse of tokens in order fails at a token exactly when
that token is the first to end viability, with the error that the token and what is awaited there
give. It fails at the end exactly when the tokens are viable but no sequence of phrases, and then at
the end of the last token. The errors ask for productions of the grammar only, those that are
awaited. -/
theorem parse_fails_where_viability_ends (name source : String) (tokens : List Token)
    (inOrder : Token.InOrder source tokens) :
    (∀ found expected, parse name tokens = .ok (.error (.unexpectedToken found expected)) ↔
      ∃ index, EndsViability tokens index ∧ tokens[index]? = some found ∧
        Awaits (tokens.take index) expected ∧
        ¬ (expected = .expression ∧ found.kind = .number)) ∧
    (∀ found e, parse name tokens = .ok (.error (.malformedNumber found e)) ↔
      ∃ index, EndsViability tokens index ∧ tokens[index]? = some found ∧
        Awaits (tokens.take index) .expression ∧ found.kind = .number ∧
        Numeral.read found.text = .error e) ∧
    ((∃ position expected, parse name tokens = .ok (.error (.unexpectedEnd position expected))) ↔
      Viable tokens ∧ ¬ Sequence tokens) ∧
    (∀ position expected, parse name tokens = .ok (.error (.unexpectedEnd position expected)) →
      Awaits tokens expected ∧ ∃ last ∈ tokens.getLast?, position = last.span.finishPosition) ∧
    (∀ e, parse name tokens = .ok (.error e) → ∀ expected ∈ e.expected?,
      ∃ production, expected = .production production) := by
  simp only [parse_eq_error_iff name source inOrder]
  -- A parse fails at a token that ends viability or at the end of viable tokens, and each of the
  -- two comes with its own errors, so in every part one of them is void.
  refine ⟨fun found expected => ⟨?_, ?_⟩, fun found e => ⟨?_, ?_⟩, ⟨?_, ?_⟩, ?_, ?_⟩
  · rintro ⟨phrases, course⟩
    rcases course.failure with
      ⟨index, _, _, ends, isFound, awaits, misfit⟩ | ⟨-, last, -, _, -, ended⟩
    · cases misfit with
      | unexpected other => exact ⟨index, ends, isFound, awaits, other⟩
    · cases ended
  · rintro ⟨index, ends, isFound, awaits, other⟩
    exact exists_course_of_misfit ends isFound awaits (.unexpected other)
  · rintro ⟨phrases, course⟩
    rcases course.failure with
      ⟨index, _, _, ends, isFound, awaits, misfit⟩ | ⟨-, last, -, _, -, ended⟩
    · cases misfit with
      | malformed numbered unread => exact ⟨index, ends, isFound, awaits, numbered, unread⟩
    · cases ended
  · rintro ⟨index, ends, isFound, awaits, numbered, unread⟩
    exact exists_course_of_misfit ends isFound awaits (.malformed numbered unread)
  · rintro ⟨position, expected, phrases, course⟩
    refine ⟨?_, not_sequence_of_course course⟩
    rcases course.failure with ⟨_, _, _, -, -, -, misfit⟩ | ⟨viable, -⟩
    · cases misfit
    · exact viable
  · rintro ⟨viable, unspelled⟩
    obtain ⟨phrases, e, course⟩ := exists_course_of_not_sequence unspelled
    rcases course.failure with ⟨index, _, _, ends, -⟩ | ⟨-, last, -, expected, -, rfl⟩
    · exact absurd viable (not_viable_of_endsViability ends)
    · exact ⟨_, expected, phrases, course⟩
  · rintro position expected ⟨phrases, course⟩
    rcases course.failure with ⟨_, _, _, -, -, -, misfit⟩ | ⟨-, last, isLast, _, awaits, ended⟩
    · cases misfit
    · obtain ⟨rfl, rfl⟩ := ParseError.unexpectedEnd.inj ended
      exact ⟨awaits, last, isLast, rfl⟩
  · rintro e ⟨phrases, course⟩ expected isExpected
    have awaited : ∃ passed, Awaits passed expected := by
      rcases course.failure with
        ⟨index, _, _, -, -, awaits, misfit⟩ | ⟨-, last, -, _, awaits, rfl⟩
      · cases misfit with
        | unexpected other =>
            obtain rfl := Option.some.inj isExpected
            exact ⟨_, awaits⟩
        | malformed numbered unread => cases isExpected
      · obtain rfl := Option.some.inj isExpected
        exact ⟨_, awaits⟩
    obtain ⟨passed, awaits⟩ := awaited
    rcases awaits.expected_eq with rfl | rfl | rfl <;> exact ⟨_, rfl⟩

/-- The tokens of `x Int = 1.2.3 y`, whose number has a period too many. -/
def twoPeriods : List Token :=
  [⟨.identifier, "x", "main", ⟨1, 1, 0⟩, ⟨1, 2, 1⟩⟩,
   ⟨.identifier, "Int", "main", ⟨1, 3, 2⟩, ⟨1, 6, 5⟩⟩,
   ⟨.operator, "=", "main", ⟨1, 7, 6⟩, ⟨1, 8, 7⟩⟩,
   ⟨.number, "1.2.3", "main", ⟨1, 9, 8⟩, ⟨1, 14, 13⟩⟩,
   ⟨.identifier, "y", "main", ⟨1, 15, 14⟩, ⟨1, 16, 15⟩⟩]

/-- Its parse fails at the number, which no continuation can mend. -/
theorem parse_twoPeriods :
    Token.InOrder "main" twoPeriods ∧ ∃ index found, EndsViability twoPeriods index ∧
      twoPeriods[index]? = some found ∧ found.text = "1.2.3" ∧
      parse "main" twoPeriods = .ok (.error (.malformedNumber found .multiplePeriods)) := by
  have inOrder : Token.InOrder "main" twoPeriods := ⟨by decide, by decide, by decide⟩
  have fails : parse "main" twoPeriods =
      .ok (.error (.malformedNumber ⟨.number, "1.2.3", "main", ⟨1, 9, 8⟩, ⟨1, 14, 13⟩⟩
        .multiplePeriods)) := by
    decide +kernel
  obtain ⟨index, ends, isFound, -⟩ :=
    ((parse_fails_where_viability_ends "main" "main" twoPeriods inOrder).2.1 _ _).mp fails
  exact ⟨inOrder, index, _, ends, isFound, rfl, fails⟩

end Tree

end DeclLang
