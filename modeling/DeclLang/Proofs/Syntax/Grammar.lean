import DeclLang.Proofs.Syntax.Phrase
import DeclLang.Syntax.Parse

/-!
# The grammar of a strict parse

A strict parse passes one phrase after another until no token is left or one is refused. Its course
is determined by the tokens alone, and tokens in order never make it fault. So the parse accepts
exactly the concatenations of phrases, in only one way each.
-/

namespace DeclLang

namespace Tree

/-- The course of a strict parse: the phrases that it passes, and the error that it stops at,
unless it passes all tokens. -/
inductive Course : List Token → List Phrase → Option ParseError → Prop
  | finished : Course [] [] none
  | passed (phrase : Phrase) {rest : List Token} (ends : phrase.EndsBefore rest)
      {phrases : List Phrase} {stop : Option ParseError} (later : Course rest phrases stop) :
      Course (phrase.tokens ++ rest) (phrase :: phrases) stop
  | refused {tokens : List Token} {e : ParseError} {taken : Nat}
      (refusal : Reading.Refusal tokens e taken) : Course tokens [] (some e)

/-- What a parse with a course comes to. -/
def Course.result (phrases : List Phrase) : Option ParseError →
    Except ParseError (List Declaration)
  | none => .ok (phrases.map Phrase.declaration)
  | some e => .error e

/-- All tokens give a parse its course. -/
theorem exists_course (tokens : List Token) : ∃ phrases stop, Course tokens phrases stop := by
  -- Every phrase takes a token, so the induction is on the number of tokens left.
  induction length : tokens.length using Nat.strong_induction_on generalizing tokens with
  | _ count ih =>
      cases tokens with
      | nil => exact ⟨[], none, .finished⟩
      | cons first rest =>
          rcases Reading.phrase_or_refusal first rest with
            ⟨phrase, after, ends, split⟩ | ⟨e, taken, refusal⟩
          · have fewer : after.length < count := by
              rw [← length, split, List.length_append]
              exact Nat.lt_add_of_pos_left (Nat.succ_pos _)
            obtain ⟨phrases, stop, later⟩ := ih after.length fewer after rfl
            exact ⟨phrase :: phrases, stop, split ▸ .passed phrase ends later⟩
          · exact ⟨[], some e, .refused refusal⟩

/-- A course goes on after some phrases that stand in front of it. -/
theorem Course.of_append {phrases more : List Phrase} {rest : List Token}
    {stop : Option ParseError} (ends : ∀ last ∈ phrases.getLast?, last.EndsBefore rest)
    (later : Course rest more stop) :
    Course (phrases.flatMap Phrase.tokens ++ rest) (phrases ++ more) stop := by
  induction phrases with
  | nil => exact later
  | cons phrase phrases ih =>
      rw [List.flatMap_cons, List.append_assoc]
      refine .passed phrase (Phrase.endsBefore_flatMap_append ends) (ih fun last isLast => ?_)
      exact ends last (by rw [List.getLast?_cons, isLast]; rfl)

/-- A parse passes all of some phrases, one after another. -/
theorem course_flatMap (phrases : List Phrase) :
    Course (phrases.flatMap Phrase.tokens) phrases none := by
  have course : Course (phrases.flatMap Phrase.tokens ++ []) (phrases ++ []) none :=
    .of_append (fun last _ => last.endsBefore_nil) .finished
  rwa [List.append_nil, List.append_nil] at course

/-- What a parse passes to the end is its phrases and nothing else. -/
theorem Course.eq_flatMap {tokens : List Token} {phrases : List Phrase}
    (course : Course tokens phrases none) : tokens = phrases.flatMap Phrase.tokens := by
  generalize ended : (none : Option ParseError) = stop at course
  induction course with
  | finished => rfl
  | passed phrase ends later ih => rw [List.flatMap_cons, ← ih ended]
  | refused refusal => cases ended

/-- Where tokens start with a phrase that ends there, the course starts with it. -/
theorem Course.of_phrase {phrase : Phrase} {rest : List Token} {phrases : List Phrase}
    {stop : Option ParseError} (ends : phrase.EndsBefore rest)
    (course : Course (phrase.tokens ++ rest) phrases stop) :
    ∃ later, phrases = phrase :: later ∧ Course rest later stop := by
  generalize split : phrase.tokens ++ rest = tokens at course
  cases course with
  | finished => cases split
  | passed other ends' later =>
      obtain ⟨rfl, rfl⟩ := Phrase.tokens_append_injective ends ends' split
      exact ⟨_, rfl, later⟩
  | refused refusal =>
      subst split
      exact absurd ends refusal.not_phrase

/-- Where tokens are refused, the course stops at once with their error. -/
theorem Course.of_refusal {tokens : List Token} {e : ParseError} {taken : Nat}
    {phrases : List Phrase} {stop : Option ParseError} (refusal : Reading.Refusal tokens e taken)
    (course : Course tokens phrases stop) : phrases = [] ∧ stop = some e := by
  cases course with
  | finished => cases refusal
  | passed phrase ends later => exact absurd ends refusal.not_phrase
  | refused refusal' =>
      obtain ⟨rfl, -⟩ := refusal.unique refusal'
      exact ⟨rfl, rfl⟩

/-- Tokens determine the course of a parse. -/
theorem Course.unique {tokens : List Token} {phrases phrases' : List Phrase}
    {stop stop' : Option ParseError} (course : Course tokens phrases stop)
    (course' : Course tokens phrases' stop') : phrases = phrases' ∧ stop = stop' := by
  induction course generalizing phrases' with
  | finished =>
      generalize empty : ([] : List Token) = tokens at course'
      cases course' with
      | finished => exact ⟨rfl, rfl⟩
      | passed phrase ends later => cases empty
      | refused refusal =>
          subst empty
          cases refusal
  | passed phrase ends later ih =>
      obtain ⟨others, rfl, onward⟩ := course'.of_phrase ends
      obtain ⟨rfl, rfl⟩ := ih onward
      exact ⟨rfl, rfl⟩
  | refused refusal =>
      obtain ⟨rfl, rfl⟩ := course'.of_refusal refusal
      exact ⟨rfl, rfl⟩

variable {source : String}

/-- Reading a phrase puts its declaration in front of those of the rest. -/
theorem readAll_phrase (phrase : Phrase) {rest : List Token} (ends : phrase.EndsBefore rest)
    (inOrder : Token.InOrder source (phrase.tokens ++ rest)) :
    readAll [] (phrase.tokens ++ rest) =
      (readAll [] rest).map fun result => result.map (phrase.declaration :: ·) := by
  rw [Phrase.tokens, List.cons_append, readAll, Reading.read_phrase phrase rest ends inOrder]
  simp only [Phrase.drop_others_append]
  exact readAll_append [] [phrase.declaration] rest

/-- Reading refused tokens comes to their error and never faults. -/
theorem readAll_refusal {tokens : List Token} {e : ParseError} {taken : Nat}
    (refusal : Reading.Refusal tokens e taken) : readAll [] tokens = .ok (.error e) := by
  cases tokens with
  | nil => cases refusal
  | cons first rest => rw [readAll, Reading.read_refusal refusal]

/-- Reading declarations from tokens in order takes its course and never faults. -/
theorem readAll_of_course {tokens : List Token} {phrases : List Phrase} {stop : Option ParseError}
    (course : Course tokens phrases stop) (inOrder : Token.InOrder source tokens) :
    readAll [] tokens = .ok (Course.result phrases stop) := by
  induction course with
  | finished => rw [readAll]; rfl
  | @passed phrase rest ends phrases stop later ih =>
      rw [readAll_phrase phrase ends inOrder, ih inOrder.of_append_right]
      cases stop <;> rfl
  | refused refusal => exact readAll_refusal refusal

/-- A parse of tokens in order comes to what its course says and never faults. -/
theorem parse_of_course (name : String) {tokens : List Token} {phrases : List Phrase}
    {stop : Option ParseError} (course : Course tokens phrases stop)
    (inOrder : Token.InOrder source tokens) :
    parse name tokens = .ok ((Course.result phrases stop).map (⟨name, ·⟩)) := by
  rw [parse, readAll_of_course course inOrder]
  rfl

/-- Tokens that are parsed to a tree are phrases, one after another. -/
theorem exists_phrases_of_parse {name : String} {tokens : List Token} {tree : Tree}
    (inOrder : Token.InOrder source tokens) (parsed : parse name tokens = .ok (.ok tree)) :
    ∃ phrases : List Phrase, tokens = phrases.flatMap Phrase.tokens := by
  obtain ⟨phrases, stop, course⟩ := exists_course tokens
  rw [parse_of_course name course inOrder] at parsed
  cases stop with
  | none => exact ⟨phrases, course.eq_flatMap⟩
  | some e => cases parsed

/-- **Exactness of the strict parse.** Tokens in order parse to a tree exactly when they are a
concatenation of phrases, which is then unique, and the tree lists the declarations of these phrases
in order. Every list of phrases parses back to its declarations, and all other tokens come to an
error, never to a fault. -/
theorem parse_eq_ok_iff_existsUnique_phrases (name source : String) (tokens : List Token)
    (inOrder : Token.InOrder source tokens) :
    (∀ tree, parse name tokens = .ok (.ok tree) ↔
      ∃! phrases : List Phrase,
        tokens = phrases.flatMap Phrase.tokens ∧ tree = ⟨name, phrases.map Phrase.declaration⟩) ∧
    (∀ phrases : List Phrase, phrases.flatMap Phrase.tokens = tokens →
      parse name tokens = .ok (.ok ⟨name, phrases.map Phrase.declaration⟩)) ∧
    ((¬ ∃ phrases : List Phrase, tokens = phrases.flatMap Phrase.tokens) →
      ∃ e, parse name tokens = .ok (.error e)) := by
  obtain ⟨passed, stop, course⟩ := exists_course tokens
  have parsed := parse_of_course name course inOrder
  have rendered : ∀ phrases : List Phrase, phrases.flatMap Phrase.tokens = tokens →
      parse name tokens = .ok (.ok ⟨name, phrases.map Phrase.declaration⟩) := by
    rintro phrases rfl
    exact parse_of_course name (course_flatMap phrases) inOrder
  refine ⟨fun tree => ⟨fun accepted => ?_, ?_⟩, rendered, fun unspelled => ?_⟩
  · cases stop with
    | some e => cases parsed.symm.trans accepted
    | none =>
        cases parsed.symm.trans accepted
        refine ⟨passed, ⟨course.eq_flatMap, rfl⟩, fun other spelled => ?_⟩
        exact Phrase.flatMap_tokens_injective (spelled.1.symm.trans course.eq_flatMap)
  · rintro ⟨phrases, ⟨spelled, rfl⟩, -⟩
    exact rendered phrases spelled.symm
  · cases stop with
    | some e => exact ⟨e, parsed⟩
    | none => exact absurd ⟨passed, course.eq_flatMap⟩ unspelled

/-- Two declarations on two lines, `x Int = 4e2` and `y Int`. -/
def twoLines : List Phrase :=
  [{ name := ⟨.identifier, "x", "main", ⟨1, 1, 0⟩, ⟨1, 2, 1⟩⟩
     type := ⟨.identifier, "Int", "main", ⟨1, 3, 2⟩, ⟨1, 6, 5⟩⟩
     assignment? := some
       { equals := ⟨.operator, "=", "main", ⟨1, 7, 6⟩, ⟨1, 8, 7⟩⟩
         number := ⟨.number, "4e2", "main", ⟨1, 9, 8⟩, ⟨1, 12, 11⟩⟩
         value := .integer 400
         equals_kind := rfl
         equals_text := rfl
         number_kind := rfl
         number_text := by decide }
     name_kind := rfl
     type_kind := rfl },
   { name := ⟨.identifier, "y", "main", ⟨2, 1, 12⟩, ⟨2, 2, 13⟩⟩
     type := ⟨.identifier, "Int", "main", ⟨2, 3, 14⟩, ⟨2, 6, 17⟩⟩
     assignment? := none
     name_kind := rfl
     type_kind := rfl }]

/-- The two lines are in order, so they parse to their two declarations. -/
theorem parse_twoLines :
    Token.InOrder "main" (twoLines.flatMap Phrase.tokens) ∧
      parse "main" (twoLines.flatMap Phrase.tokens) =
        .ok (.ok ⟨"main", twoLines.map Phrase.declaration⟩) := by
  have inOrder : Token.InOrder "main" (twoLines.flatMap Phrase.tokens) :=
    ⟨by decide, by decide, by decide⟩
  exact ⟨inOrder, (parse_eq_ok_iff_existsUnique_phrases "main" "main" _ inOrder).2.1 twoLines rfl⟩

end Tree

end DeclLang
