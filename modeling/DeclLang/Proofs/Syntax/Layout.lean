import DeclLang.Proofs.Syntax.ErrorPlaces

/-!
# Layout does not matter to a parse

What is left of tokens, declarations and errors when their places are forgotten: every span is
replaced by one empty span and nothing else changes. Phrases and refusals look at the kinds and the
texts of tokens only, so they stay what they are, and what they come to forgets its places along
with them.

Two lists of tokens that differ in places only become one list when the places are forgotten, and a
parse of it goes the way of both. So the two parses declare the same and find the same errors at the
same indices, the strict ones and the recovering ones alike.
-/

namespace DeclLang

/-- What is read off a list commutes with forgetting places when it does so for each element. -/
theorem map_filterMap_of_commutes {α β : Type} {read : α → Option β} {bare : α → α} {forget : β → β}
    (commutes : ∀ a, read (bare a) = (read a).map forget) (as : List α) :
    (as.filterMap read).map forget = (as.map bare).filterMap read := by
  rw [List.map_filterMap, List.filterMap_map]
  exact List.filterMap_congr fun a _ => (commutes a).symm

/-- The span that stands for a forgotten place. -/
def Span.nowhere : Span :=
  ⟨"", Location.origin, Location.origin⟩

/-- A token without its place. -/
def Token.unplaced (t : Token) : Token :=
  { t with span := Span.nowhere }

@[simp]
theorem Token.kind_unplaced (t : Token) : t.unplaced.kind = t.kind :=
  rfl

@[simp]
theorem Token.text_unplaced (t : Token) : t.unplaced.text = t.text :=
  rfl

/-- A text without its place. -/
def LocatedText.unplaced (located : LocatedText) : LocatedText :=
  { located with span := Span.nowhere }

/-- A type without the places of its nodes. -/
def TypeExpr.unplaced : TypeExpr → TypeExpr
  | .named type => .named ⟨Span.nowhere, Span.nowhere, type.name.name.unplaced⟩

/-- A type of a declaration without its places. -/
def TypeReference.unplaced (reference : TypeReference) : TypeReference :=
  ⟨Span.nowhere, reference.type.unplaced⟩

/-- An expression without its place. -/
def Expression.unplaced : Expression → Expression
  | .number literal => .number { literal with span := Span.nowhere }

/-- A declaration without its places: its names, its type and its value. -/
def Declaration.unplaced : Declaration → Declaration
  | .type declared =>
      .type ⟨Span.nowhere, declared.name.unplaced, declared.type.unplaced⟩
  | .variable declared =>
      .variable ⟨Span.nowhere, declared.name.unplaced, declared.type.map TypeReference.unplaced,
        declared.value.map Expression.unplaced⟩

namespace ParseError

/-- A syntax error without its place: the token at fault, if any, and what is wrong. -/
def unplaced : ParseError → ParseError
  | .unexpectedToken found expected => .unexpectedToken found.unplaced expected
  | .unexpectedEnd _ expected => .unexpectedEnd Span.nowhere.finishPosition expected
  | .malformedNumber number e => .malformedNumber number.unplaced e

/-- An error is as many tokens behind the start of its declaration wherever they stand. -/
@[simp]
theorem depth_unplaced (e : ParseError) : e.unplaced.depth = e.depth := by
  cases e <;> rfl

/-- Whether an error is at a rune does not depend on places. -/
@[simp]
theorem runeOf?_unplaced (e : ParseError) :
    Round.runeOf? e.unplaced = (Round.runeOf? e).map Token.unplaced := by
  cases e with
  | unexpectedToken found expected =>
      by_cases isRune : found.kind = .rune <;> simp [unplaced, Round.runeOf?, isRune]
  | unexpectedEnd position expected => rfl
  | malformedNumber number e => rfl

end ParseError

namespace Token

/-- Tokens without places are in order, all at the one forgotten place. -/
theorem inOrder_unplaced (tokens : List Token) : InOrder "" (tokens.map unplaced) := by
  induction tokens with
  | nil => exact .nil
  | cons first rest ih =>
      refine .cons rfl (le_refl Location.origin) (fun next isNext => ?_) ih
      rw [List.head?_map] at isNext
      obtain ⟨t, -, rfl⟩ := Option.map_eq_some_iff.mp isNext
      exact le_refl Location.origin

end Token

/-- An assignment without the places of its tokens. -/
def Assignment.unplaced (assignment : Assignment) : Assignment :=
  { assignment with
    equals := assignment.equals.unplaced
    number := assignment.number.unplaced }

namespace Phrase

/-- A phrase without the places of its tokens. -/
def unplaced (phrase : Phrase) : Phrase where
  name := phrase.name.unplaced
  type := phrase.type.unplaced
  assignment? := phrase.assignment?.map Assignment.unplaced
  name_kind := phrase.name_kind
  type_kind := phrase.type_kind

@[simp]
theorem name_unplaced (phrase : Phrase) : phrase.unplaced.name = phrase.name.unplaced :=
  rfl

@[simp]
theorem others_unplaced (phrase : Phrase) :
    phrase.unplaced.others = phrase.others.map Token.unplaced := by
  obtain ⟨name, type, assignment, named, typed⟩ := phrase
  cases assignment <;> rfl

@[simp]
theorem tokens_unplaced (phrase : Phrase) :
    phrase.unplaced.tokens = phrase.tokens.map Token.unplaced := by
  rw [tokens, others_unplaced]
  rfl

/-- What a phrase declares is told by the kinds and the texts of its tokens, up to places. -/
@[simp]
theorem declaration_unplaced (phrase : Phrase) :
    phrase.unplaced.declaration = phrase.declaration.unplaced := by
  obtain ⟨name, type, assignment, named, typed⟩ := phrase
  cases assignment <;> rfl

/-- Whether a phrase ends where it does depends on the kind and the text of the token after it. -/
theorem EndsBefore.unplaced {phrase : Phrase} {rest : List Token} (ends : phrase.EndsBefore rest) :
    phrase.unplaced.EndsBefore (rest.map Token.unplaced) := by
  intro bare next isNext assigned
  rw [List.head?_map] at isNext
  obtain ⟨t, isFirst, rfl⟩ := Option.map_eq_some_iff.mp isNext
  exact ends (Option.map_eq_none_iff.mp bare) t isFirst assigned

end Phrase

/-- Tokens are refused with the same error, up to places, wherever they stand. -/
theorem Reading.Refusal.unplaced {tokens : List Token} {e : ParseError} {taken : Nat}
    (refusal : Refusal tokens e taken) :
    Refusal (tokens.map Token.unplaced) e.unplaced taken := by
  cases refusal with
  | noName found rest other => exact .noName found.unplaced _ other
  | endAfterName name named => exact .endAfterName name.unplaced named
  | noType name found rest named other => exact .noType name.unplaced found.unplaced _ named other
  | endAfterEquals name type equals named typed assigned =>
      exact .endAfterEquals name.unplaced type.unplaced equals.unplaced named typed assigned
  | noValue name type equals found rest named typed assigned other =>
      exact .noValue name.unplaced type.unplaced equals.unplaced found.unplaced _ named typed
        assigned other
  | noNumber name type equals number rest e named typed assigned numbered malformed =>
      exact .noNumber name.unplaced type.unplaced equals.unplaced number.unplaced _ e named typed
        assigned numbered malformed

namespace Round

variable {budget index : Nat} {tokens : List Token}

/-- Whether a declaration can start is told by kinds alone. -/
@[simp]
theorem startsDeclaration_unplaced (tokens : List Token) :
    startsDeclaration (tokens.map Token.unplaced) = startsDeclaration tokens := by
  match tokens with
  | [] => rfl
  | [first] => rfl
  | first :: second :: rest => rfl

/-- A declaration can start next at the same index wherever the tokens stand. -/
@[simp]
theorem resume_unplaced (index : Nat) (tokens : List Token) :
    resume index (tokens.map Token.unplaced) =
      ((resume index tokens).1, (resume index tokens).2.map Token.unplaced) := by
  fun_induction resume index tokens with
  | case1 index => rfl
  | case2 index first rest starts =>
      rw [List.map_cons, resume, ← List.map_cons, startsDeclaration_unplaced, if_pos starts]
  | case3 index first rest starts ih =>
      rw [List.map_cons, resume, ← List.map_cons, startsDeclaration_unplaced, if_neg starts, ih]

/-- Where a parse resumes is told by kinds alone. -/
@[simp]
theorem resumeAfter_unplaced (index taken : Nat) (rest : List Token) :
    resumeAfter index taken (rest.map Token.unplaced) =
      ((resumeAfter index taken rest).1, (resumeAfter index taken rest).2.map Token.unplaced) := by
  simp only [resumeAfter, ← List.map_drop, resume_unplaced]

end Round

/-- The end of a round without its places. -/
def RoundEnd.unplaced : RoundEnd → RoundEnd
  | .passed => .passed
  | .declared declaration => .declared declaration.unplaced
  | .cut rune resumed => .cut rune.unplaced resumed
  | .reported e resumed => .reported e.unplaced resumed
  | .stopped e => .stopped e.unplaced

namespace Round

/-- A round without its places. -/
def unplaced (round : Round) : Round :=
  ⟨round.index, round.first.unplaced, round.rest.map Token.unplaced, round.ending.unplaced⟩

/-- A round without places declares what it declares, without places. -/
@[simp]
theorem declaration?_unplaced (round : Round) :
    round.unplaced.declaration? = round.declaration?.map Declaration.unplaced := by
  obtain ⟨index, first, rest, ending⟩ := round
  cases ending <;> rfl

/-- A round without places reports what it reports, without places. -/
@[simp]
theorem error?_unplaced (round : Round) :
    round.unplaced.error? = round.error?.map ParseError.unplaced := by
  obtain ⟨index, first, rest, ending⟩ := round
  cases ending <;> rfl

/-- A round finds its error at the same index wherever the tokens stand. -/
@[simp]
theorem errorIndex?_unplaced (round : Round) : round.unplaced.errorIndex? = round.errorIndex? := by
  have sameIndex : round.unplaced.index = round.index := rfl
  simp [errorIndex?, sameIndex, Function.comp_def]

end Round

namespace Token

/-- Tokens that differ in their places only. -/
def Alike (t t' : Token) : Prop :=
  t.kind = t'.kind ∧ t.text = t'.text

instance (t t' : Token) : Decidable (t.Alike t') :=
  inferInstanceAs (Decidable (_ ∧ _))

/-- Tokens that differ in places only are the same when places are forgotten. -/
theorem unplaced_eq_of_alike {tokens tokens' : List Token}
    (alike : List.Forall₂ Alike tokens tokens') :
    tokens.map unplaced = tokens'.map unplaced := by
  induction alike with
  | nil => rfl
  | @cons t t' tokens tokens' same later ih =>
      rw [List.map_cons, List.map_cons, ih, unplaced, unplaced, same.1, same.2]

end Token

namespace ParseError

/-- An error in some tokens and one in others that are the same up to places, at the same index. -/
structure Alike (tokens tokens' : List Token) (e e' : ParseError) : Prop where
  unplaced : e.unplaced = e'.unplaced
  together : ∃ index, At tokens index e ∧ At tokens' index e'

/-- Errors at the same indices that are the same when places are forgotten are alike. -/
theorem alike_of_unplaced {tokens tokens' : List Token} {indices : List Nat}
    {errors errors' : List ParseError} (places : List.Forall₂ (At tokens) indices errors)
    (places' : List.Forall₂ (At tokens') indices errors')
    (same : errors.map unplaced = errors'.map unplaced) :
    List.Forall₂ (Alike tokens tokens') errors errors' := by
  induction places generalizing errors' with
  | nil =>
      cases places'
      exact .nil
  | @cons index e indices errors place places ih =>
      cases places' with
      | cons place' places' =>
          obtain ⟨first, others⟩ := List.cons.inj same
          exact .cons ⟨first, index, place, place'⟩ (ih places' others)

end ParseError

namespace Tree

/-- Forgetting places keeps the course of a strict parse. -/
theorem Course.unplaced {tokens : List Token} {phrases : List Phrase} {stop : Option ParseError}
    (course : Course tokens phrases stop) :
    Course (tokens.map Token.unplaced) (phrases.map Phrase.unplaced)
      (stop.map ParseError.unplaced) := by
  induction course with
  | finished => exact .finished
  | passed phrase ends later ih =>
      rw [List.map_append, ← phrase.tokens_unplaced]
      exact .passed phrase.unplaced ends.unplaced ih
  | refused refusal => exact .refused refusal.unplaced

/-- The error that a strict parse stops at is behind the phrases that it passes. -/
theorem Course.error_at {tokens : List Token} {phrases : List Phrase} {e : ParseError}
    (course : Course tokens phrases (some e)) :
    ParseError.At tokens ((phrases.flatMap Phrase.tokens).length + e.depth) e := by
  generalize stopped : some e = stop at course
  induction course with
  | finished => cases stopped
  | passed phrase ends later ih =>
      rw [List.flatMap_cons, List.length_append, Nat.add_assoc]
      exact (ih stopped).append phrase.tokens
  | refused refusal =>
      obtain rfl := Option.some.inj stopped
      rw [List.flatMap_nil, List.length_nil, Nat.zero_add]
      exact refusal.place.1

end Tree

/-- Forgetting places keeps the course of a recovering parse. -/
theorem Round.Course.unplaced {budget index : Nat} {tokens : List Token} {rounds : List Round}
    (course : Course budget index tokens rounds) :
    Course budget index (tokens.map Token.unplaced) (rounds.map Round.unplaced) := by
  induction course with
  | finished budget index => exact .finished budget index
  | passed isRune later ih => exact .passed isRune ih
  | @declared budget index phrase rest rounds ends later ih =>
      have onward : Course budget (index + phrase.unplaced.tokens.length)
          (rest.map Token.unplaced) (rounds.map Round.unplaced) := by simpa using ih
      simpa [Round.unplaced, RoundEnd.unplaced] using
        Course.declared phrase.unplaced ends.unplaced onward
  | @cut budget index taken first rune rest e rounds other refusal atRune later ih =>
      have found : runeOf? e.unplaced = some rune.unplaced := by simp [atRune]
      have kept : first.unplaced.kind ≠ .rune := other
      simpa [Round.unplaced, RoundEnd.unplaced] using
        Course.cut kept refusal.unplaced found (by simpa using ih)
  | @reported budget index taken first rest e rounds other refusal notAtRune later ih =>
      have found : runeOf? e.unplaced = none := by simp [notAtRune]
      have kept : first.unplaced.kind ≠ .rune := other
      simpa [Round.unplaced, RoundEnd.unplaced] using
        Course.reported kept refusal.unplaced found (by simpa using ih)
  | @stopped index taken first rest e other refusal notAtRune =>
      have found : runeOf? e.unplaced = none := by simp [notAtRune]
      exact .stopped other refusal.unplaced found

namespace Round

variable {tokens tokens' : List Token} {rounds rounds' : List Round}

/-- Courses of tokens that differ in places only have rounds that differ in places only. -/
theorem Course.unplaced_eq {budget index : Nat} (course : Course budget index tokens rounds)
    (course' : Course budget index tokens' rounds')
    (same : tokens.map Token.unplaced = tokens'.map Token.unplaced) :
    rounds.map Round.unplaced = rounds'.map Round.unplaced := by
  have inOrder := Token.inOrder_unplaced tokens
  have ran := run_of_course course.unplaced inOrder []
  rw [same] at inOrder ran
  exact Except.ok.inj (ran.symm.trans (run_of_course course'.unplaced inOrder []))

/-- What is read off rounds that differ in places only is the same up to places. -/
theorem filterMap_of_unplaced_eq {α : Type} {read : Round → Option α} {forget : α → α}
    (commutes : ∀ round : Round, read round.unplaced = (read round).map forget)
    (same : rounds.map unplaced = rounds'.map unplaced) :
    (rounds.filterMap read).map forget = (rounds'.filterMap read).map forget := by
  rw [map_filterMap_of_commutes commutes, map_filterMap_of_commutes commutes, same]

/-- Rounds that differ in places only find their errors at the same indices. -/
theorem errorIndices_of_unplaced_eq (same : rounds.map unplaced = rounds'.map unplaced) :
    rounds.filterMap errorIndex? = rounds'.filterMap errorIndex? := by
  have read (round : Round) : round.unplaced.errorIndex? = round.errorIndex?.map id := by simp
  simpa using filterMap_of_unplaced_eq read same

end Round

namespace Tree

/-- Results of two strict parses that are the same up to places: trees with the same declarations,
or the same errors. -/
inductive ParsedAlike (tokens tokens' : List Token) :
    Except ParseError Tree → Except ParseError Tree → Prop
  | declared {tree tree' : Tree}
      (same : tree.declarations.map Declaration.unplaced =
        tree'.declarations.map Declaration.unplaced) :
      ParsedAlike tokens tokens' (.ok tree) (.ok tree')
  | refused {e e' : ParseError} (alike : e.Alike tokens tokens' e') :
      ParsedAlike tokens tokens' (.error e) (.error e')

variable {source source' name name' : String} {tokens tokens' : List Token}

/-- Strict parses of tokens that differ in places only come to the same up to places. -/
theorem parse_alike (name name' : String) (inOrder : Token.InOrder source tokens)
    (inOrder' : Token.InOrder source' tokens') (alike : List.Forall₂ Token.Alike tokens tokens') :
    ∃ parsed parsed', parse name tokens = .ok parsed ∧ parse name' tokens' = .ok parsed' ∧
      ParsedAlike tokens tokens' parsed parsed' := by
  obtain ⟨phrases, stop, course⟩ := exists_course tokens
  obtain ⟨phrases', stop', course'⟩ := exists_course tokens'
  -- Alike tokens are the same without their places, and tokens have only one course.
  have bare := course.unplaced
  rw [Token.unplaced_eq_of_alike alike] at bare
  obtain ⟨samePhrases, sameStop⟩ := bare.unique course'.unplaced
  refine ⟨_, _, parse_of_course name course inOrder, parse_of_course name' course' inOrder', ?_⟩
  have declared (phrases : List Phrase) :
      (phrases.map Phrase.declaration).map Declaration.unplaced =
        (phrases.map Phrase.unplaced).map Phrase.declaration := by
    simp
  have passed (phrases : List Phrase) : (phrases.flatMap Phrase.tokens).length =
      ((phrases.map Phrase.unplaced).flatMap Phrase.tokens).length := by
    simp [List.length_flatMap, Function.comp_def]
  cases stop with
  | none =>
      obtain rfl := Option.map_eq_none_iff.mp sameStop.symm
      apply ParsedAlike.declared
      rw [declared, declared, samePhrases]
  | some e =>
      obtain ⟨e', rfl, same⟩ := Option.map_eq_some_iff.mp sameStop.symm
      apply ParsedAlike.refused
      refine ⟨same.symm, _, course.error_at, ?_⟩
      have place' := course'.error_at
      rwa [passed, ← samePhrases, ← passed, ← e'.depth_unplaced, same, e.depth_unplaced] at place'

/-- Recovering parses of tokens that differ in places only come to the same up to places. -/
theorem parseRecovering_alike (name name' : String) (inOrder : Token.InOrder source tokens)
    (inOrder' : Token.InOrder source' tokens') (alike : List.Forall₂ Token.Alike tokens tokens')
    (limit : Nat) :
    ∃ tree errors tree' errors', parseRecovering name tokens limit = .ok (tree, errors) ∧
      parseRecovering name' tokens' limit = .ok (tree', errors') ∧
      tree.declarations.map Declaration.unplaced = tree'.declarations.map Declaration.unplaced ∧
      List.Forall₂ (ParseError.Alike tokens tokens') errors errors' := by
  obtain ⟨rounds, course⟩ := Round.exists_course (limit - 1) 0 tokens
  obtain ⟨rounds', course'⟩ := Round.exists_course (limit - 1) 0 tokens'
  have same := course.unplaced_eq course' (Token.unplaced_eq_of_alike alike)
  refine ⟨_, _, _, _, parseRecovering_of_course name course inOrder,
    parseRecovering_of_course name' course' inOrder',
    Round.filterMap_of_unplaced_eq Round.declaration?_unplaced same, ?_⟩
  have errors := Round.filterMap_of_unplaced_eq Round.error?_unplaced same
  have places := course.errors_at [] rfl
  have places' := course'.errors_at [] rfl
  rw [List.nil_append, Round.errorIndices_of_unplaced_eq same] at places
  exact ParseError.alike_of_unplaced places places' errors

end Tree

end DeclLang
