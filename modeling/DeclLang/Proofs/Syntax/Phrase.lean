import DeclLang.Proofs.Source.Order
import DeclLang.Syntax.Parse

/-!
# Phrases

A phrase is a run of tokens that spells one declaration: a name, a type and possibly an equals sign
with a number. Phrases are defined by the tokens alone, without regard to how a declaration is
read. Tokens that are left start with a phrase or are refused with one error
(`DeclLang.Reading.phrase_or_refusal`), and reading them comes to the declaration of that phrase
(`DeclLang.Reading.read_phrase`) or to that error (`DeclLang.Reading.read_refusal`).
-/

namespace DeclLang

/-- An equals sign with a number token whose text is a number. -/
structure Assignment where
  equals : Token
  number : Token
  value : Numeral
  equals_kind : equals.kind = .operator
  equals_text : equals.text = "="
  number_kind : number.kind = .number
  number_text : Numeral.read number.text = .ok value

/-- Two identifiers, for a name and its type, and possibly an assignment. -/
structure Phrase where
  name : Token
  type : Token
  assignment? : Option Assignment
  name_kind : name.kind = .identifier
  type_kind : type.kind = .identifier

namespace Assignment

/-- The tokens of an assignment. -/
def tokens (assignment : Assignment) : List Token :=
  [assignment.equals, assignment.number]

/-- The value that an assignment gives. -/
def expression (assignment : Assignment) : Expression :=
  .number ⟨assignment.number.span, assignment.value⟩

/-- The text of a number token determines the value, so an assignment is told by its tokens. -/
theorem tokens_injective {first second : Assignment} (same : first.tokens = second.tokens) :
    first = second := by
  obtain ⟨equals, number, value, _, _, _, read⟩ := first
  obtain ⟨equals', number', value', _, _, _, read'⟩ := second
  simp only [tokens, List.cons.injEq, and_true] at same
  obtain ⟨rfl, rfl⟩ := same
  obtain rfl := Except.ok.inj (read.symm.trans read')
  rfl

end Assignment

namespace Phrase

/-- The tokens of a phrase after its name. -/
def others (phrase : Phrase) : List Token :=
  phrase.type :: phrase.assignment?.elim [] Assignment.tokens

/-- The tokens of a phrase. -/
def tokens (phrase : Phrase) : List Token :=
  phrase.name :: phrase.others

/-- The last token of a phrase. -/
def last (phrase : Phrase) : Token :=
  phrase.assignment?.elim phrase.type Assignment.number

/-- The declaration that a phrase spells, from its first token to its last. -/
def declaration (phrase : Phrase) : Declaration :=
  .variable
    { span := ⟨phrase.name.span.source, phrase.name.span.start, phrase.last.span.finish⟩
      name := LocatedText.ofToken phrase.name
      type := some (TypeReference.ofName (LocatedText.ofToken phrase.type))
      value := phrase.assignment?.map Assignment.expression }

/-- A phrase ends before some tokens unless it lacks an assignment and they go on with an equals
sign. -/
def EndsBefore (phrase : Phrase) (rest : List Token) : Prop :=
  phrase.assignment? = none → ∀ next ∈ rest.head?, ¬ (next.kind = .operator ∧ next.text = "=")

/-- The last token of a phrase is never its name. -/
theorem last_mem_others (phrase : Phrase) : phrase.last ∈ phrase.others := by
  rw [last, others]
  cases phrase.assignment? with
  | none => exact List.mem_cons_self
  | some assignment =>
      exact List.mem_cons_of_mem _ (List.mem_cons_of_mem _ List.mem_cons_self)

/-- Dropping what a phrase takes behind its name leaves the tokens after the phrase. -/
theorem drop_others_append (phrase : Phrase) (rest : List Token) :
    (phrase.others ++ rest).drop (phrase.tokens.length - 1) = rest :=
  List.drop_left

theorem endsBefore_nil (phrase : Phrase) : phrase.EndsBefore [] :=
  fun _ _ isNext => nomatch isNext

/-- An identifier is no equals sign, so every phrase ends before one. -/
theorem endsBefore_of_identifier (phrase : Phrase) {rest : List Token}
    (starts : ∀ next ∈ rest.head?, next.kind = .identifier) : phrase.EndsBefore rest := by
  intro _ next isNext assigned
  have identifier := starts next isNext
  rw [assigned.1] at identifier
  cases identifier

/-- The first of some phrases ends before the others, whatever follows the last one. -/
theorem endsBefore_flatMap_append {phrase : Phrase} {phrases : List Phrase} {rest : List Token}
    (ends : ∀ last ∈ (phrase :: phrases).getLast?, last.EndsBefore rest) :
    phrase.EndsBefore (phrases.flatMap tokens ++ rest) := by
  cases phrases with
  | nil => exact ends phrase rfl
  | cons following phrases =>
      refine phrase.endsBefore_of_identifier fun next isNext => ?_
      obtain rfl := Option.some.inj isNext
      exact following.name_kind

/-- A phrase ends before other phrases, since they start with a name. -/
theorem endsBefore_flatMap (phrase : Phrase) (phrases : List Phrase) :
    phrase.EndsBefore (phrases.flatMap tokens) := by
  have ends : phrase.EndsBefore (phrases.flatMap tokens ++ []) :=
    endsBefore_flatMap_append fun last _ => last.endsBefore_nil
  rwa [List.append_nil] at ends

/-- Tokens start with at most one phrase that ends before the others. -/
theorem tokens_append_injective {first second : Phrase} {after after' : List Token}
    (ends : first.EndsBefore after) (ends' : second.EndsBefore after')
    (same : first.tokens ++ after = second.tokens ++ after') :
    first = second ∧ after = after' := by
  obtain ⟨name, type, assignment, named, typed⟩ := first
  obtain ⟨name', type', assignment', named', typed'⟩ := second
  simp only [tokens, others, List.cons_append, List.cons.injEq] at same
  obtain ⟨rfl, rfl, same⟩ := same
  cases assignment with
  | none =>
      cases assignment' with
      | none => exact ⟨rfl, same⟩
      | some assignment' =>
          have next : assignment'.equals ∈ after.head? := by
            rw [show after = _ from same]
            rfl
          exact absurd ⟨assignment'.equals_kind, assignment'.equals_text⟩ (ends rfl _ next)
  | some assignment =>
      cases assignment' with
      | none =>
          have next : assignment.equals ∈ after'.head? := by
            rw [show after' = _ from same.symm]
            rfl
          exact absurd ⟨assignment.equals_kind, assignment.equals_text⟩ (ends' rfl _ next)
      | some assignment' =>
          obtain ⟨assigned, rfl⟩ := List.append_inj same rfl
          obtain rfl := Assignment.tokens_injective assigned
          exact ⟨rfl, rfl⟩

/-- Tokens are a sequence of phrases in at most one way. -/
theorem flatMap_tokens_injective {phrases others : List Phrase}
    (same : phrases.flatMap tokens = others.flatMap tokens) : phrases = others := by
  induction phrases generalizing others with
  | nil =>
      cases others with
      | nil => rfl
      | cons phrase others => cases same
  | cons phrase phrases ih =>
      cases others with
      | nil => cases same
      | cons other others =>
          rw [List.flatMap_cons, List.flatMap_cons] at same
          obtain ⟨rfl, later⟩ := tokens_append_injective (phrase.endsBefore_flatMap phrases)
            (other.endsBefore_flatMap others) same
          rw [ih later]

end Phrase

namespace Reading

/-- The token that announces a value is the operator `=` and no other. -/
theorem assigns_iff {t : Token} : assigns t = true ↔ t.kind = .operator ∧ t.text = "=" := by
  simp [assigns, Token.is]

/-- Tokens that start no phrase, with the error to report and the number of tokens taken before
it. -/
inductive Refusal : List Token → ParseError → Nat → Prop
  | noName (found : Token) (rest : List Token) (other : found.kind ≠ .identifier) :
      Refusal (found :: rest) (.unexpectedToken found .declaration) 0
  | endAfterName (name : Token) (named : name.kind = .identifier) :
      Refusal [name] (.unexpectedEnd name.span.finishPosition .type) 1
  | noType (name found : Token) (rest : List Token) (named : name.kind = .identifier)
      (other : found.kind ≠ .identifier) :
      Refusal (name :: found :: rest) (.unexpectedToken found .type) 1
  | endAfterEquals (name type equals : Token) (named : name.kind = .identifier)
      (typed : type.kind = .identifier) (assigned : equals.kind = .operator ∧ equals.text = "=") :
      Refusal [name, type, equals] (.unexpectedEnd equals.span.finishPosition .expression) 3
  | noValue (name type equals found : Token) (rest : List Token)
      (named : name.kind = .identifier) (typed : type.kind = .identifier)
      (assigned : equals.kind = .operator ∧ equals.text = "=") (other : found.kind ≠ .number) :
      Refusal (name :: type :: equals :: found :: rest) (.unexpectedToken found .expression) 3
  | noNumber (name type equals number : Token) (rest : List Token) (e : NumberError)
      (named : name.kind = .identifier) (typed : type.kind = .identifier)
      (assigned : equals.kind = .operator ∧ equals.text = "=") (numbered : number.kind = .number)
      (malformed : Numeral.read number.text = .error e) :
      Refusal (name :: type :: equals :: number :: rest) (.malformedNumber number e) 4

/-- Tokens that are left start with a phrase or are refused. -/
theorem phrase_or_refusal (first : Token) (rest : List Token) :
    (∃ (phrase : Phrase) (after : List Token),
        phrase.EndsBefore after ∧ first :: rest = phrase.tokens ++ after) ∨
      ∃ e taken, Refusal (first :: rest) e taken := by
  -- The cases go through the tokens as they are read; each has a refusal of its own.
  by_cases named : first.kind = .identifier
  swap
  · exact Or.inr ⟨_, _, .noName first rest named⟩
  cases rest with
  | nil => exact Or.inr ⟨_, _, .endAfterName first named⟩
  | cons type rest =>
    by_cases typed : type.kind = .identifier
    swap
    · exact Or.inr ⟨_, _, .noType first type rest named typed⟩
    cases rest with
    | nil => exact Or.inl ⟨⟨first, type, none, named, typed⟩, [], by simp [Phrase.EndsBefore], rfl⟩
    | cons equals rest =>
      by_cases assigned : equals.kind = .operator ∧ equals.text = "="
      swap
      · refine Or.inl ⟨⟨first, type, none, named, typed⟩, equals :: rest,
          fun _ next isNext => ?_, rfl⟩
        obtain rfl := Option.some.inj isNext
        exact assigned
      cases rest with
      | nil => exact Or.inr ⟨_, _, .endAfterEquals first type equals named typed assigned⟩
      | cons number rest =>
        by_cases numbered : number.kind = .number
        swap
        · exact Or.inr ⟨_, _, .noValue first type equals number rest named typed assigned numbered⟩
        cases read : Numeral.read number.text with
        | error e =>
            exact Or.inr ⟨_, _, .noNumber first type equals number rest e named typed assigned
              numbered read⟩
        | ok value =>
            refine Or.inl ⟨⟨first, type, some ⟨equals, number, value, assigned.1, assigned.2,
              numbered, read⟩, named, typed⟩, rest, fun absent => ?_, rfl⟩
            cases absent

variable {source : String}

/-- The declaration of a phrase in order is built without a fault: its span starts before it
ends. -/
private theorem finish_eq_ok (phrase : Phrase) (after : List Token)
    (inOrder : Token.InOrder source (phrase.tokens ++ after)) (taken : Nat) :
    finish phrase.name phrase.type (phrase.assignment?.map Assignment.expression) taken =
      .ok (.declared phrase.declaration taken) := by
  have merged := inOrder.merge_eq_ok
    (List.mem_append_left after (Phrase.last_mem_others phrase))
  obtain ⟨name, type, assignment, named, typed⟩ := phrase
  cases assignment with
  | none =>
      change Span.merge name.span type.span = _ at merged
      simp only [finish, VariableDeclaration.build, VariableDeclaration.lastSpan?, Option.map_none,
        TypeReference.ofName, LocatedText.ofToken, merged, Except.map, Phrase.declaration,
        Phrase.last, Option.elim_none]
  | some assignment =>
      change Span.merge name.span assignment.number.span = _ at merged
      simp only [finish, VariableDeclaration.build, VariableDeclaration.lastSpan?, Option.map_some,
        Assignment.expression, Expression.span, LocatedText.ofToken, merged, Except.map,
        Phrase.declaration, Phrase.last, Option.elim_some]

/-- Reading the tokens of a phrase comes to building the declaration of its name, type and value. -/
private theorem read_eq_finish (phrase : Phrase) (after : List Token)
    (ends : phrase.EndsBefore after) :
    read phrase.name (phrase.others ++ after) =
      finish phrase.name phrase.type (phrase.assignment?.map Assignment.expression)
        phrase.tokens.length := by
  obtain ⟨name, type, assignment, named, typed⟩ := phrase
  cases assignment with
  | none =>
      rw [read, if_pos named]
      simp only [Phrase.others, Option.elim_none, List.cons_append, List.nil_append]
      rw [readType, if_pos typed]
      cases after with
      | nil => rfl
      | cons next after =>
          have other : ¬ assigns next = true := by
            rw [assigns_iff]
            exact ends rfl next rfl
          rw [readInitializer, if_neg other]
          rfl
  | some assignment =>
      have assigned : assigns assignment.equals = true :=
        assigns_iff.mpr ⟨assignment.equals_kind, assignment.equals_text⟩
      rw [read, if_pos named]
      simp only [Phrase.others, Option.elim_some, Assignment.tokens, List.cons_append,
        List.nil_append]
      rw [readType, if_pos typed, readInitializer, if_pos assigned, readValue,
        if_pos assignment.number_kind]
      simp only [assignment.number_text]
      rfl

/-- Reading tokens that start with a phrase takes just this phrase and yields its declaration. -/
theorem read_phrase (phrase : Phrase) (after : List Token) (ends : phrase.EndsBefore after)
    (inOrder : Token.InOrder source (phrase.tokens ++ after)) :
    read phrase.name (phrase.others ++ after) =
      .ok (.declared phrase.declaration phrase.tokens.length) := by
  rw [read_eq_finish phrase after ends, finish_eq_ok phrase after inOrder]

/-- Reading tokens that are refused comes to the error. -/
theorem read_refusal {first : Token} {rest : List Token} {e : ParseError} {taken : Nat}
    (refusal : Refusal (first :: rest) e taken) : read first rest = .ok (.refused e taken) := by
  cases refusal with
  | noName _ _ other => rw [read, if_neg other]
  | endAfterName _ named => rw [read, if_pos named]; rfl
  | noType _ _ _ named other => rw [read, if_pos named, readType, if_neg other]; rfl
  | endAfterEquals _ _ _ named typed assigned =>
      rw [read, if_pos named, readType, if_pos typed, readInitializer,
        if_pos (assigns_iff.mpr assigned)]
      rfl
  | noValue _ _ _ _ _ named typed assigned other =>
      rw [read, if_pos named, readType, if_pos typed, readInitializer,
        if_pos (assigns_iff.mpr assigned), readValue, if_neg other]
      rfl
  | noNumber _ _ _ _ _ _ named typed assigned numbered malformed =>
      rw [read, if_pos named, readType, if_pos typed, readInitializer,
        if_pos (assigns_iff.mpr assigned), readValue, if_pos numbered]
      simp only [malformed]

/-- Tokens are refused for one reason only. -/
theorem Refusal.unique {tokens : List Token} {e e' : ParseError} {taken taken' : Nat}
    (refusal : Refusal tokens e taken) (refusal' : Refusal tokens e' taken') :
    e = e' ∧ taken = taken' := by
  cases tokens with
  | nil => cases refusal
  | cons first rest =>
      cases (read_refusal refusal).symm.trans (read_refusal refusal')
      exact ⟨rfl, rfl⟩

/-- Tokens that start with a phrase that ends there are not refused. -/
theorem Refusal.not_phrase {phrase : Phrase} {after : List Token} {e : ParseError} {taken : Nat}
    (refusal : Refusal (phrase.tokens ++ after) e taken) : ¬ phrase.EndsBefore after := by
  intro ends
  have refused := (read_eq_finish phrase after ends).symm.trans (read_refusal refusal)
  simp only [finish] at refused
  cases built : VariableDeclaration.build (LocatedText.ofToken phrase.name)
    (some (TypeReference.ofName (LocatedText.ofToken phrase.type)))
    (phrase.assignment?.map Assignment.expression) <;> simp [built, Except.map] at refused

end Reading

end DeclLang
