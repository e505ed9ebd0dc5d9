import DeclLang.Proofs.Syntax.Rounds

/-!
# What recovery skips and what it yields

After a failure recovery skips to the next two identifiers. Tokens without two adjacent identifiers
that do not end in one are skipped whole, whatever follows them. `DeclLang.Round.Recovers` tells
what a course yields, its declarations and its errors, and forgets the rounds: one lemma for each
way a round can end builds it from the rest.
-/

namespace DeclLang

namespace Round

/-- Tokens in which no declaration starts, also not with a token after them. -/
structure Skipped (tokens : List Token) : Prop where
  apart : tokens.IsChain fun first second =>
    ¬ (first.kind = .identifier ∧ second.kind = .identifier)
  closed : ∀ last ∈ tokens.getLast?, last.kind ≠ .identifier

namespace Skipped

variable {first second : Token} {rest : List Token}

theorem nil : Skipped [] :=
  ⟨List.isChain_nil, by simp⟩

theorem tail (skipped : Skipped (first :: rest)) : Skipped rest := by
  refine ⟨(List.isChain_cons.mp skipped.apart).2, fun last isLast => ?_⟩
  exact skipped.closed last (by rw [List.getLast?_cons, isLast]; rfl)

/-- A token other than an identifier starts no declaration in front of skipped tokens. -/
theorem cons (other : first.kind ≠ .identifier) (skipped : Skipped rest) :
    Skipped (first :: rest) := by
  refine ⟨List.isChain_cons.mpr ⟨fun _ _ both => other both.1, skipped.apart⟩, ?_⟩
  intro last isLast
  cases rest with
  | nil =>
      obtain rfl := Option.some.inj isLast
      exact other
  | cons second rest => exact skipped.closed last (by rwa [List.getLast?_cons_cons] at isLast)

/-- An identifier may stand before another token. -/
theorem cons_cons (other : second.kind ≠ .identifier) (skipped : Skipped (second :: rest)) :
    Skipped (first :: second :: rest) := by
  refine ⟨List.isChain_cons_cons.mpr ⟨fun both => other both.2, skipped.apart⟩, ?_⟩
  intro last isLast
  exact skipped.closed last (by rwa [List.getLast?_cons_cons] at isLast)

/-- Tokens without identifiers are skipped with the skipped tokens after them. -/
theorem append {front back : List Token} (others : ∀ t ∈ front, t.kind ≠ .identifier)
    (skipped : Skipped back) : Skipped (front ++ back) := by
  induction front with
  | nil => exact skipped
  | cons first front ih =>
      obtain ⟨other, others⟩ := List.forall_mem_cons.mp others
      exact (ih others).cons other

theorem of_others {tokens : List Token} (others : ∀ t ∈ tokens, t.kind ≠ .identifier) :
    Skipped tokens := by
  have skipped := append others nil
  rwa [List.append_nil] at skipped

/-- No declaration starts at the first of some skipped tokens, whatever comes after them all. -/
theorem startsDeclaration_append (skipped : Skipped (first :: rest)) (after : List Token) :
    startsDeclaration (first :: rest ++ after) = false := by
  cases rest with
  | nil =>
      have other : first.kind ≠ .identifier := skipped.closed first rfl
      cases after with
      | nil => rfl
      | cons next after => simp [startsDeclaration, other]
  | cons second rest =>
      have apart := (List.isChain_cons_cons.mp skipped.apart).1
      by_cases named : first.kind = .identifier
      · have other : second.kind ≠ .identifier := fun typed => apart ⟨named, typed⟩
        simp [startsDeclaration, other]
      · simp [startsDeclaration, named]

end Skipped

/-- Resuming passes over all skipped tokens. -/
theorem resume_append {front : List Token} (skipped : Skipped front) (index : Nat)
    (back : List Token) : resume index (front ++ back) = resume (index + front.length) back := by
  induction front generalizing index with
  | nil => rfl
  | cons first front ih =>
      rw [List.cons_append, resume, ← List.cons_append, skipped.startsDeclaration_append back,
        if_neg Bool.false_ne_true, ih skipped.tail, List.length_cons, Nat.add_assoc,
        Nat.add_comm 1]

/-- Resuming stays where a declaration can start, and at the end. -/
theorem resume_of_starts {tokens : List Token}
    (starts : tokens = [] ∨ startsDeclaration tokens = true) (index : Nat) :
    resume index tokens = (index, tokens) := by
  cases tokens with
  | nil => rfl
  | cons first rest =>
      rcases starts with empty | starts
      · cases empty
      · rw [resume, if_pos starts]

/-- What a recovering parse yields from an index on: its declarations and its errors, when `budget`
more errors are allowed besides the last one. -/
def Recovers (budget index : Nat) (tokens : List Token) (declarations : List Declaration)
    (errors : List ParseError) : Prop :=
  ∃ rounds, Course budget index tokens rounds ∧ rounds.filterMap declaration? = declarations ∧
    rounds.filterMap error? = errors

namespace Recovers

variable {budget index taken : Nat} {first rune : Token} {rest : List Token} {e : ParseError}
  {declarations : List Declaration} {errors : List ParseError}

theorem finished (budget index : Nat) : Recovers budget index [] [] [] :=
  ⟨[], .finished budget index, rfl, rfl⟩

/-- A rune where a round starts yields nothing. -/
theorem passed (isRune : rune.kind = .rune)
    (later : Recovers budget (index + 1) rest declarations errors) :
    Recovers budget index (rune :: rest) declarations errors := by
  obtain ⟨rounds, course, declared, reported⟩ := later
  exact ⟨_, .passed isRune course, declared, reported⟩

/-- A phrase yields its declaration. -/
theorem declared (phrase : Phrase) (ends : phrase.EndsBefore rest)
    (later : Recovers budget (index + phrase.tokens.length) rest declarations errors) :
    Recovers budget index (phrase.tokens ++ rest) (phrase.declaration :: declarations) errors := by
  obtain ⟨rounds, course, declared, reported⟩ := later
  exact ⟨_, .declared phrase ends course, congrArg (phrase.declaration :: ·) declared, reported⟩

/-- A phrase that is cut by a rune yields nothing. -/
theorem cut (other : first.kind ≠ .rune) (refusal : Reading.Refusal (first :: rest) e taken)
    (atRune : runeOf? e = some rune)
    (later : Recovers budget (resumeAfter index taken rest).1 (resumeAfter index taken rest).2
      declarations errors) :
    Recovers budget index (first :: rest) declarations errors := by
  obtain ⟨rounds, course, declared, reported⟩ := later
  exact ⟨_, .cut other refusal atRune course, declared, reported⟩

/-- An error that is not the last one allowed is yielded, and the parse resumes. -/
theorem reported (other : first.kind ≠ .rune) (refusal : Reading.Refusal (first :: rest) e taken)
    (notAtRune : runeOf? e = none)
    (later : Recovers budget (resumeAfter index taken rest).1 (resumeAfter index taken rest).2
      declarations errors) :
    Recovers (budget + 1) index (first :: rest) declarations (e :: errors) := by
  obtain ⟨rounds, course, declared, reported⟩ := later
  exact ⟨_, .reported other refusal notAtRune course, declared, congrArg (e :: ·) reported⟩

/-- The last error that is allowed is yielded alone. -/
theorem stopped (other : first.kind ≠ .rune) (refusal : Reading.Refusal (first :: rest) e taken)
    (notAtRune : runeOf? e = none) : Recovers 0 index (first :: rest) [] [e] :=
  ⟨_, .stopped other refusal notAtRune, rfl, rfl⟩

/-- Phrases in a row yield their declarations in turn. -/
theorem phrases {phrases : List Phrase} (ends : ∀ last ∈ phrases.getLast?, last.EndsBefore rest)
    (later : ∀ index, Recovers budget index rest declarations errors) (index : Nat) :
    Recovers budget index (phrases.flatMap Phrase.tokens ++ rest)
      (phrases.map Phrase.declaration ++ declarations) errors := by
  induction phrases generalizing index with
  | nil => exact later index
  | cons phrase phrases ih =>
      rw [List.flatMap_cons, List.append_assoc]
      refine .declared phrase (Phrase.endsBefore_flatMap_append ends) (ih (fun last isLast => ?_) _)
      exact ends last (by rw [List.getLast?_cons, isLast]; rfl)

end Recovers

/-- A recovering parse of tokens in order yields what their course yields. -/
theorem parseRecovering_of_recovers {source : String} (name : String) {tokens : List Token}
    {limit : Nat} {declarations : List Declaration} {errors : List ParseError}
    (recovers : Recovers (limit - 1) 0 tokens declarations errors)
    (inOrder : Token.InOrder source tokens) :
    Tree.parseRecovering name tokens limit = .ok (⟨name, declarations⟩, errors) := by
  obtain ⟨rounds, course, rfl, rfl⟩ := recovers
  exact Tree.parseRecovering_of_course name course inOrder

end Round

end DeclLang
