import DeclLang.Proofs.Syntax.Resumption

/-!
# Parsing composes over concatenation

Accepted tokens in front of others do not change how the others are parsed, unless an equals sign
comes first among these and goes on with the last declaration in front of it. A parse of all of them
passes the phrases in front and then goes the way of a parse of the rest alone: a round looks at the
tokens that are left and not at their index (`DeclLang.Round.Course.recovers_anywhere`).
-/

namespace DeclLang

namespace Round

/-- What recovery leaves does not depend on the index at which it starts. -/
theorem snd_resume (index index' : Nat) (tokens : List Token) :
    (resume index tokens).2 = (resume index' tokens).2 := by
  induction tokens generalizing index index' with
  | nil => rfl
  | cons first rest ih =>
      unfold resume
      split
      · rfl
      · exact ih (index + 1) (index' + 1)

/-- The tokens at which a parse resumes do not depend on where they are counted from. -/
theorem snd_resumeAfter (index index' taken : Nat) (rest : List Token) :
    (resumeAfter index taken rest).2 = (resumeAfter index' taken rest).2 :=
  snd_resume _ _ _

/-- A course yields the same from every index. -/
theorem Course.recovers_anywhere {budget index : Nat} {tokens : List Token} {rounds : List Round}
    (course : Course budget index tokens rounds) (index' : Nat) :
    Recovers budget index' tokens (rounds.filterMap declaration?) (rounds.filterMap error?) := by
  induction course generalizing index' with
  | finished budget index => exact .finished budget index'
  | passed isRune later ih => exact .passed isRune (ih _)
  | declared phrase ends later ih => exact .declared phrase ends (ih _)
  | @cut budget index taken first rune rest e rounds other refusal atRune later ih =>
      apply Recovers.cut other refusal atRune
      rw [snd_resumeAfter index' index]
      exact ih _
  | @reported budget index taken first rest e rounds other refusal notAtRune later ih =>
      apply Recovers.reported other refusal notAtRune
      rw [snd_resumeAfter index' index]
      exact ih _
  | stopped other refusal notAtRune => exact .stopped other refusal notAtRune

end Round

namespace Tree

/-- **Parsing composes over concatenation.** Let accepted tokens stand in front of others that do not
start with an equals sign. A strict parse then has the declarations of the accepted tokens and after
them those of the others, or the error of the others; and a recovering one, under any limit, has the
declarations of both and the errors of the others. -/
theorem parses_compose (name source : String) (accepted rest : List Token) (tree : Tree)
    (inOrder : Token.InOrder source (accepted ++ rest))
    (parsed : parse name accepted = .ok (.ok tree))
    (apart : ∀ next ∈ rest.head?, ¬ (next.kind = .operator ∧ next.text = "=")) :
    (∃ result, parse name rest = .ok result ∧
      parse name (accepted ++ rest) =
        .ok (result.map fun later => ⟨name, tree.declarations ++ later.declarations⟩)) ∧
    ∀ limit, ∃ later errors, parseRecovering name rest limit = .ok (later, errors) ∧
      parseRecovering name (accepted ++ rest) limit =
        .ok (⟨name, tree.declarations ++ later.declarations⟩, errors) := by
  have inFront : Token.InOrder source accepted :=
    inOrder.sublist (List.sublist_append_left accepted rest)
  have behind : Token.InOrder source rest := inOrder.of_append_right
  obtain ⟨phrases, rfl⟩ := exists_phrases_of_parse inFront parsed
  -- Accepted tokens are phrases, and the last one cannot go on into tokens without an equals sign.
  have ends : ∀ last ∈ phrases.getLast?, last.EndsBefore rest := fun _ _ _ => apart
  have declared : tree = ⟨name, phrases.map Phrase.declaration⟩ := by
    have again := parse_of_course name (course_flatMap phrases) inFront
    exact Except.ok.inj (Except.ok.inj (parsed.symm.trans again))
  subst declared
  constructor
  · obtain ⟨more, stop, course⟩ := exists_course rest
    refine ⟨_, parse_of_course name course behind, ?_⟩
    rw [parse_of_course name (course.of_append ends) inOrder]
    cases stop with
    | none => rw [Course.result, Course.result, List.map_append]; rfl
    | some e => rfl
  · intro limit
    obtain ⟨rounds, course⟩ := Round.exists_course (limit - 1) 0 rest
    have recovers := Round.Recovers.phrases ends course.recovers_anywhere 0
    exact ⟨_, _, parseRecovering_of_course name course behind,
      Round.parseRecovering_of_recovers name recovers inOrder⟩

/-- The declaration `v N`. -/
def inFront : Phrase :=
  ⟨.single .identifier "v" 0, .single .identifier "N" 2, none, rfl, rfl⟩

/-- The tokens of `1 y T`. -/
def strayInFront : List Token :=
  [.single .number "1" 4, .single .identifier "y" 6, .single .identifier "T" 8]

/-- The number stops the strict parse as it would alone, and recovery declares both. -/
theorem parses_compose_at_stray :
    Token.InOrder "main" (inFront.tokens ++ strayInFront) ∧
      parse "main" inFront.tokens = .ok (.ok ⟨"main", [inFront.declaration]⟩) ∧
      parse "main" (inFront.tokens ++ strayInFront) =
        .ok (.error (.unexpectedToken (.single .number "1" 4) .declaration)) ∧
      ∃ later, parseRecovering "main" (inFront.tokens ++ strayInFront) 5 =
        .ok (⟨"main", inFront.declaration :: later⟩,
          [.unexpectedToken (.single .number "1" 4) .declaration]) := by
  have inOrder : Token.InOrder "main" (inFront.tokens ++ strayInFront) :=
    ⟨by decide, by decide, by decide⟩
  have parsed : parse "main" inFront.tokens = .ok (.ok ⟨"main", [inFront.declaration]⟩) := by
    decide +kernel
  have refused : parse "main" strayInFront =
      .ok (.error (.unexpectedToken (.single .number "1" 4) .declaration)) := by
    decide +kernel
  have reported : (parseRecovering "main" strayInFront 5).map Prod.snd =
      .ok [.unexpectedToken (.single .number "1" 4) .declaration] := by
    decide +kernel
  obtain ⟨⟨result, alone, together⟩, recovered⟩ :=
    parses_compose "main" "main" inFront.tokens strayInFront _ inOrder parsed (by decide)
  obtain rfl := Except.ok.inj (refused.symm.trans alone)
  obtain ⟨later, errors, aloneRecovered, togetherRecovered⟩ := recovered 5
  rw [aloneRecovered] at reported
  obtain rfl := Except.ok.inj reported
  exact ⟨inOrder, parsed, together, later.declarations, togetherRecovered⟩

end Tree

end DeclLang
