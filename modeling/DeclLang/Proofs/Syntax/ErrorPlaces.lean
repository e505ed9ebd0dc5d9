import DeclLang.Proofs.Syntax.Occurrence

/-!
# The places of errors

An error of a parse has a place among the tokens: the token that does not fit, or the end. The place
is never behind the first token that was not taken. Recovery resumes there or later, at two
identifiers, and what goes wrong next lies behind both of them; so a recovering parse finds its
errors at ever later places (`DeclLang.Round.Course.errorIndices_increase`).
-/

namespace DeclLang

namespace Expectation

/-- The number of tokens of a declaration before the place where something is expected. -/
def depth (expected : Expectation) : Nat :=
  if expected = declaration then 0 else if expected = type then 1 else 3

@[simp]
theorem depth_declaration : declaration.depth = 0 := by
  decide

@[simp]
theorem depth_type : type.depth = 1 := by
  decide

@[simp]
theorem depth_expression : expression.depth = 3 := by
  decide

end Expectation

namespace ParseError

/-- The token that an error is about, unless it is about the end. -/
def found? : ParseError → Option Token
  | .unexpectedToken found _ => some found
  | .unexpectedEnd _ _ => none
  | .malformedNumber number _ => some number

/-- An error about a token is found where the token starts. -/
theorem position_of_found {e : ParseError} {t : Token} (about : e.found? = some t) :
    e.position = t.span.startPosition := by
  cases e with
  | unexpectedToken found expected => cases about; rfl
  | unexpectedEnd position expected => cases about
  | malformedNumber number error => cases about; rfl

/-- An error about a token points at the whole token. -/
theorem label_of_found {e : ParseError} {t : Token} (about : e.found? = some t) :
    e.label.start = t.span.start.offset ∧ e.label.finish = t.span.finish.offset := by
  cases e with
  | unexpectedToken found expected => cases about; exact ⟨rfl, rfl⟩
  | unexpectedEnd position expected => cases about
  | malformedNumber number error => cases about; exact ⟨rfl, rfl⟩

/-- The number of tokens of a declaration before the place of an error. -/
def depth : ParseError → Nat
  | .unexpectedToken _ expected => expected.depth
  | .unexpectedEnd _ expected => expected.depth
  | .malformedNumber _ _ => Expectation.expression.depth

/-- An error at an index of some tokens: about the token there, or about the end behind the last
one. -/
inductive At (tokens : List Token) : Nat → ParseError → Prop
  | token {index : Nat} {e : ParseError} {found : Token} (about : e.found? = some found)
      (there : tokens[index]? = some found) : At tokens index e
  | ending {last : Token} (isLast : tokens.getLast? = some last) (expected : Expectation) :
      At tokens tokens.length (.unexpectedEnd last.span.finishPosition expected)

/-- Tokens in front of others move the places of their errors. -/
theorem At.append {tokens : List Token} {index : Nat} {e : ParseError} (place : At tokens index e)
    (before : List Token) : At (before ++ tokens) (before.length + index) e := by
  cases place with
  | token about there =>
      apply At.token about
      rw [List.getElem?_append_right (Nat.le_add_right _ _), Nat.add_sub_cancel_left]
      exact there
  | @ending last isLast expected =>
      rw [← List.length_append]
      apply At.ending
      rw [List.getLast?_append, isLast]
      rfl

end ParseError

namespace Reading

/-- An error is at its depth in the tokens that are refused, and all tokens before it are taken. -/
theorem Refusal.place {tokens : List Token} {e : ParseError} {taken : Nat}
    (refusal : Refusal tokens e taken) : ParseError.At tokens e.depth e ∧ e.depth ≤ taken := by
  cases refusal with
  | noName found rest other => exact ⟨.token rfl rfl, by simp [ParseError.depth]⟩
  | endAfterName name named => exact ⟨.ending rfl .type, by simp [ParseError.depth]⟩
  | noType name found rest named other => exact ⟨.token rfl rfl, by simp [ParseError.depth]⟩
  | endAfterEquals name type equals named typed assigned =>
      exact ⟨.ending rfl .expression, by simp [ParseError.depth]⟩
  | noValue name type equals found rest named typed assigned other =>
      exact ⟨.token rfl rfl, by simp [ParseError.depth]⟩
  | noNumber name type equals number rest e named typed assigned numbered malformed =>
      exact ⟨.token rfl rfl, by simp [ParseError.depth]⟩

/-- Two identifiers are no place of an error. -/
theorem Refusal.two_le_depth {tokens : List Token} {e : ParseError} {taken : Nat}
    (refusal : Refusal tokens e taken) (starts : Round.startsDeclaration tokens = true) :
    2 ≤ e.depth := by
  cases refusal with
  | noName found rest other =>
      cases rest <;> simp [Round.startsDeclaration, other] at starts
  | endAfterName name named => cases starts
  | noType name found rest named other => simp [Round.startsDeclaration, other] at starts
  | endAfterEquals name type equals named typed assigned => simp [ParseError.depth]
  | noValue name type equals found rest named typed assigned other => simp [ParseError.depth]
  | noNumber name type equals number rest e named typed assigned numbered malformed =>
      simp [ParseError.depth]

/-- An error that is not at a rune is about no rune: a number whose text is none is a number
token. -/
theorem Refusal.found_ne_rune {tokens : List Token} {e : ParseError} {taken : Nat}
    (refusal : Refusal tokens e taken) (notAtRune : Round.runeOf? e = none) :
    ∀ t ∈ e.found?, t.kind ≠ .rune := by
  intro t about isRune
  cases e with
  | unexpectedToken found expected =>
      obtain rfl := Option.some.inj about
      rw [Round.runeOf?, if_pos isRune] at notAtRune
      cases notAtRune
  | unexpectedEnd position expected => cases about
  | malformedNumber number error =>
      obtain rfl := Option.some.inj about
      cases refusal with
      | noNumber _ _ _ _ _ _ _ _ _ numbered _ =>
          rw [isRune] at numbered
          cases numbered

end Reading

namespace Round

/-- The index at which a round found its error, if it reported one. -/
def errorIndex? (round : Round) : Option Nat :=
  round.error?.map fun e => round.index + e.depth

/-- Where recovery resumes, two identifiers stand or no token is left. -/
theorem starts_resumeAfter (index taken : Nat) (rest : List Token) :
    (resumeAfter index taken rest).2 = [] ∨
      startsDeclaration (resumeAfter index taken rest).2 = true := by
  rw [resumeAfter]
  fun_induction resume (index + 1 + (taken - 1)) (rest.drop (taken - 1)) with
  | case1 index => exact Or.inl rfl
  | case2 index first rest starts => exact Or.inr starts
  | case3 index first rest starts ih => exact ih

namespace Course

variable {budget index : Nat} {tokens : List Token} {rounds : List Round}

/-- Every error of a course is at its index. -/
theorem errors_at (course : Course budget index tokens rounds) (before : List Token)
    (placed : before.length = index) :
    List.Forall₂ (ParseError.At (before ++ tokens)) (rounds.filterMap errorIndex?)
      (rounds.filterMap error?) := by
  -- The tokens in front grow from round to round, so that all places count from the same start.
  induction course generalizing before with
  | finished budget index => exact .nil
  | @passed budget index rune rest rounds isRune later ih =>
      rw [List.append_cons]
      exact ih (before ++ [rune]) (by rw [List.length_append, placed, List.length_singleton])
  | declared phrase ends later ih =>
      rw [← List.append_assoc]
      exact ih (before ++ phrase.tokens) (by rw [List.length_append, placed])
  | @cut budget index taken first rune rest e rounds other refusal atRune later ih =>
      obtain ⟨passed, split, reached⟩ := passed_of_refusal refusal placed
      rw [split]
      exact ih passed reached
  | @reported budget index taken first rest e rounds other refusal notAtRune later ih =>
      obtain ⟨passed, split, reached⟩ := passed_of_refusal refusal placed
      have onward := ih passed reached
      rw [← split] at onward
      refine .cons ?_ onward
      rw [← placed]
      exact refusal.place.1.append before
  | @stopped index taken first rest e other refusal notAtRune =>
      refine .cons ?_ .nil
      rw [← placed]
      exact refusal.place.1.append before

/-- No error is before the tokens that are left, nor at two identifiers that they start with. -/
theorem le_errorIndex (course : Course budget index tokens rounds) :
    ∀ place ∈ rounds.filterMap errorIndex?,
      index ≤ place ∧ (startsDeclaration tokens = true → index + 2 ≤ place) := by
  induction course with
  | finished budget index => simp
  | @passed budget index rune rest rounds isRune later ih =>
      intro place member
      have onward := (ih place member).1
      constructor
      · omega
      · intro starts
        cases rest <;> simp [startsDeclaration, isRune] at starts
  | @declared budget index phrase rest rounds ends later ih =>
      intro place member
      have onward := (ih place member).1
      have two : 2 ≤ phrase.tokens.length := by
        simp only [Phrase.tokens, Phrase.others, List.length_cons]
        omega
      constructor
      · omega
      · intro _
        omega
  | @cut budget index taken first rune rest e rounds other refusal atRune later ih =>
      obtain ⟨skipped, -, passed, reached⟩ := skipped_of_refusal index refusal
      intro place member
      have onward := (ih place member).1
      -- From two identifiers on a rune cuts no sooner than behind both, and recovery goes on there.
      constructor
      · omega
      · intro starts
        have deep := refusal.two_le_depth starts
        have took := refusal.place.2
        omega
  | @reported budget index taken first rest e rounds other refusal notAtRune later ih =>
      obtain ⟨skipped, -, passed, reached⟩ := skipped_of_refusal index refusal
      have took := refusal.place.2
      refine List.forall_mem_cons.mpr ⟨⟨Nat.le_add_right _ _, ?_⟩, fun place member => ?_⟩
      · intro starts
        exact Nat.add_le_add_left (refusal.two_le_depth starts) index
      · have onward := (ih place member).1
        constructor
        · omega
        · intro starts
          have deep := refusal.two_le_depth starts
          omega
  | @stopped index taken first rest e other refusal notAtRune =>
      refine List.forall_mem_singleton.mpr ⟨Nat.le_add_right _ _, fun starts => ?_⟩
      exact Nat.add_le_add_left (refusal.two_le_depth starts) index

/-- The places of the errors of a course come one after another. -/
theorem errorIndices_increase (course : Course budget index tokens rounds) :
    (rounds.filterMap errorIndex?).Pairwise (· < ·) := by
  induction course with
  | finished budget index => exact .nil
  | passed isRune later ih => exact ih
  | declared phrase ends later ih => exact ih
  | cut other refusal atRune later ih => exact ih
  | @reported budget index taken first rest e rounds other refusal notAtRune later ih =>
      refine .cons (fun place member => ?_) ih
      change index + e.depth < place
      rcases starts_resumeAfter index taken rest with ended | starts
      · rw [ended] at later
        cases later
        cases member
      · obtain ⟨skipped, -, passed, reached⟩ := skipped_of_refusal index refusal
        have behind := (later.le_errorIndex place member).2 starts
        have took := refusal.place.2
        omega
  | stopped other refusal notAtRune => exact List.pairwise_singleton _ _

/-- No error of a course is about a rune. -/
theorem found_ne_rune (course : Course budget index tokens rounds) :
    ∀ e ∈ rounds.filterMap error?, ∀ t ∈ e.found?, t.kind ≠ .rune := by
  induction course with
  | finished budget index => simp
  | passed isRune later ih => exact ih
  | declared phrase ends later ih => exact ih
  | cut other refusal atRune later ih => exact ih
  | reported other refusal notAtRune later ih =>
      exact List.forall_mem_cons.mpr ⟨refusal.found_ne_rune notAtRune, ih⟩
  | stopped other refusal notAtRune =>
      exact List.forall_mem_singleton.mpr (refusal.found_ne_rune notAtRune)

end Course

end Round

end DeclLang
