import DeclLang.Proofs.Syntax.Rounds

/-!
# The limit of errors

A limit of errors cuts the rounds of a recovering parse short and changes nothing else: under a
limit the rounds are those under a greater one, up to the round with the last error that is allowed.
Every error takes a token that is no rune, so a limit above the number of tokens is never reached.
-/

namespace DeclLang

namespace Round

/-- The rounds up to the one that reports an error after `budget` others, where the parse stops. -/
def within : Nat → List Round → List Round
  | _, [] => []
  | budget, round :: rounds =>
      match round.error? with
      | none => round :: within budget rounds
      | some e =>
          match budget with
          | 0 => [{ round with ending := .stopped e }]
          | budget + 1 => round :: within budget rounds

variable {budget budget' : Nat} {round : Round} {e : ParseError}

/-- A round without an error costs nothing of a limit. -/
@[simp]
theorem within_of_silent (silent : round.error? = none) (budget : Nat) (rounds : List Round) :
    within budget (round :: rounds) = round :: within budget rounds := by
  simp only [within, silent]

/-- The error that uses up a limit stops the parse. -/
theorem within_zero_of_error (failed : round.error? = some e) (rounds : List Round) :
    within 0 (round :: rounds) = [{ round with ending := .stopped e }] := by
  simp only [within, failed]

/-- An error before the last one that is allowed costs one of a limit. -/
theorem within_succ_of_error (failed : round.error? = some e) (budget : Nat)
    (rounds : List Round) :
    within (budget + 1) (round :: rounds) = round :: within budget rounds := by
  simp only [within, failed]

/-- A limit keeps the first errors. -/
@[simp]
theorem errors_within (budget : Nat) (rounds : List Round) :
    (within budget rounds).filterMap error? = (rounds.filterMap error?).take (budget + 1) := by
  induction rounds generalizing budget with
  | nil => rfl
  | cons round rounds ih =>
      cases failed : round.error? with
      | none => simp [failed, ih]
      | some e =>
          rw [List.filterMap_cons_some failed, List.take_succ_cons]
          cases budget with
          | zero => simp [within_zero_of_error failed, error?]
          | succ budget => simp [within_succ_of_error failed, failed, ih]

/-- A round that reports an error declares nothing. -/
theorem declaration?_of_error (failed : round.error? = some e) : round.declaration? = none := by
  obtain ⟨index, first, rest, ending⟩ := round
  cases ending with
  | declared declaration => cases failed
  | passed => rfl
  | cut rune resumed => rfl
  | reported e resumed => rfl
  | stopped e => rfl

/-- A limit keeps the first declarations. -/
theorem declarations_within (budget : Nat) (rounds : List Round) :
    (within budget rounds).filterMap declaration? <+: rounds.filterMap declaration? := by
  induction rounds generalizing budget with
  | nil => exact List.prefix_rfl
  | cons round rounds ih =>
      cases failed : round.error? with
      | none =>
          rw [within_of_silent failed, List.filterMap_cons, List.filterMap_cons]
          split
          · exact ih budget
          · exact List.cons_prefix_cons.mpr ⟨rfl, ih budget⟩
      | some e =>
          rw [List.filterMap_cons_none (declaration?_of_error failed)]
          cases budget with
          | zero =>
              rw [within_zero_of_error failed]
              exact List.nil_prefix
          | succ budget =>
              rw [within_succ_of_error failed,
                List.filterMap_cons_none (declaration?_of_error failed)]
              exact ih budget

/-- The smaller of two limits decides. -/
theorem within_within (fewer : budget ≤ budget') (rounds : List Round) :
    within budget (within budget' rounds) = within budget rounds := by
  induction rounds generalizing budget budget' with
  | nil => rfl
  | cons round rounds ih =>
      cases failed : round.error? with
      | none => simp [failed, ih fewer]
      | some e =>
          cases budget' with
          | zero =>
              obtain rfl := Nat.le_zero.mp fewer
              rw [within_zero_of_error failed]
              rfl
          | succ budget' =>
              rw [within_succ_of_error failed]
              cases budget with
              | zero => rw [within_zero_of_error failed, within_zero_of_error failed]
              | succ budget =>
                  rw [within_succ_of_error failed, within_succ_of_error failed,
                    ih (Nat.le_of_succ_le_succ fewer)]

namespace Course

variable {index : Nat} {tokens : List Token} {rounds : List Round}

/-- A parse with fewer errors allowed goes the same way up to the last of them. -/
theorem within (course : Course budget' index tokens rounds) (fewer : budget ≤ budget') :
    Course budget index tokens (within budget rounds) := by
  induction course generalizing budget with
  | finished budget' index => exact .finished budget index
  | passed isRune later ih =>
      rw [within_of_silent rfl]
      exact .passed isRune (ih fewer)
  | declared phrase ends later ih =>
      rw [within_of_silent rfl]
      exact .declared phrase ends (ih fewer)
  | cut other refusal atRune later ih =>
      rw [within_of_silent rfl]
      exact .cut other refusal atRune (ih fewer)
  | reported other refusal notAtRune later ih =>
      cases budget with
      | zero =>
          rw [within_zero_of_error rfl]
          exact .stopped other refusal notAtRune
      | succ budget =>
          rw [within_succ_of_error rfl]
          exact .reported other refusal notAtRune (ih (Nat.le_of_succ_le_succ fewer))
  | stopped other refusal notAtRune =>
      obtain rfl := Nat.le_zero.mp fewer
      rw [within_zero_of_error rfl]
      exact .stopped other refusal notAtRune

/-- A parse that does not reach its limit goes the same way under a greater one. -/
theorem of_few_errors (course : Course budget index tokens rounds)
    (few : (rounds.filterMap error?).length ≤ budget) (more : budget ≤ budget') :
    Course budget' index tokens rounds := by
  induction course generalizing budget' with
  | finished budget index => exact .finished budget' index
  | passed isRune later ih => exact .passed isRune (ih few more)
  | declared phrase ends later ih => exact .declared phrase ends (ih few more)
  | cut other refusal atRune later ih => exact .cut other refusal atRune (ih few more)
  | reported other refusal notAtRune later ih =>
      obtain ⟨budget', rfl⟩ := Nat.exists_eq_add_of_le' more
      exact .reported other refusal notAtRune
        (ih (Nat.le_of_succ_le_succ few) (Nat.le_add_left _ _))
  | stopped other refusal notAtRune => cases few

/-- Every error takes a token that is no rune. -/
theorem length_errors_le (course : Course budget index tokens rounds) :
    (rounds.filterMap error?).length ≤ tokens.countP fun t => t.kind != .rune := by
  induction course with
  | finished budget index => exact Nat.le_refl 0
  | @passed budget index rune rest rounds isRune later ih =>
      exact ih.trans (List.sublist_cons_self rune rest).countP_le
  | @declared budget index phrase rest rounds ends later ih =>
      exact ih.trans (List.sublist_append_right phrase.tokens rest).countP_le
  | @cut budget index taken first rune rest e rounds other refusal atRune later ih =>
      exact ih.trans (resumeAfter_suffix index taken first rest).sublist.countP_le
  | @reported budget index taken first rest e rounds other refusal notAtRune later ih =>
      obtain ⟨skipped, split⟩ := exists_append_resumeAfter index taken rest
      have within : (resumeAfter index taken rest).2 <:+ rest := ⟨skipped, split.symm⟩
      rw [List.countP_cons_of_pos (by simpa using other)]
      exact Nat.succ_le_succ (ih.trans within.sublist.countP_le)
  | @stopped index taken first rest e other refusal notAtRune =>
      rw [List.countP_cons_of_pos (by simpa using other)]
      exact Nat.succ_le_succ (Nat.zero_le _)

end Course

end Round

namespace Tree

/-- The rounds of a recovering parse without a limit. Every limit cuts them short. -/
theorem exists_unlimited_rounds {source : String} (name : String) {tokens : List Token}
    (inOrder : Token.InOrder source tokens) :
    ∃ rounds, Round.Course tokens.length 0 tokens rounds ∧
      (rounds.filterMap Round.error?).length ≤ tokens.length ∧
      ∀ limit, 0 < limit → parseRecovering name tokens limit =
        .ok (⟨name, (Round.within (limit - 1) rounds).filterMap Round.declaration?⟩,
          (rounds.filterMap Round.error?).take limit) := by
  obtain ⟨rounds, course⟩ := Round.exists_course tokens.length 0 tokens
  have few := course.length_errors_le.trans List.countP_le_length
  refine ⟨rounds, course, few, fun limit positive => ?_⟩
  have ample := course.of_few_errors few (Nat.le_max_left tokens.length (limit - 1))
  have limited := ample.within (Nat.le_max_right tokens.length (limit - 1))
  rw [parseRecovering_of_course name limited inOrder, Round.errors_within,
    Nat.sub_add_cancel positive]

end Tree

end DeclLang
