import DeclLang.Proofs.Syntax.Grammar
import DeclLang.Syntax.Recovery

/-!
# The rounds of a recovering parse

The course of a recovering parse lists what its rounds do, with phrases and refusals in place of the
reading of declarations. Tokens in order always give it a course
(`DeclLang.Round.exists_course`).

Up to the first error that is not at a rune it goes like the course of a strict parse. Tokens that
the strict parse accepts are parsed to the same tree without an error. An error of the strict parse,
unless it is at a rune, is the first one reported, and the declarations before it are kept. Without
runes, tokens that are parsed without an error are accepted.
-/

namespace DeclLang

/-- A rune is refused before anything is taken. -/
theorem Reading.Refusal.of_rune {rune : Token} (isRune : rune.kind = .rune) (rest : List Token) :
    Refusal (rune :: rest) (.unexpectedToken rune .declaration) 0 := by
  refine .noName rune rest ?_
  rw [isRune]
  exact TokenKind.noConfusion

namespace Round

/-- Resuming passes over some tokens and leaves the others as they are. -/
theorem exists_append_resume (index : Nat) (tokens : List Token) :
    ∃ skipped, tokens = skipped ++ (resume index tokens).2 := by
  fun_induction resume index tokens with
  | case1 index => exact ⟨[], rfl⟩
  | case2 index first rest starts => exact ⟨[], rfl⟩
  | case3 index first rest starts ih =>
      obtain ⟨skipped, split⟩ := ih
      exact ⟨first :: skipped, congrArg (first :: ·) split⟩

/-- A round that fails passes over what it took and what it skips, and leaves the others as they
are. -/
theorem exists_append_resumeAfter (index taken : Nat) (rest : List Token) :
    ∃ skipped, rest = skipped ++ (resumeAfter index taken rest).2 := by
  obtain ⟨skipped, split⟩ :=
    exists_append_resume (index + 1 + (taken - 1)) (rest.drop (taken - 1))
  refine ⟨rest.take (taken - 1) ++ skipped, ?_⟩
  rw [List.append_assoc, resumeAfter, ← split, List.take_append_drop]

/-- The tokens that a failed round leaves are the last ones of its tokens. -/
theorem resumeAfter_suffix (index taken : Nat) (first : Token) (rest : List Token) :
    (resumeAfter index taken rest).2 <:+ first :: rest := by
  obtain ⟨skipped, split⟩ := exists_append_resumeAfter index taken rest
  exact ⟨first :: skipped, by rw [List.cons_append, ← split]⟩

/-- The course of a recovering parse from an index on: its rounds, when `budget` more errors are
allowed besides the last one. -/
inductive Course : Nat → Nat → List Token → List Round → Prop
  | finished (budget index : Nat) : Course budget index [] []
  | passed {budget index : Nat} {rune : Token} {rest : List Token} {rounds : List Round}
      (isRune : rune.kind = .rune) (later : Course budget (index + 1) rest rounds) :
      Course budget index (rune :: rest) (⟨index, rune, rest, .passed⟩ :: rounds)
  | declared {budget index : Nat} (phrase : Phrase) {rest : List Token} {rounds : List Round}
      (ends : phrase.EndsBefore rest)
      (later : Course budget (index + phrase.tokens.length) rest rounds) :
      Course budget index (phrase.tokens ++ rest)
        (⟨index, phrase.name, phrase.others ++ rest, .declared phrase.declaration⟩ :: rounds)
  | cut {budget index taken : Nat} {first rune : Token} {rest : List Token} {e : ParseError}
      {rounds : List Round} (other : first.kind ≠ .rune)
      (refusal : Reading.Refusal (first :: rest) e taken) (atRune : runeOf? e = some rune)
      (later : Course budget (resumeAfter index taken rest).1 (resumeAfter index taken rest).2
        rounds) :
      Course budget index (first :: rest)
        (⟨index, first, rest, .cut rune (resumeAfter index taken rest).1⟩ :: rounds)
  | reported {budget index taken : Nat} {first : Token} {rest : List Token} {e : ParseError}
      {rounds : List Round} (other : first.kind ≠ .rune)
      (refusal : Reading.Refusal (first :: rest) e taken) (notAtRune : runeOf? e = none)
      (later : Course budget (resumeAfter index taken rest).1 (resumeAfter index taken rest).2
        rounds) :
      Course (budget + 1) index (first :: rest)
        (⟨index, first, rest, .reported e (resumeAfter index taken rest).1⟩ :: rounds)
  | stopped {index taken : Nat} {first : Token} {rest : List Token} {e : ParseError}
      (other : first.kind ≠ .rune) (refusal : Reading.Refusal (first :: rest) e taken)
      (notAtRune : runeOf? e = none) :
      Course 0 index (first :: rest) [⟨index, first, rest, .stopped e⟩]

/-- All tokens give a recovering parse its course. -/
theorem exists_course (budget index : Nat) (tokens : List Token) :
    ∃ rounds, Course budget index tokens rounds := by
  -- Every round takes a token, so the induction is on the number of tokens left.
  induction length : tokens.length using Nat.strong_induction_on
    generalizing budget index tokens with
  | _ count ih =>
      cases tokens with
      | nil => exact ⟨[], .finished budget index⟩
      | cons first rest =>
          by_cases isRune : first.kind = .rune
          · obtain ⟨rounds, later⟩ :=
              ih rest.length (by simp [← length]) budget (index + 1) rest rfl
            exact ⟨_, .passed isRune later⟩
          rcases Reading.phrase_or_refusal first rest with
            ⟨phrase, after, ends, split⟩ | ⟨e, taken, refusal⟩
          · have fewer : after.length < count := by
              rw [← length, split, List.length_append]
              exact Nat.lt_add_of_pos_left (Nat.succ_pos _)
            obtain ⟨rounds, later⟩ := ih after.length fewer budget (index + phrase.tokens.length)
              after rfl
            rw [split]
            exact ⟨_, .declared phrase ends later⟩
          · have fewer : (resumeAfter index taken rest).2.length < count := by
              rw [← length, List.length_cons]
              exact Nat.lt_succ_of_le (length_resumeAfter_le index taken rest)
            cases found : runeOf? e with
            | some rune =>
                obtain ⟨rounds, later⟩ := ih _ fewer budget (resumeAfter index taken rest).1 _ rfl
                exact ⟨_, .cut isRune refusal found later⟩
            | none =>
                cases budget with
                | zero => exact ⟨_, .stopped isRune refusal found⟩
                | succ budget =>
                    obtain ⟨rounds, later⟩ :=
                      ih _ fewer budget (resumeAfter index taken rest).1 _ rfl
                    exact ⟨_, .reported isRune refusal found later⟩

variable {source : String}

theorem inOrder_resumeAfter {first : Token} {rest : List Token} (index taken : Nat)
    (inOrder : Token.InOrder source (first :: rest)) :
    Token.InOrder source (resumeAfter index taken rest).2 := by
  obtain ⟨skipped, split⟩ := exists_append_resumeAfter index taken rest
  have later := inOrder.tail
  rw [split] at later
  exact later.of_append_right

/-- A recovering parse of tokens in order takes its course and never faults. -/
theorem run_of_course {budget index : Nat} {tokens : List Token} {rounds : List Round}
    (course : Course budget index tokens rounds) (inOrder : Token.InOrder source tokens)
    (done : List Round) : run budget done index tokens = .ok (done.reverse ++ rounds) := by
  induction course generalizing done with
  | finished budget index => rw [run, List.append_nil]
  | passed isRune later ih =>
      rw [run, if_pos isRune, ih inOrder.tail, List.reverse_cons, List.append_assoc,
        List.singleton_append]
  | @declared budget index phrase rest rounds ends later ih =>
      have named : ¬ phrase.name.kind = .rune := by
        rw [phrase.name_kind]
        exact TokenKind.noConfusion
      have count : index + 1 + (phrase.tokens.length - 1) = index + phrase.tokens.length := by
        simp only [Phrase.tokens, List.length_cons]
        omega
      rw [Phrase.tokens, List.cons_append, run, if_neg named,
        Reading.read_phrase phrase rest ends inOrder]
      simp only [Phrase.drop_others_append, count, ih inOrder.of_append_right]
      rw [List.reverse_cons, List.append_assoc, List.singleton_append]
  | @cut budget index taken first rune rest e rounds other refusal atRune later ih =>
      have resumed := inOrder_resumeAfter index taken inOrder
      rw [run, if_neg other, Reading.read_refusal refusal]
      simp only [atRune, ih resumed]
      rw [List.reverse_cons, List.append_assoc, List.singleton_append]
  | @reported budget index taken first rest e rounds other refusal notAtRune later ih =>
      have resumed := inOrder_resumeAfter index taken inOrder
      rw [run, if_neg other, Reading.read_refusal refusal]
      simp only [notAtRune, ih resumed]
      rw [List.reverse_cons, List.append_assoc, List.singleton_append]
  | stopped other refusal notAtRune =>
      rw [run, if_neg other, Reading.read_refusal refusal]
      simp only [notAtRune, List.reverse_cons]

/-- Without a rune among the tokens, no refusal is at one. -/
theorem runeOf?_eq_none_of_refusal {tokens : List Token} {e : ParseError} {taken : Nat}
    (refusal : Reading.Refusal tokens e taken) (runeless : ∀ t ∈ tokens, t.kind ≠ .rune) :
    runeOf? e = none := by
  cases refusal <;> simp_all [runeOf?]

/-- A strict parse of tokens without a rune does not stop at a rune. -/
theorem runeOf?_eq_none_of_course {tokens : List Token} {phrases : List Phrase}
    {stop : Option ParseError} (course : Tree.Course tokens phrases stop)
    (runeless : ∀ t ∈ tokens, t.kind ≠ .rune) : ∀ e ∈ stop, runeOf? e = none := by
  induction course with
  | finished => simp
  | passed phrase ends later ih =>
      exact ih fun t member => runeless t (List.mem_append_right _ member)
  | refused refusal =>
      rintro e ⟨⟩
      exact runeOf?_eq_none_of_refusal refusal runeless

/-- Tokens that a strict parse passes to the end are declared without an error. -/
theorem Course.declared_of_finished {budget index : Nat} {tokens : List Token}
    {rounds : List Round} (course : Course budget index tokens rounds) {phrases : List Phrase}
    (strict : Tree.Course tokens phrases none) :
    rounds.filterMap declaration? = phrases.map Phrase.declaration ∧
      rounds.filterMap error? = [] := by
  induction course generalizing phrases with
  | finished budget index =>
      cases strict with
      | finished => exact ⟨rfl, rfl⟩
  | passed isRune later ih =>
      cases (strict.of_refusal (.of_rune isRune _)).2
  | declared phrase ends later ih =>
      obtain ⟨others, rfl, onward⟩ := strict.of_phrase ends
      obtain ⟨declared, clean⟩ := ih onward
      exact ⟨congrArg (phrase.declaration :: ·) declared, clean⟩
  | cut other refusal atRune later ih => cases (strict.of_refusal refusal).2
  | reported other refusal notAtRune later ih => cases (strict.of_refusal refusal).2
  | stopped other refusal notAtRune => cases (strict.of_refusal refusal).2

/-- The error that a strict parse stops at, unless it is at a rune, is the first one reported, after
the declarations of the phrases before it. -/
theorem Course.reported_of_stopped {budget index : Nat} {tokens : List Token}
    {rounds : List Round} (course : Course budget index tokens rounds) {phrases : List Phrase}
    {e : ParseError} (strict : Tree.Course tokens phrases (some e)) (notAtRune : runeOf? e = none) :
    phrases.map Phrase.declaration <+: rounds.filterMap declaration? ∧
      ∃ others, rounds.filterMap error? = e :: others := by
  induction course generalizing phrases with
  | finished budget index => cases strict with
      | refused refusal => cases refusal
  | passed isRune later ih =>
      obtain ⟨rfl, found⟩ := strict.of_refusal (.of_rune isRune _)
      obtain rfl := Option.some.inj found
      simp [runeOf?, isRune] at notAtRune
  | declared phrase ends later ih =>
      obtain ⟨others, rfl, onward⟩ := strict.of_phrase ends
      obtain ⟨before, reported⟩ := ih onward
      exact ⟨List.cons_prefix_cons.mpr ⟨rfl, before⟩, reported⟩
  | cut other refusal atRune later ih =>
      obtain ⟨rfl, found⟩ := strict.of_refusal refusal
      obtain rfl := Option.some.inj found
      cases atRune.symm.trans notAtRune
  | reported other refusal _ later ih =>
      obtain ⟨rfl, found⟩ := strict.of_refusal refusal
      obtain rfl := Option.some.inj found
      exact ⟨List.nil_prefix, _, rfl⟩
  | stopped other refusal _ =>
      obtain ⟨rfl, found⟩ := strict.of_refusal refusal
      obtain rfl := Option.some.inj found
      exact ⟨List.nil_prefix, _, rfl⟩

end Round

namespace Tree

/-- A recovering parse of tokens in order yields what its rounds declare and report. -/
theorem parseRecovering_of_course {source : String} (name : String) {tokens : List Token}
    {limit : Nat} {rounds : List Round} (course : Round.Course (limit - 1) 0 tokens rounds)
    (inOrder : Token.InOrder source tokens) :
    parseRecovering name tokens limit =
      .ok (⟨name, rounds.filterMap Round.declaration?⟩, rounds.filterMap Round.error?) := by
  rw [parseRecovering, recoveryRounds, Round.run_of_course course inOrder]
  rfl

end Tree

/-- An error is at a rune only if it is about an unexpected rune. -/
theorem Round.runeOf?_eq_none {e : ParseError}
    (notAtRune : ∀ found expected, e = .unexpectedToken found expected → found.kind ≠ .rune) :
    runeOf? e = none := by
  cases e with
  | unexpectedToken found expected => exact if_neg (notAtRune found expected rfl)
  | unexpectedEnd position expected => rfl
  | malformedNumber token error => rfl

namespace Tree

/-- **Strict and recovering parses agree.** A tree of a strict parse is that of a recovering one,
which then reports nothing. An error of a strict parse that is not at a rune is the first one
reported, after the declarations of the phrases that the strict parse has passed. Without a rune, a
recovering parse that reports nothing comes to the tree of a strict one. -/
theorem recovery_agrees_with_strict_parse (name source : String) (tokens : List Token)
    (limit : Nat) (inOrder : Token.InOrder source tokens) :
    (∀ tree, parse name tokens = .ok (.ok tree) →
      parseRecovering name tokens limit = .ok (tree, [])) ∧
    (∀ e, parse name tokens = .ok (.error e) →
      (∀ found expected, e = .unexpectedToken found expected → found.kind ≠ .rune) →
      ∃ phrases tree errors, Course tokens phrases (some e) ∧
        parseRecovering name tokens limit = .ok (tree, errors) ∧ errors.head? = some e ∧
        phrases.map Phrase.declaration <+: tree.declarations) ∧
    ((∀ t ∈ tokens, t.kind ≠ .rune) →
      ∀ tree, parseRecovering name tokens limit = .ok (tree, []) →
        parse name tokens = .ok (.ok tree)) := by
  obtain ⟨phrases, stop, course⟩ := exists_course tokens
  obtain ⟨rounds, roundCourse⟩ := Round.exists_course (limit - 1) 0 tokens
  rw [parse_of_course name course inOrder, parseRecovering_of_course name roundCourse inOrder]
  cases stop with
  | none =>
      obtain ⟨declared, clean⟩ := roundCourse.declared_of_finished course
      rw [declared, clean]
      refine ⟨?_, ?_, ?_⟩
      · rintro tree ⟨⟩
        rfl
      · rintro e ⟨⟩
      · rintro - tree ⟨⟩
        rfl
  | some e =>
      refine ⟨?_, ?_, ?_⟩
      · rintro tree ⟨⟩
      · rintro _ ⟨⟩ notAtRune
        obtain ⟨before, others, reported⟩ :=
          roundCourse.reported_of_stopped course (Round.runeOf?_eq_none notAtRune)
        exact ⟨phrases, _, _, course, rfl, by rw [reported]; rfl, before⟩
      · intro runeless tree silent
        have notAtRune := Round.runeOf?_eq_none_of_course course runeless e rfl
        obtain ⟨-, others, reported⟩ := roundCourse.reported_of_stopped course notAtRune
        rw [reported] at silent
        cases silent

/-- The tokens of `x T y 1 @ z T`. -/
def strayNumber : List Token :=
  [.single .identifier "x" 0, .single .identifier "T" 2, .single .identifier "y" 4,
   .single .number "1" 6, .single .rune "@" 8, .single .identifier "z" 10,
   .single .identifier "T" 12]

/-- The number after `y` stops the strict parse and is reported by the recovering one. -/
theorem parseRecovering_strayNumber :
    Token.InOrder "main" strayNumber ∧
      parse "main" strayNumber =
        .ok (.error (.unexpectedToken (.single .number "1" 6) .type)) ∧
      ∃ phrases tree errors,
        Course strayNumber phrases (some (.unexpectedToken (.single .number "1" 6) .type)) ∧
        parseRecovering "main" strayNumber 32 = .ok (tree, errors) ∧
        errors.head? = some (.unexpectedToken (.single .number "1" 6) .type) ∧
        phrases.map Phrase.declaration <+: tree.declarations := by
  have inOrder : Token.InOrder "main" strayNumber := ⟨by decide, by decide, by decide⟩
  have failed : parse "main" strayNumber =
      .ok (.error (.unexpectedToken (.single .number "1" 6) .type)) := by
    decide +kernel
  refine ⟨inOrder, failed, ?_⟩
  refine (recovery_agrees_with_strict_parse "main" "main" strayNumber 32 inOrder).2.1 _ failed ?_
  rintro _ _ ⟨⟩
  exact TokenKind.noConfusion

end Tree

end DeclLang
