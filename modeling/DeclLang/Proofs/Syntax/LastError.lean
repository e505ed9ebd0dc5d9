import DeclLang.Proofs.Syntax.ErrorLimit
import DeclLang.Proofs.Syntax.ErrorPlaces

/-!
# The last error that a limit allows

A recovering parse that stops at its limit keeps what it found before the place of its last error,
and loses every declaration from that place on. A round that reports an error resumes at its place
or later, and a round that declares takes its tokens before the place of any error after it; so what
a limit keeps is told by places alone (`DeclLang.Round.Finds`).
-/

namespace DeclLang

namespace Occurrence

/-- The occurrences that end before a place, or all of them if there is no such place. -/
def endingBefore : Option Nat → List Occurrence → List Occurrence
  | none, found => found
  | some place, found => found.filter fun occurrence => occurrence.finish ≤ place

variable {index : Nat} {tokens : List Token} {found : List Occurrence}

/-- A phrase takes at least its name and its type. -/
theorem start_lt_finish (occurrence : Occurrence) : occurrence.start < occurrence.finish :=
  Nat.lt_add_of_pos_right (Nat.succ_pos _)

/-- Nothing that is picked from an index on ends before the index. -/
theorem Picked.endingBefore_eq_nil (picked : Picked index tokens found) {place : Nat}
    (reached : place ≤ index) : endingBefore (some place) found = [] := by
  refine List.filter_eq_nil_iff.mpr fun occurrence member early => ?_
  have starts := picked.le_start occurrence member
  have ends := occurrence.start_lt_finish
  have early := of_decide_eq_true early
  omega

/-- An occurrence that ends before a place is kept, with those of the others that are. -/
theorem endingBefore_cons_of_le {place? : Option Nat} {occurrence : Occurrence}
    (early : ∀ place ∈ place?, occurrence.finish ≤ place) (found : List Occurrence) :
    endingBefore place? (occurrence :: found) = occurrence :: endingBefore place? found := by
  cases place? with
  | none => rfl
  | some place =>
      unfold endingBefore
      apply List.filter_cons_of_pos
      exact decide_eq_true (early place rfl)

end Occurrence

namespace Round

/-- A round reads an occurrence: it starts at its first token, has its tokens in front of it and
declares what they spell. -/
structure Reads (round : Round) (occurrence : Occurrence) : Prop where
  placed : round.index = occurrence.start
  spelled : occurrence.phrase.tokens <+: round.first :: round.rest
  declares : round.declaration? = some occurrence.phrase.declaration

theorem starts_of_reads {rounds : List Round} {found : List Occurrence}
    (reads : List.Forall₂ Reads rounds found) :
    (found.map fun occurrence => occurrence.start) = rounds.map Round.index := by
  induction reads with
  | nil => rfl
  | cons first others ih => rw [List.map_cons, List.map_cons, first.placed, ih]

/-- Some rounds from an index on read some occurrences, one after another, and under a limit those
of them that end before the place of the last error that is allowed. -/
structure Finds (index : Nat) (tokens : List Token) (rounds : List Round)
    (found : List Occurrence) : Prop where
  picked : Occurrence.Picked index tokens found
  reads : List.Forall₂ Reads (rounds.filter fun round => round.declaration?.isSome) found
  kept : ∀ budget, (within budget rounds).filterMap declaration? =
    (Occurrence.endingBefore (rounds.filterMap errorIndex?)[budget]? found).map
      fun occurrence => occurrence.phrase.declaration

/-- The place of an error is counted from the start of the round that reports it. -/
theorem errorIndex?_of_error {round : Round} {e : ParseError} (failed : round.error? = some e) :
    round.errorIndex? = some (round.index + e.depth) := by
  rw [errorIndex?, failed, Option.map_some]

theorem errorIndex?_of_silent {round : Round} (silent : round.error? = none) :
    round.errorIndex? = none := by
  rw [errorIndex?, silent, Option.map_none]

namespace Finds

variable {index : Nat} {tokens : List Token} {round : Round} {rounds : List Round}
  {found : List Occurrence} {e : ParseError}

theorem nil (index : Nat) : Finds index [] [] [] :=
  ⟨.ended index [], .nil, fun _ => rfl⟩

/-- A round that neither declares nor reports anything changes nothing of what is found. -/
theorem silent (later : Finds index tokens rounds found) {index' : Nat} {tokens' : List Token}
    (picked : Occurrence.Picked index' tokens' found) (unread : round.declaration? = none)
    (unfailed : round.error? = none) : Finds index' tokens' (round :: rounds) found where
  picked := picked
  reads := by
    rw [List.filter_cons_of_neg (by rw [unread]; exact Bool.false_ne_true)]
    exact later.reads
  kept := by
    intro budget
    rw [within_of_silent unfailed, List.filterMap_cons_none unread,
      List.filterMap_cons_none (errorIndex?_of_silent unfailed)]
    exact later.kept budget

/-- A round that reports an error ends what its limit keeps, since everything behind it starts at
the place of the error or later. -/
theorem failed (later : Finds index tokens rounds found) {index' : Nat} {tokens' : List Token}
    (picked : Occurrence.Picked index' tokens' found) (failed : round.error? = some e)
    (passed : round.index + e.depth ≤ index) : Finds index' tokens' (round :: rounds) found where
  picked := picked
  reads := by
    rw [List.filter_cons_of_neg (by rw [declaration?_of_error failed]; exact Bool.false_ne_true)]
    exact later.reads
  kept := by
    intro budget
    rw [List.filterMap_cons_some (errorIndex?_of_error failed)]
    cases budget with
    | zero =>
        rw [within_zero_of_error failed, List.getElem?_cons_zero,
          later.picked.endingBefore_eq_nil passed]
        rfl
    | succ budget =>
        rw [within_succ_of_error failed, List.filterMap_cons_none (declaration?_of_error failed),
          List.getElem?_cons_succ]
        exact later.kept budget

/-- A round that declares adds its occurrence, which a limit keeps if it keeps anything behind it:
no error behind it is at a place before its end. -/
theorem read (occurrence : Occurrence)
    (later : Finds occurrence.finish tokens rounds found) (reads : Reads round occurrence)
    (ends : occurrence.phrase.EndsBefore tokens)
    (behind : ∀ place ∈ rounds.filterMap errorIndex?, occurrence.finish ≤ place) :
    Finds occurrence.start (occurrence.phrase.tokens ++ tokens) (round :: rounds)
      (occurrence :: found) where
  picked := .read occurrence.phrase ends later.picked
  reads := by
    rw [List.filter_cons_of_pos (by rw [reads.declares]; rfl)]
    exact .cons reads later.reads
  kept := by
    intro budget
    have unfailed : round.error? = none := by
      cases failed : round.error? with
      | none => rfl
      | some e => cases reads.declares.symm.trans (declaration?_of_error failed)
    rw [within_of_silent unfailed, List.filterMap_cons_some reads.declares, later.kept budget,
      List.filterMap_cons_none (errorIndex?_of_silent unfailed),
      Occurrence.endingBefore_cons_of_le, List.map_cons]
    intro place isPlace
    exact behind place (List.mem_of_getElem? isPlace)

/-- A limit that is not reached loses nothing. -/
theorem kept_of_few (finds : Finds index tokens rounds found) {budget : Nat}
    (few : (rounds.filterMap errorIndex?).length ≤ budget) :
    (within budget rounds).filterMap declaration? =
      found.map fun occurrence => occurrence.phrase.declaration := by
  rw [finds.kept budget, List.getElem?_eq_none few]
  rfl

end Finds

/-- The rounds of a course find the occurrences that they declare. -/
theorem Course.finds {budget index : Nat} {tokens : List Token} {rounds : List Round}
    (course : Course budget index tokens rounds) : ∃ found, Finds index tokens rounds found := by
  induction course with
  | finished budget index => exact ⟨[], .nil index⟩
  | @passed budget index rune rest rounds isRune later ih =>
      obtain ⟨found, finds⟩ := ih
      exact ⟨found, finds.silent (.passed [rune] finds.picked) rfl rfl⟩
  | @declared budget index phrase rest rounds ends later ih =>
      obtain ⟨found, finds⟩ := ih
      have behind := fun place member => (later.le_errorIndex place member).1
      have reads : Reads ⟨index, phrase.name, phrase.others ++ rest, .declared phrase.declaration⟩
          ⟨index, phrase⟩ := ⟨rfl, List.prefix_append phrase.tokens rest, rfl⟩
      exact ⟨⟨index, phrase⟩ :: found, Finds.read ⟨index, phrase⟩ finds reads ends behind⟩
  | cut other refusal atRune later ih =>
      obtain ⟨found, finds⟩ := ih
      exact ⟨found, finds.silent (picked_of_refusal refusal finds.picked) rfl rfl⟩
  | @reported budget index taken first rest e rounds other refusal notAtRune later ih =>
      obtain ⟨found, finds⟩ := ih
      obtain ⟨skipped, -, passed, reached⟩ := skipped_of_refusal index refusal
      -- The error is at a token that the round took or at the next one, and recovery resumes there
      -- at the earliest.
      have took := refusal.place.2
      refine ⟨found, finds.failed (picked_of_refusal refusal finds.picked) rfl ?_⟩
      change index + e.depth ≤ (resumeAfter index taken rest).1
      omega
  | @stopped index taken first rest e other refusal notAtRune =>
      have nothing : Occurrence.Picked index (first :: rest) [] := .ended index (first :: rest)
      exact ⟨[], (Finds.nil (index + e.depth)).failed nothing rfl (Nat.le_refl _)⟩

end Round

namespace Tree

/-- A recovering parse with the places of what it yields. Each declaration is read by a round of its
own from a phrase among the tokens, and each error has the place where a round found it. -/
structure Placed (tokens : List Token) (rounds : List Round) (found : List Occurrence)
    (places : List Nat) : Prop where
  reads : List.Forall₂ Round.Reads (rounds.filter fun round => round.declaration?.isSome) found
  among : ∀ occurrence ∈ found, occurrence.Among tokens
  places_eq : places = rounds.filterMap Round.errorIndex?
  errors_at : List.Forall₂ (ParseError.At tokens) places (rounds.filterMap Round.error?)

/-- A limit of zero counts as one. -/
theorem parseRecovering_max_one (name : String) (tokens : List Token) (limit : Nat) :
    parseRecovering name tokens (max limit 1) = parseRecovering name tokens limit := by
  have same : max limit 1 - 1 = limit - 1 := by omega
  rw [parseRecovering, parseRecovering, recoveryRounds, recoveryRounds, same]

/-- **A limit of errors cuts a prefix.** Tokens in order yield the same tree and the same errors
under every limit above their number. Of these errors any limit keeps the first ones, as many as it
allows, and zero allows one. If there are that many, it keeps just the declarations whose tokens
come before the place of the last error it allows; if there are fewer, it keeps everything. -/
theorem limit_keeps_before_last_error (name source : String) (tokens : List Token)
    (inOrder : Token.InOrder source tokens) :
    ∃ (rounds : List Round) (found : List Occurrence) (places : List Nat)
      (errors : List ParseError),
      Placed tokens rounds found places ∧
      errors = rounds.filterMap Round.error? ∧
      (∀ ample, tokens.length < ample → recoveryRounds tokens ample = .ok rounds ∧
        parseRecovering name tokens ample =
          .ok (⟨name, found.map fun occurrence => occurrence.phrase.declaration⟩, errors)) ∧
      ∀ limit,
        (∀ place, places[max limit 1 - 1]? = some place →
          parseRecovering name tokens limit =
            .ok (⟨name, (found.filter fun occurrence => occurrence.finish ≤ place).map
              fun occurrence => occurrence.phrase.declaration⟩, errors.take (max limit 1))) ∧
        (errors.length < max limit 1 → parseRecovering name tokens limit =
          .ok (⟨name, found.map fun occurrence => occurrence.phrase.declaration⟩, errors)) := by
  obtain ⟨rounds, course, few, limited⟩ := exists_unlimited_rounds name inOrder
  obtain ⟨found, finds⟩ := course.finds
  have errorsAt := course.errors_at [] rfl
  have counted := errorsAt.length_eq
  refine ⟨rounds, found, _, _, ⟨finds.reads, finds.picked.among [] rfl, rfl, errorsAt⟩, rfl, ?_, ?_⟩
  · intro ample above
    have enough : tokens.length ≤ ample - 1 := Nat.le_sub_one_of_lt above
    refine ⟨Round.run_of_course (course.of_few_errors few enough) inOrder [], ?_⟩
    rw [limited ample (Nat.zero_lt_of_lt above),
      finds.kept_of_few (counted.trans_le (few.trans enough)),
      List.take_of_length_le (few.trans above.le)]
  · intro limit
    have positive : 0 < max limit 1 := Nat.lt_of_lt_of_le Nat.zero_lt_one (Nat.le_max_right limit 1)
    have result := limited (max limit 1) positive
    rw [parseRecovering_max_one] at result
    constructor
    · intro place isPlace
      rw [result, finds.kept, isPlace]
      rfl
    · intro fewer
      have enough := counted.trans_le (Nat.le_sub_one_of_lt fewer)
      rw [result, finds.kept_of_few enough, List.take_of_length_le fewer.le]

/-- The third declaration is behind the second error: a limit of two errors loses it, although there
is no third error. -/
theorem limit_loses_after_second_stray :
    Token.InOrder "main" twoStrays ∧
      ∃ found : List Occurrence, found.map (fun occurrence => occurrence.start) = [2, 7, 10] ∧
        parseRecovering "main" twoStrays 13 =
          .ok (⟨"main", found.map fun occurrence => occurrence.phrase.declaration⟩,
            [.unexpectedToken (.single .number "1" 12) .declaration,
              .unexpectedToken (.single .number "7" 18) .declaration]) ∧
        parseRecovering "main" twoStrays 2 =
          .ok (⟨"main", (found.filter fun occurrence => occurrence.finish ≤ 9).map
              fun occurrence => occurrence.phrase.declaration⟩,
            [.unexpectedToken (.single .number "1" 12) .declaration,
              .unexpectedToken (.single .number "7" 18) .declaration]) := by
  have inOrder : Token.InOrder "main" twoStrays := ⟨by decide, by decide, by decide⟩
  obtain ⟨rounds, found, places, errors, placed, rfl, ample, limited⟩ :=
    limit_keeps_before_last_error "main" "main" twoStrays inOrder
  obtain ⟨ran, unlimited⟩ := ample 13 (by decide)
  have ended : (recoveryRounds twoStrays 13).map (fun rounds =>
      (rounds.filterMap Round.errorIndex?, rounds.filterMap Round.error?,
        (rounds.filter fun round => round.declaration?.isSome).map Round.index)) =
      .ok ([6, 9], [.unexpectedToken (.single .number "1" 12) .declaration,
        .unexpectedToken (.single .number "7" 18) .declaration], [2, 7, 10]) := by
    decide +kernel
  rw [ran] at ended
  obtain ⟨atPlaces, reported, starts⟩ := by simpa only [Prod.mk.injEq] using Except.ok.inj ended
  have atSecond := (limited 2).1 9 (by rw [placed.places_eq, atPlaces]; rfl)
  rw [reported] at atSecond unlimited
  exact ⟨inOrder, found, (Round.starts_of_reads placed.reads).trans starts, unlimited, atSecond⟩

end Tree

end DeclLang
