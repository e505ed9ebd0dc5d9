import DeclLang.Proofs.Syntax.Rounds

/-!
# What recovery declares

A recovering parse declares phrases that stand in its tokens as they are: each at a place of its
own, without a token left out, and ending where the grammar ends it. A round that fails leaves
nothing of what it took to a later round. So the declarations are those of a strict parse of the
same tokens without the ones that recovery passes over.
-/

namespace DeclLang

/-- A phrase with the index of its first token among others. -/
structure Occurrence where
  start : Nat
  phrase : Phrase

namespace Occurrence

/-- The index after the last token of an occurrence. -/
def finish (occurrence : Occurrence) : Nat :=
  occurrence.start + occurrence.phrase.tokens.length

/-- The tokens of the phrase stand at its index among some tokens, and the phrase ends with them. -/
def Among (tokens : List Token) (occurrence : Occurrence) : Prop :=
  ∃ before after, tokens = before ++ occurrence.phrase.tokens ++ after ∧
    before.length = occurrence.start ∧ occurrence.phrase.EndsBefore after

/-- Phrases that are read one after another from an index on, with tokens passed over before,
between and after them. -/
inductive Picked : Nat → List Token → List Occurrence → Prop
  | ended (index : Nat) (tokens : List Token) : Picked index tokens []
  | passed {index : Nat} (skipped : List Token) {rest : List Token} {found : List Occurrence}
      (later : Picked (index + skipped.length) rest found) : Picked index (skipped ++ rest) found
  | read {index : Nat} (phrase : Phrase) {rest : List Token} {found : List Occurrence}
      (ends : phrase.EndsBefore rest) (later : Picked (index + phrase.tokens.length) rest found) :
      Picked index (phrase.tokens ++ rest) (⟨index, phrase⟩ :: found)

namespace Picked

variable {index : Nat} {tokens : List Token} {found : List Occurrence}

/-- What is picked from an index on starts there or later. -/
theorem le_start (picked : Picked index tokens found) :
    ∀ occurrence ∈ found, index ≤ occurrence.start := by
  induction picked with
  | ended index tokens => simp
  | passed skipped later ih =>
      intro occurrence member
      exact (Nat.le_add_right _ _).trans (ih occurrence member)
  | read phrase ends later ih =>
      refine List.forall_mem_cons.mpr ⟨Nat.le_refl _, fun occurrence member => ?_⟩
      exact (Nat.le_add_right _ _).trans (ih occurrence member)

/-- No two of the phrases share a token. -/
theorem apart (picked : Picked index tokens found) :
    found.Pairwise fun earlier later => earlier.finish ≤ later.start := by
  induction picked with
  | ended index tokens => exact .nil
  | passed skipped later ih => exact ih
  | read phrase ends later ih => exact .cons later.le_start ih

/-- What is picked stands among the tokens, at the index that it is picked at. -/
theorem among (picked : Picked index tokens found) (before : List Token)
    (placed : before.length = index) :
    ∀ occurrence ∈ found, occurrence.Among (before ++ tokens) := by
  induction picked generalizing before with
  | ended index tokens => simp
  | passed skipped later ih =>
      rw [← List.append_assoc]
      exact ih (before ++ skipped) (by rw [List.length_append, placed])
  | @read index phrase rest found ends later ih =>
      rw [← List.append_assoc]
      refine List.forall_mem_cons.mpr ⟨⟨before, rest, rfl, placed, ends⟩, ?_⟩
      exact ih (before ++ phrase.tokens) (by rw [List.length_append, placed])

/-- The picked phrases are what is left of the tokens when those passed over are dropped. -/
theorem sublist (picked : Picked index tokens found) :
    (found.flatMap fun occurrence => occurrence.phrase.tokens).Sublist tokens := by
  induction picked with
  | ended index tokens => exact List.nil_sublist tokens
  | passed skipped later ih => exact ih.trans (List.sublist_append_right _ _)
  | read phrase ends later ih => exact (List.Sublist.refl phrase.tokens).append ih

end Picked

end Occurrence

namespace Round

/-- Resuming counts the tokens that it passes over. -/
theorem fst_resume_add_length (index : Nat) (tokens : List Token) :
    (resume index tokens).1 + (resume index tokens).2.length = index + tokens.length := by
  fun_induction resume index tokens with
  | case1 index => rfl
  | case2 index first rest starts => rfl
  | case3 index first rest starts ih =>
      rw [ih, List.length_cons]
      omega

/-- A reading takes no more tokens than there are. -/
theorem taken_le_of_refusal {first : Token} {rest : List Token} {e : ParseError} {taken : Nat}
    (refusal : Reading.Refusal (first :: rest) e taken) : taken - 1 ≤ rest.length := by
  cases refusal <;> simp

/-- A round that fails skips the tokens that it took, and the next one starts after what it skips.
-/
theorem skipped_of_refusal (index : Nat) {taken : Nat} {first : Token} {rest : List Token}
    {e : ParseError} (refusal : Reading.Refusal (first :: rest) e taken) :
    ∃ skipped, rest = skipped ++ (resumeAfter index taken rest).2 ∧ taken - 1 ≤ skipped.length ∧
      (resumeAfter index taken rest).1 = index + 1 + skipped.length := by
  obtain ⟨skipped, split⟩ := exists_append_resumeAfter index taken rest
  have few := taken_le_of_refusal refusal
  have counted := fst_resume_add_length (index + 1 + (taken - 1)) (rest.drop (taken - 1))
  have fewer := length_resume_le (index + 1 + (taken - 1)) (rest.drop (taken - 1))
  have whole := congrArg List.length split
  rw [List.length_drop] at counted fewer
  rw [List.length_append, resumeAfter] at whole
  refine ⟨skipped, split, ?_, ?_⟩
  · omega
  · rw [resumeAfter]
    omega

/-- Tokens before a round that fails and those that it passes over are the tokens before the next
one. -/
theorem passed_of_refusal {index taken : Nat} {first : Token} {rest : List Token} {e : ParseError}
    (refusal : Reading.Refusal (first :: rest) e taken) {before : List Token}
    (placed : before.length = index) :
    ∃ passed, before ++ first :: rest = passed ++ (resumeAfter index taken rest).2 ∧
      passed.length = (resumeAfter index taken rest).1 := by
  obtain ⟨skipped, split, -, reached⟩ := skipped_of_refusal index refusal
  refine ⟨before ++ first :: skipped, ?_, ?_⟩
  · rw [List.append_assoc, List.cons_append, ← split]
  · rw [List.length_append, placed, reached, List.length_cons]
    omega

/-- A round that fails passes over its first token and those before the index where the next one
starts. -/
theorem picked_of_refusal {index taken : Nat} {first : Token} {rest : List Token} {e : ParseError}
    {found : List Occurrence} (refusal : Reading.Refusal (first :: rest) e taken)
    (later : Occurrence.Picked (resumeAfter index taken rest).1 (resumeAfter index taken rest).2
      found) : Occurrence.Picked index (first :: rest) found := by
  obtain ⟨skipped, split, -, reached⟩ := skipped_of_refusal index refusal
  have count : index + 1 + skipped.length = index + (first :: skipped).length := by
    rw [List.length_cons]
    omega
  rw [reached, count] at later
  rw [split]
  exact .passed (first :: skipped) later

/-- The declarations of a course are those of phrases picked from its tokens. -/
theorem Course.picked {budget index : Nat} {tokens : List Token} {rounds : List Round}
    (course : Course budget index tokens rounds) :
    ∃ found, Occurrence.Picked index tokens found ∧
      rounds.filterMap declaration? =
        found.map fun occurrence => occurrence.phrase.declaration := by
  induction course with
  | finished budget index => exact ⟨[], .ended index [], rfl⟩
  | @passed budget index rune rest rounds isRune later ih =>
      obtain ⟨found, picked, declared⟩ := ih
      exact ⟨found, .passed [rune] picked, declared⟩
  | declared phrase ends later ih =>
      obtain ⟨found, picked, declared⟩ := ih
      exact ⟨_, .read phrase ends picked, congrArg (phrase.declaration :: ·) declared⟩
  | cut other refusal atRune later ih =>
      obtain ⟨found, picked, declared⟩ := ih
      exact ⟨found, picked_of_refusal refusal picked, declared⟩
  | reported other refusal notAtRune later ih =>
      obtain ⟨found, picked, declared⟩ := ih
      exact ⟨found, picked_of_refusal refusal picked, declared⟩
  | @stopped index taken first rest e other refusal notAtRune =>
      exact ⟨[], .ended index (first :: rest), rfl⟩

end Round

namespace Tree

/-- **Recovery is sound.** The declarations of a recovering parse of tokens in order are, one by one
and in order, those of phrases that stand in the tokens, each whole and ended there, and no two of
them with a token in common. A strict parse of the tokens of just these phrases comes to the same
tree. -/
theorem recovery_declares_occurrences (name source : String) (tokens : List Token) (limit : Nat)
    (inOrder : Token.InOrder source tokens) :
    ∃ (found : List Occurrence) (tree : Tree) (errors : List ParseError),
      parseRecovering name tokens limit = .ok (tree, errors) ∧
      tree = ⟨name, found.map fun occurrence => occurrence.phrase.declaration⟩ ∧
      (∀ occurrence ∈ found, occurrence.Among tokens) ∧
      (found.Pairwise fun earlier later => earlier.finish ≤ later.start) ∧
      parse name (found.flatMap fun occurrence => occurrence.phrase.tokens) = .ok (.ok tree) := by
  obtain ⟨rounds, course⟩ := Round.exists_course (limit - 1) 0 tokens
  obtain ⟨found, picked, declared⟩ := course.picked
  have recovered := parseRecovering_of_course name course inOrder
  rw [declared] at recovered
  refine ⟨found, _, _, recovered, rfl, picked.among [] rfl, picked.apart, ?_⟩
  have whole := course_flatMap (found.map Occurrence.phrase)
  rw [List.flatMap_map] at whole
  rw [parse_of_course name whole (inOrder.sublist picked.sublist), Course.result, List.map_map]
  rfl

/-- The tokens of `x @ y T = 2 1 z T 7 u T`. -/
def twoStrays : List Token :=
  [.single .identifier "x" 0, .single .rune "@" 2, .single .identifier "y" 4,
   .single .identifier "T" 6, .single .operator "=" 8, .single .number "2" 10,
   .single .number "1" 12, .single .identifier "z" 14, .single .identifier "T" 16,
   .single .number "7" 18, .single .identifier "u" 20, .single .identifier "T" 22]

/-- With a limit of two errors, `y` and `z` are declared. -/
theorem parseRecovering_twoStrays :
    Token.InOrder "main" twoStrays ∧
      ∃ (found : List Occurrence) (tree : Tree),
        parseRecovering "main" twoStrays 2 =
          .ok (tree, [.unexpectedToken (.single .number "1" 12) .declaration,
            .unexpectedToken (.single .number "7" 18) .declaration]) ∧
        tree = ⟨"main", found.map fun occurrence => occurrence.phrase.declaration⟩ ∧
        found.length = 2 ∧
        (∀ occurrence ∈ found, occurrence.Among twoStrays) ∧
        (found.Pairwise fun earlier later => earlier.finish ≤ later.start) ∧
        parse "main" (found.flatMap fun occurrence => occurrence.phrase.tokens) =
          .ok (.ok tree) := by
  have inOrder : Token.InOrder "main" twoStrays := ⟨by decide, by decide, by decide⟩
  obtain ⟨found, tree, errors, recovered, rfl, among, apart, reparsed⟩ :=
    recovery_declares_occurrences "main" "main" twoStrays 2 inOrder
  have counted : (parseRecovering "main" twoStrays 2).map
      (fun result => (result.1.declarations.length, result.2)) =
        .ok (2, [.unexpectedToken (.single .number "1" 12) .declaration,
          .unexpectedToken (.single .number "7" 18) .declaration]) := by
    decide +kernel
  rw [recovered] at counted
  obtain ⟨two, rfl⟩ := Prod.mk.inj (Except.ok.inj counted)
  rw [List.length_map] at two
  exact ⟨inOrder, found, _, recovered, rfl, two, among, apart, reparsed⟩

end Tree

end DeclLang
