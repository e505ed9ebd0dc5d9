import DeclLang.FrontEnd.Run
import DeclLang.Proofs.Scan.Course
import DeclLang.Proofs.Syntax.Occurrence
import DeclLang.Proofs.Syntax.Rounds

/-!
# What a run comes to, and where its outcome comes from

A run that recovers ends like a strict one when nothing is wrong, and otherwise starts its errors
with the one at which the strict run fails. The two scans of a text share a course, and so do, up to
the first error, the two parses of its tokens; an unscanned piece stops the strict run before it
parses, so the tokens that both parse hold no rune.

Whatever its configuration, a run never faults, and its outcome is made of what a recovering scan of
the text yields: the unit is that of the scan, the declarations are those of phrases picked from its
tokens, and each error is one of the scan or refuses tokens at the end of the unit. A strict run
need not be looked at on its own, since it agrees with the recovering one.
-/

namespace DeclLang

namespace FrontEnd

/-- Runs agree when both are complete with the same unit and tree, or when one fails at the first
error of the other. -/
inductive Agreement : Except Fault Outcome → Except Fault Outcome → Prop
  | complete (unit : SourceUnit) (tree : Tree) :
      Agreement (.ok (.complete unit tree)) (.ok (.complete unit tree))
  | failed (e : SourceError) (unit : SourceUnit) (tree : Tree) (others : List SourceError) :
      Agreement (.ok (.failed e)) (.ok (.incomplete unit tree (e :: others)))

/-- The first error of the scan counts under every limit. -/
private theorem countedErrors_cons {limit : Nat} (positive : 0 < limit) (e : ScanError)
    (es : List ScanError) :
    countedErrors limit (e :: es) = .scan e :: countedErrors (limit - 1) es := by
  obtain ⟨others, rfl⟩ := Nat.exists_eq_succ_of_ne_zero positive.ne'
  rfl

variable {name text : String}

/-- A text with a scan error fails the strict run, and any other run reports this error first. -/
private theorem agreement_of_scanError {limit : Nat} (positive : 0 < limit) {unit : SourceUnit}
    {e : ScanError} {es : List ScanError} (inOrder : Token.InOrder name unit.tokens)
    (strict : SourceUnit.scan name text = .error e)
    (recovering : SourceUnit.scanRecovering name text = (unit, e :: es)) :
    Agreement (runStrict name text) (runRecovering limit name text) := by
  have failed : runStrict name text = .ok (.failed (.scan e)) := by
    rw [runStrict, strict]
  rw [failed, runRecovering, recovering]
  simp only [countedErrors_cons positive]
  split
  · obtain ⟨rounds, course⟩ := Round.exists_course
      (limit - (SourceError.scan e :: countedErrors (limit - 1) es).length - 1) 0 unit.tokens
    rw [Tree.parseRecovering_of_course name course inOrder]
    exact .failed _ _ _ _
  · exact .failed _ _ _ _

/-- A text without a scan error is parsed by both runs, which agree on its tokens. -/
private theorem agreement_of_scan {limit : Nat} (positive : 0 < limit) {unit : SourceUnit}
    (inOrder : Token.InOrder name unit.tokens) (runeless : ∀ t ∈ unit.tokens, t.kind ≠ .rune)
    (strict : SourceUnit.scan name text = .ok unit)
    (recovering : SourceUnit.scanRecovering name text = (unit, [])) :
    Agreement (runStrict name text) (runRecovering limit name text) := by
  obtain ⟨phrases, stop, course⟩ := Tree.exists_course unit.tokens
  obtain ⟨rounds, roundCourse⟩ := Round.exists_course (limit - 0 - 1) 0 unit.tokens
  rw [runStrict, strict, runRecovering, recovering]
  simp only [countedErrors, List.take_nil, List.map_nil, List.length_nil, if_pos positive,
    Tree.parse_of_course name course inOrder,
    Tree.parseRecovering_of_course name roundCourse inOrder, List.nil_append]
  cases stop with
  | none =>
      obtain ⟨declared, clean⟩ := roundCourse.declared_of_finished course
      simp only [declared, clean]
      exact .complete _ _
  | some e =>
      have notAtRune := Round.runeOf?_eq_none_of_course course runeless e rfl
      obtain ⟨-, others, reported⟩ := roundCourse.reported_of_stopped course notAtRune
      simp only [reported]
      exact .failed _ _ _ _

/-- Both runs of a text agree, whatever the limit. -/
theorem agreement_run (limit : Nat) (positive : 0 < limit) (name text : String) :
    Agreement (runStrict name text) (runRecovering limit name text) := by
  obtain ⟨steps, finish, course, recovering, strict⟩ := SourceUnit.scan_eq_of_course name text
  cases errors : steps.filterMap ScanStep.error? with
  | nil =>
      rw [errors] at recovering strict
      exact agreement_of_scan positive course.inOrder.1 (course.kind_ne_rune errors) strict
        recovering
  | cons e es =>
      rw [errors] at recovering strict
      exact agreement_of_scanError positive course.inOrder.1 strict recovering

/-- **Recovery refines the strict run.** For every text and all limits, a run without recovery is
complete exactly when a run with recovery is, with the same unit and tree, and it fails at an error
exactly when the other is incomplete with this error as its first. A run with recovery never fails,
and neither run faults. -/
theorem run_recovering_refines_strict (name text : String) (limit limit' : Nat)
    (timings timings' : Bool) :
    (∀ unit tree,
      run (.ofOptions false limit timings) name text = .ok (.complete unit tree) ↔
        run (.ofOptions true limit' timings') name text = .ok (.complete unit tree)) ∧
    (∀ e, run (.ofOptions false limit timings) name text = .ok (.failed e) ↔
      ∃ unit tree errors,
        run (.ofOptions true limit' timings') name text = .ok (.incomplete unit tree errors) ∧
          errors[0]? = some e) ∧
    (∀ e, run (.ofOptions true limit' timings') name text ≠ .ok (.failed e)) ∧
    (∃ outcome, run (.ofOptions false limit timings) name text = .ok outcome) ∧
    ∃ outcome, run (.ofOptions true limit' timings') name text = .ok outcome := by
  have agreement : Agreement (run (.ofOptions false limit timings) name text)
      (run (.ofOptions true limit' timings') name text) :=
    agreement_run (max limit' 1) (Nat.le_max_right limit' 1) name text
  generalize run (.ofOptions false limit timings) name text = strict at agreement ⊢
  generalize run (.ofOptions true limit' timings') name text = recovering at agreement ⊢
  cases agreement with
  | complete unit tree =>
      refine ⟨fun _ _ => Iff.rfl, fun e => ?_, fun e => ?_, ⟨_, rfl⟩, ⟨_, rfl⟩⟩
      · simp only [Except.ok.injEq, reduceCtorEq, false_and, exists_false]
      · simp only [ne_eq, Except.ok.injEq, reduceCtorEq, not_false_eq_true]
  | failed first unit tree others =>
      refine ⟨fun _ _ => ?_, fun e => ⟨?_, ?_⟩, fun e => ?_, ⟨_, rfl⟩, ⟨_, rfl⟩⟩
      · simp only [Except.ok.injEq, reduceCtorEq]
      · rintro ⟨⟩
        exact ⟨unit, tree, _, rfl, rfl⟩
      · rintro ⟨_, _, _, ⟨⟩, ⟨⟩⟩
        rfl
      · simp only [ne_eq, Except.ok.injEq, reduceCtorEq, not_false_eq_true]

end FrontEnd

namespace Round

/-- Every error of a course refuses the tokens from some place on. -/
theorem Course.refused {budget index : Nat} {tokens : List Token} {rounds : List Round}
    (course : Course budget index tokens rounds) :
    ∀ e ∈ rounds.filterMap error?,
      ∃ rest taken, rest <:+ tokens ∧ Reading.Refusal rest e taken := by
  induction course with
  | finished budget index => simp
  | @passed budget index rune rest rounds isRune later ih =>
      intro e member
      obtain ⟨tail, taken, within, refusal⟩ := ih e member
      exact ⟨tail, taken, within.trans (List.suffix_cons rune rest), refusal⟩
  | @declared budget index phrase rest rounds ends later ih =>
      intro e member
      obtain ⟨tail, taken, within, refusal⟩ := ih e member
      exact ⟨tail, taken, within.trans (List.suffix_append phrase.tokens rest), refusal⟩
  | @cut budget index taken first rune rest e rounds other refusal atRune later ih =>
      intro e member
      obtain ⟨tail, taken', within, refusal'⟩ := ih e member
      exact ⟨tail, taken', within.trans (resumeAfter_suffix index taken first rest), refusal'⟩
  | @reported budget index taken first rest e rounds other refusal notAtRune later ih =>
      intro e' member
      rcases List.mem_cons.mp member with rfl | member
      · exact ⟨_, taken, List.suffix_rfl, refusal⟩
      · obtain ⟨tail, taken', within, refusal'⟩ := ih e' member
        exact ⟨tail, taken', within.trans (resumeAfter_suffix index taken first rest), refusal'⟩
  | @stopped index taken first rest e other refusal notAtRune =>
      intro e' member
      obtain rfl := List.mem_singleton.mp member
      exact ⟨_, taken, List.suffix_rfl, refusal⟩

end Round

namespace Outcome

/-- An outcome made of what a recovering scan of a text yields. -/
structure Origin (name text : String) (outcome : Outcome) : Prop where
  value : ∀ unit tree, outcome.value? = some (unit, tree) →
    unit = (SourceUnit.scanRecovering name text).1 ∧ tree.source = name ∧
      ∃ found, Occurrence.Picked 0 unit.tokens found ∧
        tree.declarations = found.map fun occurrence => occurrence.phrase.declaration
  errors : ∀ e ∈ outcome.errors,
    (∃ scanError ∈ (SourceUnit.scanRecovering name text).2, e = .scan scanError) ∨
      ∃ rest parseError taken, rest <:+ (SourceUnit.scanRecovering name text).1.tokens ∧
        Reading.Refusal rest parseError taken ∧ e = .parse parseError

end Outcome

namespace FrontEnd

/-- A run with recovery always has a unit and a tree. -/
@[simp]
theorem value?_conclude (unit : SourceUnit) (tree : Tree) (errors : List SourceError) :
    (conclude unit tree errors).value? = some (unit, tree) := by
  rw [conclude]
  split <;> rfl

@[simp]
theorem errors_conclude (unit : SourceUnit) (tree : Tree) (errors : List SourceError) :
    (conclude unit tree errors).errors = errors := by
  rw [conclude]
  split
  next empty => exact (List.isEmpty_iff.mp empty).symm
  next => rfl

variable {name text : String}

theorem mem_of_mem_countedErrors {limit : Nat} {scanErrors : List ScanError} {e : SourceError}
    (member : e ∈ countedErrors limit scanErrors) :
    ∃ scanError ∈ scanErrors, e = .scan scanError := by
  obtain ⟨scanError, counted, rfl⟩ := List.mem_map.mp member
  exact ⟨scanError, List.mem_of_mem_take counted, rfl⟩

/-- A run with recovery never faults, and its outcome is made of the scan. -/
theorem exists_outcome_recovering (limit : Nat) (name text : String) :
    ∃ outcome, runRecovering limit name text = .ok outcome ∧ outcome.Origin name text := by
  obtain ⟨steps, finish, course, recovered, -⟩ := SourceUnit.scan_eq_of_course name text
  rw [runRecovering, recovered]
  simp only
  split
  · -- Some of the limit is left, so the tokens are parsed.
    obtain ⟨rounds, roundCourse⟩ := Round.exists_course
      (limit - (countedErrors limit (steps.filterMap ScanStep.error?)).length - 1) 0
      (steps.map ScanStep.emitted)
    obtain ⟨found, picked, declared⟩ := roundCourse.picked
    rw [Tree.parseRecovering_of_course name roundCourse course.inOrder.1]
    refine ⟨_, rfl, ?_⟩
    constructor
    case value =>
      intro unit tree present
      rw [value?_conclude] at present
      obtain ⟨rfl, rfl⟩ := Prod.mk.inj (Option.some.inj present)
      rw [recovered]
      exact ⟨rfl, rfl, found, picked, declared⟩
    case errors =>
      intro e member
      rw [errors_conclude, List.mem_append] at member
      rw [recovered]
      rcases member with counted | reported
      · exact Or.inl (mem_of_mem_countedErrors counted)
      · obtain ⟨parseError, member, rfl⟩ := List.mem_map.mp reported
        obtain ⟨rest, taken, within, refusal⟩ := roundCourse.refused parseError member
        exact Or.inr ⟨rest, parseError, taken, within, refusal, rfl⟩
  · refine ⟨_, rfl, ?_⟩
    constructor
    case value =>
      intro unit tree present
      rw [value?_conclude] at present
      obtain ⟨rfl, rfl⟩ := Prod.mk.inj (Option.some.inj present)
      rw [recovered]
      exact ⟨rfl, rfl, [], .ended 0 _, rfl⟩
    case errors =>
      intro e member
      rw [errors_conclude] at member
      rw [recovered]
      exact Or.inl (mem_of_mem_countedErrors member)

/-- Every run has an outcome, which comes from the scan of its text. -/
theorem exists_outcome (config : Config) (name text : String) :
    ∃ outcome, run config name text = .ok outcome ∧ outcome.Origin name text := by
  obtain ⟨outcome, recovered, origin⟩ := exists_outcome_recovering config.errorLimit name text
  rw [run]
  split
  · exact ⟨outcome, recovered, origin⟩
  · have agreement := agreement_run config.errorLimit config.errorLimit_pos name text
    rw [recovered] at agreement
    generalize runStrict name text = strict at agreement ⊢
    cases agreement with
    | complete unit tree => exact ⟨_, rfl, origin⟩
    | failed e unit tree others =>
        refine ⟨_, rfl, ?_, ?_⟩
        · rintro unit tree ⟨⟩
        · intro e' member
          obtain rfl := List.mem_singleton.mp member
          exact origin.errors e' List.mem_cons_self

end FrontEnd

end DeclLang
