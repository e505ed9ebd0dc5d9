import DeclLang.Proofs.FrontEnd.Origin
import DeclLang.Proofs.Syntax.ErrorLimit

/-!
# One limit for both phases

The errors of the scan count against a limit first, and the parse gets what is left of it. Together
the two cuts come to a single one: the errors of a run are the first ones of all that there are,
those of the scan and then those of a parse without a limit. A greater limit only adds errors and
declarations at the end.
-/

namespace DeclLang

/-- How a run ends under a limit on a unit, whose scan has some errors and whose parse without a
limit has some more. -/
structure Outcome.Limited (unit : SourceUnit) (scanErrors : List ScanError)
    (parseErrors : List ParseError) (limit : Nat) (outcome : Outcome) (tree : Tree) : Prop where
  ended : outcome = FrontEnd.conclude unit tree
    ((scanErrors.map SourceError.scan ++ parseErrors.map SourceError.parse).take limit)
  unparsed : limit ≤ scanErrors.length → tree = ⟨unit.name, []⟩
  parsed : scanErrors.length < limit →
    ∃ errors, Tree.parseRecovering unit.name unit.tokens (limit - scanErrors.length) =
      .ok (tree, errors)

namespace FrontEnd

variable {limit limit' counted : Nat} {rounds : List Round}

/-- The declarations that are kept of all rounds of a parse when some errors are counted already. -/
def keptDeclarations (rounds : List Round) (counted limit : Nat) : List Declaration :=
  if limit ≤ counted then []
  else (Round.within (limit - counted - 1) rounds).filterMap Round.declaration?

/-- A greater limit keeps more declarations. -/
theorem keptDeclarations_prefix (rounds : List Round) (counted : Nat) (more : limit ≤ limit') :
    keptDeclarations rounds counted limit <+: keptDeclarations rounds counted limit' := by
  unfold keptDeclarations
  by_cases spent : limit ≤ counted
  · rw [if_pos spent]
    exact List.nil_prefix
  · have left : ¬ limit' ≤ counted := by omega
    rw [if_neg spent, if_neg left,
      ← Round.within_within (by omega : limit - counted - 1 ≤ limit' - counted - 1)]
    exact Round.declarations_within _ _

theorem length_countedErrors (limit : Nat) (scanErrors : List ScanError) :
    (countedErrors limit scanErrors).length = min limit scanErrors.length := by
  rw [countedErrors, List.length_map, List.length_take]

/-- The errors that both phases report are the first of all. -/
theorem countedErrors_append (limit : Nat) (scanErrors : List ScanError)
    (parseErrors : List ParseError) :
    countedErrors limit scanErrors ++
        (parseErrors.take (limit - scanErrors.length)).map SourceError.parse =
      (scanErrors.map SourceError.scan ++ parseErrors.map SourceError.parse).take limit := by
  rw [List.take_append, countedErrors, List.map_take, List.map_take, List.length_map]

variable {name text : String}

/-- A text has all its rounds, which every limit cuts short. -/
theorem exists_limited_rounds (name text : String) :
    ∃ rounds,
      Round.Course (SourceUnit.scanRecovering name text).1.tokens.length 0
        (SourceUnit.scanRecovering name text).1.tokens rounds ∧
      (∀ ample, (SourceUnit.scanRecovering name text).1.tokens.length < ample →
        ∃ tree, Tree.parseRecovering name (SourceUnit.scanRecovering name text).1.tokens ample =
          .ok (tree, rounds.filterMap Round.error?)) ∧
      ∀ limit, 0 < limit → ∃ outcome, runRecovering limit name text = .ok outcome ∧
        outcome.Limited (SourceUnit.scanRecovering name text).1
          (SourceUnit.scanRecovering name text).2 (rounds.filterMap Round.error?) limit
          ⟨name, keptDeclarations rounds (SourceUnit.scanRecovering name text).2.length limit⟩ := by
  have inOrder := SourceUnit.inOrder_of_scanRecovering name text
  have named : (SourceUnit.scanRecovering name text).1.name = name := rfl
  rcases scanned : SourceUnit.scanRecovering name text with ⟨unit, scanErrors⟩
  rw [scanned] at inOrder named
  obtain ⟨rounds, course, few, parsed⟩ := Tree.exists_unlimited_rounds name inOrder
  refine ⟨rounds, course, fun ample more => ?_, fun limit positive => ?_⟩
  · have allowed : (rounds.filterMap Round.error?).length ≤ ample := few.trans more.le
    have unlimited := parsed ample (Nat.zero_lt_of_lt more)
    rw [List.take_of_length_le allowed] at unlimited
    exact ⟨_, unlimited⟩
  · have joined := countedErrors_append limit scanErrors (rounds.filterMap Round.error?)
    rw [runRecovering, scanned]
    simp only [length_countedErrors]
    -- Errors of the scan that use up the limit leave the parser out of the run.
    by_cases spent : limit ≤ scanErrors.length
    · have nothingLeft : limit - scanErrors.length = 0 := Nat.sub_eq_zero_of_le spent
      rw [nothingLeft, List.take_zero, List.map_nil, List.append_nil] at joined
      rw [min_eq_left spent, if_neg (Nat.lt_irrefl limit)]
      refine ⟨_, rfl, ?_⟩
      constructor
      case ended => rw [← joined, keptDeclarations, if_pos spent]
      case unparsed =>
        intro _
        rw [keptDeclarations, if_pos spent, named]
      case parsed =>
        intro left
        exact absurd spent (Nat.not_le.mpr left)
    · have left : scanErrors.length < limit := Nat.lt_of_not_le spent
      have onTree := parsed (limit - scanErrors.length) (Nat.sub_pos_of_lt left)
      rw [min_eq_right left.le, if_pos left, onTree]
      refine ⟨_, rfl, ?_⟩
      constructor
      case ended => rw [← joined, keptDeclarations, if_neg spent]
      case unparsed =>
        intro spent'
        exact absurd spent' spent
      case parsed =>
        intro _
        rw [keptDeclarations, if_neg spent, named]
        exact ⟨_, onTree⟩

/-- **One limit for both phases.** The errors of a run that recovers are the first ones, up to its
limit, of those of the scan and then those of a parse without a limit. Its tree is empty when the
scan has used up the limit, and that of a parse under what is left otherwise; its unit is that of
the scan. So the errors and the declarations under a limit are the first ones of those under a
greater limit. -/
theorem run_shares_limit (name text : String) :
    ∃ parseErrors : List ParseError,
      (∀ ample, (SourceUnit.scanRecovering name text).1.tokens.length < ample →
        ∃ tree, Tree.parseRecovering name (SourceUnit.scanRecovering name text).1.tokens ample =
          .ok (tree, parseErrors)) ∧
      ∀ config : Config, config.recover = true →
        ∃ outcome tree, run config name text = .ok outcome ∧
          outcome.Limited (SourceUnit.scanRecovering name text).1
            (SourceUnit.scanRecovering name text).2 parseErrors config.errorLimit tree ∧
          ∀ config' : Config, config'.recover = true → config.errorLimit ≤ config'.errorLimit →
            ∃ outcome' tree', run config' name text = .ok outcome' ∧
              outcome'.value? = some ((SourceUnit.scanRecovering name text).1, tree') ∧
              outcome.errors <+: outcome'.errors ∧
              tree.declarations <+: tree'.declarations := by
  obtain ⟨rounds, -, unlimited, limited⟩ := exists_limited_rounds name text
  refine ⟨rounds.filterMap Round.error?, unlimited, fun config recovers => ?_⟩
  obtain ⟨outcome, ended, isLimited⟩ := limited config.errorLimit config.errorLimit_pos
  refine ⟨outcome, _, ?_, isLimited, fun config' recovers' more => ?_⟩
  · rw [run, if_pos recovers, ended]
  · obtain ⟨outcome', ended', isLimited'⟩ := limited config'.errorLimit config'.errorLimit_pos
    have present := congrArg Outcome.value? isLimited'.ended
    rw [value?_conclude] at present
    refine ⟨outcome', _, ?_, present, ?_, keptDeclarations_prefix rounds _ more⟩
    · rw [run, if_pos recovers', ended']
    · rw [isLimited.ended, isLimited'.ended, errors_conclude, errors_conclude]
      exact List.take_prefix_take_left more

/-- Under a limit of one, `@` uses the limit up; under a limit of two the parse reports `1` as well.
-/
theorem run_shares_limit_of_two :
    ∃ outcome outcome', run (.ofOptions true 1 false) "main" "y 1 @\nz T" = .ok outcome ∧
      run (.ofOptions true 2 false) "main" "y 1 @\nz T" = .ok outcome' ∧
      outcome.errors.length = 1 ∧ outcome'.errors.length = 2 ∧
      outcome.errors <+: outcome'.errors := by
  obtain ⟨parseErrors, -, limited⟩ := run_shares_limit "main" "y 1 @\nz T"
  obtain ⟨outcome, tree, ended, -, extended⟩ := limited (.ofOptions true 1 false) rfl
  obtain ⟨outcome', tree', ended', -, within, -⟩ :=
    extended (.ofOptions true 2 false) rfl (by decide)
  have counted : (run (.ofOptions true 1 false) "main" "y 1 @\nz T").map
      (fun outcome => outcome.errors.length) = .ok 1 := by
    decide +kernel
  have counted' : (run (.ofOptions true 2 false) "main" "y 1 @\nz T").map
      (fun outcome => outcome.errors.length) = .ok 2 := by
    decide +kernel
  rw [ended] at counted
  rw [ended'] at counted'
  exact ⟨outcome, outcome', ended, ended', Except.ok.inj counted, Except.ok.inj counted', within⟩

end FrontEnd

end DeclLang
