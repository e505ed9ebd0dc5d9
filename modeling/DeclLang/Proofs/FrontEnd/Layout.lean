import DeclLang.Proofs.FrontEnd.ErrorLimit
import DeclLang.Proofs.Scan.Runes
import DeclLang.Proofs.Syntax.Layout

/-!
# Layout does not matter

Texts with the same tokens up to places have the same scan errors up to places, since these are read
off the runes, and their tokens parse to the same. So whatever white space stands between the
tokens, a run of either text ends in the same way, with the same declarations and the same errors.
-/

namespace DeclLang

namespace ScanError

/-- A scan error without its place. -/
def unplaced : ScanError → ScanError
  | .unterminatedString _ => .unterminatedString Span.nowhere.startPosition
  | .unrecognizedCharacter _ c => .unrecognizedCharacter Span.nowhere.startPosition c
  | .malformedOperator _ c => .malformedOperator Span.nowhere.startPosition c

/-- The first character of a piece at fault tells its error wherever it stands. -/
@[simp]
theorem unplaced_ofFirst (p : Position) (c : Char) :
    (ofFirst p c).unplaced = ofFirst Span.nowhere.startPosition c := by
  unfold ofFirst
  split
  · rfl
  split <;> rfl

end ScanError

/-- A rune stands for the same error up to places wherever it stands. -/
@[simp]
theorem Token.scanError?_unplaced (t : Token) :
    t.unplaced.scanError? = t.scanError?.map ScanError.unplaced := by
  have nowhere : t.unplaced.span.startPosition = Span.nowhere.startPosition := rfl
  by_cases isRune : t.kind = .rune <;> simp [scanError?, isRune, nowhere, Function.comp_def]

/-- Runes that differ in their places only stand for the same errors up to places. -/
theorem Token.scanErrors_alike {tokens tokens' : List Token}
    (alike : List.Forall₂ Token.Alike tokens tokens') :
    List.Forall₂ (fun e e' => e.unplaced = e'.unplaced) (tokens.filterMap scanError?)
      (tokens'.filterMap scanError?) := by
  have same : (tokens.filterMap scanError?).map ScanError.unplaced =
      (tokens'.filterMap scanError?).map ScanError.unplaced := by
    rw [map_filterMap_of_commutes scanError?_unplaced,
      map_filterMap_of_commutes scanError?_unplaced, unplaced_eq_of_alike alike]
  rwa [← List.forall₂_eq_eq_eq, List.forall₂_map_left_iff, List.forall₂_map_right_iff] at same

/-- Errors of two runs that are the same up to places, those of a parse at the same index. -/
inductive SourceError.Alike (tokens tokens' : List Token) : SourceError → SourceError → Prop
  | scan {e e' : ScanError} (same : e.unplaced = e'.unplaced) :
      Alike tokens tokens' (.scan e) (.scan e')
  | parse {e e' : ParseError} (alike : e.Alike tokens tokens' e') :
      Alike tokens tokens' (.parse e) (.parse e')

/-- Outcomes of one kind that are the same up to places. -/
inductive Outcome.Alike (tokens tokens' : List Token) : Outcome → Outcome → Prop
  | complete {unit unit' : SourceUnit} {tree tree' : Tree}
      (declarations : tree.declarations.map Declaration.unplaced =
        tree'.declarations.map Declaration.unplaced) :
      Alike tokens tokens' (.complete unit tree) (.complete unit' tree')
  | incomplete {unit unit' : SourceUnit} {tree tree' : Tree} {errors errors' : List SourceError}
      (declarations : tree.declarations.map Declaration.unplaced =
        tree'.declarations.map Declaration.unplaced)
      (alike : List.Forall₂ (SourceError.Alike tokens tokens') errors errors') :
      Alike tokens tokens' (.incomplete unit tree errors) (.incomplete unit' tree' errors')
  | failed {e e' : SourceError} (alike : e.Alike tokens tokens' e') :
      Alike tokens tokens' (.failed e) (.failed e')

namespace FrontEnd

variable {tokens tokens' : List Token} {name name' text text' : String}

/-- Alike errors conclude runs alike, whatever the units. -/
theorem conclude_alike (unit unit' : SourceUnit) {tree tree' : Tree}
    {errors errors' : List SourceError}
    (declarations : tree.declarations.map Declaration.unplaced =
      tree'.declarations.map Declaration.unplaced)
    (alike : List.Forall₂ (SourceError.Alike tokens tokens') errors errors') :
    Outcome.Alike tokens tokens' (conclude unit tree errors) (conclude unit' tree' errors') := by
  cases alike with
  | nil => exact .complete declarations
  | cons first others => exact .incomplete declarations (.cons first others)

/-- A limit counts as many of alike scan errors. -/
theorem countedErrors_alike (limit : Nat) {scanErrors scanErrors' : List ScanError}
    (alike : List.Forall₂ (fun e e' : ScanError => e.unplaced = e'.unplaced) scanErrors
      scanErrors') :
    List.Forall₂ (SourceError.Alike tokens tokens') (countedErrors limit scanErrors)
      (countedErrors limit scanErrors') := by
  rw [countedErrors, countedErrors, List.forall₂_map_left_iff, List.forall₂_map_right_iff]
  exact (List.forall₂_take limit alike).imp fun _ _ => .scan

/-- Recovering runs of texts whose tokens differ in places only end alike. -/
theorem runRecovering_alike (limit : Nat)
    (alike : List.Forall₂ Token.Alike (SourceUnit.scanRecovering name text).1.tokens
      (SourceUnit.scanRecovering name' text').1.tokens) :
    ∃ outcome outcome', runRecovering limit name text = .ok outcome ∧
      runRecovering limit name' text' = .ok outcome' ∧
      Outcome.Alike (SourceUnit.scanRecovering name text).1.tokens
        (SourceUnit.scanRecovering name' text').1.tokens outcome outcome' := by
  have inOrder := SourceUnit.inOrder_of_scanRecovering name text
  have inOrder' := SourceUnit.inOrder_of_scanRecovering name' text'
  have scanErrors := Token.scanErrors_alike alike
  rw [← SourceUnit.errors_scanRecovering, ← SourceUnit.errors_scanRecovering] at scanErrors
  rw [runRecovering, runRecovering]
  generalize SourceUnit.scanRecovering name text = scanned at alike inOrder scanErrors ⊢
  generalize SourceUnit.scanRecovering name' text' = scanned' at alike inOrder' scanErrors ⊢
  obtain ⟨unit, errors⟩ := scanned
  obtain ⟨unit', errors'⟩ := scanned'
  have counted : List.Forall₂ (SourceError.Alike unit.tokens unit'.tokens)
      (countedErrors limit errors) (countedErrors limit errors') :=
    countedErrors_alike limit scanErrors
  -- Alike errors are equally many, so both runs have the same limit left for the parser.
  simp only [counted.length_eq]
  by_cases left : (countedErrors limit errors').length < limit
  · obtain ⟨tree, parseErrors, tree', parseErrors', parsed, parsed', declarations, reported⟩ :=
      Tree.parseRecovering_alike name name' inOrder inOrder' alike
        (limit - (countedErrors limit errors').length)
    rw [if_pos left, if_pos left, parsed, parsed']
    refine ⟨_, _, rfl, rfl, conclude_alike unit unit' declarations (List.rel_append counted ?_)⟩
    rw [List.forall₂_map_left_iff, List.forall₂_map_right_iff]
    exact reported.imp fun _ _ => .parse
  · rw [if_neg left, if_neg left]
    exact ⟨_, _, rfl, rfl, conclude_alike unit unit' rfl counted⟩

/-- Strict runs of texts whose tokens differ in places only end alike. -/
theorem runStrict_alike
    (alike : List.Forall₂ Token.Alike (SourceUnit.scanRecovering name text).1.tokens
      (SourceUnit.scanRecovering name' text').1.tokens) :
    ∃ outcome outcome', runStrict name text = .ok outcome ∧
      runStrict name' text' = .ok outcome' ∧
      Outcome.Alike (SourceUnit.scanRecovering name text).1.tokens
        (SourceUnit.scanRecovering name' text').1.tokens outcome outcome' := by
  have inOrder := SourceUnit.inOrder_of_scanRecovering name text
  have inOrder' := SourceUnit.inOrder_of_scanRecovering name' text'
  have scanErrors := Token.scanErrors_alike alike
  rw [← SourceUnit.errors_scanRecovering, ← SourceUnit.errors_scanRecovering] at scanErrors
  -- A strict scan is told by the course of the recovering one, of which the tokens are alike.
  obtain ⟨steps, finish, -, recovered, strict⟩ := SourceUnit.scan_eq_of_course name text
  obtain ⟨steps', finish', -, recovered', strict'⟩ := SourceUnit.scan_eq_of_course name' text'
  rw [recovered] at alike inOrder scanErrors ⊢
  rw [recovered'] at alike inOrder' scanErrors ⊢
  simp only at alike inOrder inOrder' scanErrors ⊢
  rw [runStrict, runStrict, strict, strict']
  generalize steps.filterMap ScanStep.error? = errors at scanErrors ⊢
  generalize steps'.filterMap ScanStep.error? = errors' at scanErrors ⊢
  cases scanErrors with
  | cons same others => exact ⟨_, _, rfl, rfl, .failed (.scan same)⟩
  | nil =>
      obtain ⟨parsed, parsed', ended, ended', parsedAlike⟩ :=
        Tree.parse_alike name name' inOrder inOrder' alike
      simp only [List.head?_nil, ended, ended']
      refine ⟨_, _, rfl, rfl, ?_⟩
      cases parsedAlike with
      | declared same => exact .complete same
      | refused alike => exact .failed (.parse alike)

/-- **Layout does not matter.** Tokens in order that differ in their places only parse to the same
declarations, up to places, or to the same errors at the same indices, by a strict parse and by a
recovering parse under any limit. So any two texts that scan to such tokens have outcomes of the
same kind under every configuration, with the same declarations and errors up to places. -/
theorem layout_does_not_matter :
    (∀ (source source' name name' : String) (tokens tokens' : List Token),
      Token.InOrder source tokens → Token.InOrder source' tokens' →
      List.Forall₂ Token.Alike tokens tokens' →
        (∃ parsed parsed', Tree.parse name tokens = .ok parsed ∧
          Tree.parse name' tokens' = .ok parsed' ∧
          Tree.ParsedAlike tokens tokens' parsed parsed') ∧
        ∀ limit, ∃ tree errors tree' errors',
          Tree.parseRecovering name tokens limit = .ok (tree, errors) ∧
          Tree.parseRecovering name' tokens' limit = .ok (tree', errors') ∧
          tree.declarations.map Declaration.unplaced =
            tree'.declarations.map Declaration.unplaced ∧
          List.Forall₂ (ParseError.Alike tokens tokens') errors errors') ∧
    ∀ (config : Config) (name name' text text' : String),
      List.Forall₂ Token.Alike (SourceUnit.scanRecovering name text).1.tokens
          (SourceUnit.scanRecovering name' text').1.tokens →
        ∃ outcome outcome', run config name text = .ok outcome ∧
          run config name' text' = .ok outcome' ∧
          Outcome.Alike (SourceUnit.scanRecovering name text).1.tokens
            (SourceUnit.scanRecovering name' text').1.tokens outcome outcome' := by
  constructor
  · intro source source' name name' tokens tokens' inOrder inOrder' alike
    exact ⟨Tree.parse_alike name name' inOrder inOrder' alike,
      Tree.parseRecovering_alike name name' inOrder inOrder' alike⟩
  · intro config name name' text text' alike
    rw [run, run]
    by_cases recovers : config.recover = true
    · rw [if_pos recovers, if_pos recovers]
      exact runRecovering_alike config.errorLimit alike
    · rw [if_neg recovers, if_neg recovers]
      exact runStrict_alike alike

/-- Two layouts of one declaration and an error: the tokens are refused alike, a recovering parse
of them keeps the declaration, and so do whole runs. -/
theorem layout_of_two_lines_does_not_matter :
    ∃ tokens tokens',
      tokens = (SourceUnit.scanRecovering "main" "x Int y 1").1.tokens ∧
      tokens' = (SourceUnit.scanRecovering "other" "x\n  Int\n\ny\t1 ").1.tokens ∧
      Token.InOrder "main" tokens ∧ Token.InOrder "other" tokens' ∧
      List.Forall₂ Token.Alike tokens tokens' ∧
      (∃ e e', Tree.parse "main" tokens = .ok (.error e) ∧
        Tree.parse "other" tokens' = .ok (.error e') ∧ e.Alike tokens tokens' e') ∧
      (∃ tree e tree' e', Tree.parseRecovering "main" tokens 2 = .ok (tree, [e]) ∧
        Tree.parseRecovering "other" tokens' 2 = .ok (tree', [e']) ∧
        tree.declarations.map Declaration.unplaced = tree'.declarations.map Declaration.unplaced ∧
        e.Alike tokens tokens' e') ∧
      ∃ outcome outcome', run (.ofOptions true 32 false) "main" "x Int y 1" = .ok outcome ∧
        run (.ofOptions true 32 false) "other" "x\n  Int\n\ny\t1 " = .ok outcome' ∧
        outcome.isComplete = false ∧ Outcome.Alike tokens tokens' outcome outcome' := by
  have inOrder := SourceUnit.inOrder_of_scanRecovering "main" "x Int y 1"
  have inOrder' := SourceUnit.inOrder_of_scanRecovering "other" "x\n  Int\n\ny\t1 "
  have alike : List.Forall₂ Token.Alike (SourceUnit.scanRecovering "main" "x Int y 1").1.tokens
      (SourceUnit.scanRecovering "other" "x\n  Int\n\ny\t1 ").1.tokens := by
    decide +kernel
  obtain ⟨parses, runs⟩ := layout_does_not_matter
  obtain ⟨⟨parsed, parsed', ended, ended', parsedAlike⟩, recovers⟩ :=
    parses "main" "other" "main" "other" _ _ inOrder inOrder' alike
  obtain ⟨tree, errors, tree', errors', recovered, recovered', kept, reported⟩ := recovers 2
  obtain ⟨outcome, outcome', ran, ran', outcomes⟩ :=
    runs (.ofOptions true 32 false) "main" "other" _ _ alike
  refine ⟨_, _, rfl, rfl, inOrder, inOrder', alike, ?_, ?_, outcome, outcome', ran, ran', ?_,
    outcomes⟩
  · -- The number stands where a type should, so neither parse comes to a tree.
    have refused : (Tree.parse "main" (SourceUnit.scanRecovering "main" "x Int y 1").1.tokens).map
        Except.isOk = .ok false := by
      decide +kernel
    rw [ended] at refused
    cases parsedAlike with
    | declared same => cases refused
    | refused alike => exact ⟨_, _, ended, ended', alike⟩
  · have single : (Tree.parseRecovering "main"
        (SourceUnit.scanRecovering "main" "x Int y 1").1.tokens 2).map
          (fun recovered => recovered.2.length) = .ok 1 := by
      decide +kernel
    rw [recovered] at single
    obtain ⟨e, rfl⟩ := List.length_eq_one_iff.mp (Except.ok.inj single)
    obtain ⟨e', others, alike, none, rfl⟩ := List.forall₂_cons_left_iff.mp reported
    cases none
    exact ⟨tree, e, tree', e', recovered, recovered', kept, alike⟩
  · have incomplete : (run (.ofOptions true 32 false) "main" "x Int y 1").map
        Outcome.isComplete = .ok false := by
      decide +kernel
    rw [ran] at incomplete
    exact Except.ok.inj incomplete

end FrontEnd

end DeclLang
