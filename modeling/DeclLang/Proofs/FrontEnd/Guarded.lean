import DeclLang.Proofs.FrontEnd.Origin
import DeclLang.Proofs.Scan.Concatenation
import DeclLang.Proofs.Scan.Guarded

/-!
# A front end that checks itself

The parser checks its spans and declarations already. The front end here checks the rest too: its
scan is the one that checks itself, it looks before it takes away from a limit or from a number of
lines, it cuts texts only between characters, and it makes a span of a position as of any two
positions. No text makes a check fail, and no tokens in order do.
-/

namespace DeclLang

namespace Guarded

/-- The index, from zero, of the last line that starts at or before an offset, if there is one. -/
def lineIndex (table : LineTable) (offset : Nat) : Except Breach Nat :=
  match (table.starts.takeWhile fun start => decide (start ≤ offset)).length with
  | 0 => .error .lineBeforeFirst
  | index + 1 => .ok index

/-- Where a line of a table starts. -/
def lineStart (table : LineTable) (index : Nat) : Except Breach Nat :=
  match table.starts[index]? with
  | some start => .ok start
  | none => .error .lineAfterLast

/-- The position of a byte offset; `none` past the end or inside a character. -/
def position? (unit : SourceUnit) (offset : Nat) : Except Breach (Option Position) :=
  match Utf8.split? offset unit.text.toList with
  | none => .ok none
  | some _ => do
      let index ← lineIndex unit.lines offset
      let start ← lineStart unit.lines index
      let before ← between start offset unit.text.toList
      return some ⟨unit.name, index + 1, before.length + 1, offset⟩

/-- A text without its last byte, if it has one. -/
def dropLastByte (text : List Char) : Except Breach (List Char) :=
  match Utf8.size text with
  | 0 => .error (.fault .misplacedCut)
  | size + 1 => between 0 size text

/-- The digits of a floating literal without its suffix, and the width. -/
def splitSuffix (digits : List Char) : Except Breach (List Char × FloatSize) :=
  match Numeral.suffix? digits with
  | some size => (dropLastByte digits).map fun unmarked => (unmarked, size)
  | none => .ok (digits, .unmarked)

/-- What is left of a limit. -/
def remaining (limit counted : Nat) : Except Breach Nat :=
  if counted ≤ limit then .ok (limit - counted) else .error .overdrawnLimit

/-- A run that stops at the first error. -/
def runStrict (name text : String) : Except Breach Outcome := do
  match ← scan name text with
  | .error e => return .failed (.scan e)
  | .ok unit =>
      match ← (Tree.parse name unit.tokens).mapError Breach.fault with
      | .error e => return .failed (.parse e)
      | .ok tree => return .complete unit tree

/-- A run that recovers from errors up to a limit. -/
def runRecovering (limit : Nat) (name text : String) : Except Breach Outcome := do
  let (unit, scanErrors) ← scanRecovering name text
  let counted := FrontEnd.countedErrors limit scanErrors
  if counted.length < limit then
    let left ← remaining limit counted.length
    let (tree, errors) ← (Tree.parseRecovering name unit.tokens left).mapError Breach.fault
    return FrontEnd.conclude unit tree (counted ++ errors.map .parse)
  else return FrontEnd.conclude unit ⟨name, []⟩ counted

/-- Scans and parses a text. -/
def run (config : Config) (name text : String) : Except Breach Outcome :=
  if config.recover then runRecovering config.errorLimit name text else runStrict name text

/-- The empty span at a position. -/
def spanAt (p : Position) : Except Breach Span :=
  (Span.between p p).mapError Breach.fault

/-- The report of an error, labelled at the empty span of a position. -/
def reportAt (p : Position) (report : Diagnostic) : Except Breach Diagnostic :=
  (spanAt p).map fun span =>
    { report with labels := report.labels.map fun label => span.label label.message }

/-- The error as it is reported on its source; only an unclosed string and a missing token are
reported at a position. -/
def diagnostic (coloured : Bool) (e : SourceError) : Except Breach Diagnostic :=
  match e with
  | .scan (.unterminatedString p) => reportAt p (e.diagnostic coloured)
  | .parse (.unexpectedEnd p _) => reportAt p (e.diagnostic coloured)
  | _ => .ok (e.diagnostic coloured)

/-! ### No check fails -/

private theorem ok_bind {α β : Type} (a : α) (next : α → Except Breach β) :
    (Except.ok a >>= next) = next a :=
  rfl

/-- The first line of a text starts at or before every offset. -/
theorem lineIndex_eq (cs : List Char) (offset : Nat) :
    lineIndex (LineTable.ofText cs) offset = .ok ((LineTable.ofText cs).lineIndex offset) := by
  have passed : (LineTable.ofText cs).starts.takeWhile (fun start => decide (start ≤ offset)) =
      0 :: (LineTable.startsAfterFeeds 0 cs).takeWhile fun start => decide (start ≤ offset) := by
    rw [LineTable.ofText, List.takeWhile_cons, if_pos (decide_eq_true (Nat.zero_le offset))]
  rw [lineIndex, LineTable.lineIndex, passed]
  rfl

/-- No offset breaks the search for its line or the cut from the start of the line. -/
theorem position?_eq {unit : SourceUnit} (table : unit.lines = LineTable.ofText unit.text.toList)
    (offset : Nat) : position? unit offset = .ok (unit.position? offset) := by
  cases cut : Utf8.split? offset unit.text.toList with
  | none =>
      rw [position?, SourceUnit.position?, cut]
      rfl
  | some parts =>
      obtain ⟨front, back⟩ := parts
      obtain ⟨split, rfl⟩ := Utf8.split?_eq_some_iff.mp cut
      have index : lineIndex unit.lines (Utf8.size front) = .ok (front.count '\n') := by
        rw [table, lineIndex_eq, split, LineTable.lineIndex_ofText]
      have start : lineStart unit.lines (front.count '\n') =
          .ok (Utf8.size (front.rdropWhile inLine)) := by
        rw [lineStart, table, split, LineTable.getElem?_starts_ofText]
      have line : front.rdropWhile inLine ++ front.rtakeWhile inLine = front :=
        List.rdropWhile_append_rtakeWhile
      have before := between_append (front.rdropWhile inLine) (front.rtakeWhile inLine) back
      rw [← List.append_assoc, line, ← split] at before
      rw [SourceUnit.position?_size table split, position?, cut]
      simp only [index, ok_bind, start, before, Location.after, Nat.add_comm 1]
      rfl

/-- A suffix takes one byte. -/
theorem utf8Size_of_ofSuffix? {c : Char} {size : FloatSize}
    (suffix : FloatSize.ofSuffix? c = some size) : c.utf8Size = 1 := by
  unfold FloatSize.ofSuffix? at suffix
  split at suffix
  · rfl
  · rfl
  · cases suffix

/-- The byte that is dropped is the whole suffix, so the cut falls between characters. -/
theorem splitSuffix_eq (digits : List Char) :
    splitSuffix digits = .ok (Numeral.splitSuffix digits) := by
  rw [splitSuffix, Numeral.splitSuffix]
  cases marked : Numeral.suffix? digits with
  | none => rfl
  | some size =>
      obtain ⟨c, isLast, suffix⟩ := Option.bind_eq_some_iff.mp marked
      have split : digits = digits.dropLast ++ [c] :=
        (List.dropLast_append_getLast? c isLast).symm
      have width : Utf8.size digits = Utf8.size digits.dropLast + 1 := by
        rw [split, Utf8.size_append, Utf8.size_cons, utf8Size_of_ofSuffix? suffix,
          List.dropLast_concat]
        rfl
      have cut := between_append [] digits.dropLast [c]
      rw [List.nil_append, List.nil_append, ← split] at cut
      have dropped : dropLastByte digits = .ok digits.dropLast := by
        rw [dropLastByte, width]
        exact cut
      simp only [dropped]
      rfl

/-- The empty span at a position is a proper span. -/
theorem spanAt_eq (p : Position) : spanAt p = .ok (Span.atPosition p) := by
  have between : Span.between p p = .ok (Span.atPosition p) := by
    rw [Span.between, if_pos rfl, Span.ofLocations, if_pos (le_refl _)]
    rfl
  rw [spanAt, between]
  rfl

/-- No error breaks the span that it is reported at. -/
theorem diagnostic_eq (coloured : Bool) (e : SourceError) :
    diagnostic coloured e = .ok (e.diagnostic coloured) := by
  cases e with
  | scan e =>
      cases e with
      | unterminatedString p =>
          rw [diagnostic, reportAt, spanAt_eq]
          rfl
      | unrecognizedCharacter p c => rfl
      | malformedOperator p c => rfl
  | parse e =>
      cases e with
      | unexpectedToken found expected => rfl
      | unexpectedEnd p expected =>
          rw [diagnostic, reportAt, spanAt_eq]
          rfl
      | malformedNumber token e => rfl

/-- A strict run breaks none of the checks that it makes beside those of the parser. -/
theorem runStrict_eq (name text : String) :
    runStrict name text = (FrontEnd.runStrict name text).mapError Breach.fault := by
  rw [runStrict, scan_eq, FrontEnd.runStrict]
  cases SourceUnit.scan name text with
  | error e => rfl
  | ok unit =>
      simp only [ok_bind]
      cases Tree.parse name unit.tokens with
      | error fault => rfl
      | ok parsed => cases parsed <;> rfl

/-- A recovering run breaks none of the checks that it makes beside those of the parser: the parse
is run only while the limit exceeds what is counted. -/
theorem runRecovering_eq (limit : Nat) (name text : String) :
    runRecovering limit name text =
      (FrontEnd.runRecovering limit name text).mapError Breach.fault := by
  rw [runRecovering, scanRecovering_eq, FrontEnd.runRecovering]
  obtain ⟨unit, scanErrors⟩ := SourceUnit.scanRecovering name text
  simp only [ok_bind]
  by_cases left : (FrontEnd.countedErrors limit scanErrors).length < limit
  · have taken : remaining limit (FrontEnd.countedErrors limit scanErrors).length =
        .ok (limit - (FrontEnd.countedErrors limit scanErrors).length) := if_pos left.le
    rw [if_pos left, if_pos left, taken, ok_bind]
    cases Tree.parseRecovering name unit.tokens _ <;> rfl
  · rw [if_neg left, if_neg left]
    rfl

/-- A run that checks itself comes to the run without these checks. -/
theorem run_eq (config : Config) (name text : String) :
    run config name text = (FrontEnd.run config name text).mapError Breach.fault := by
  rw [run, FrontEnd.run]
  split
  · exact runRecovering_eq config.errorLimit name text
  · exact runStrict_eq name text

end Guarded

namespace FrontEnd

/-- **No check fails.** The run of a text that makes all checks comes to the outcome of the run, its
unit finds every line and position without a failed check, and its errors are reported without one.
So it is with both parses of tokens in order, whatever their limit, and with the suffix of every
number that they read. -/
theorem run_breaks_no_check (config : Config) (name text : String) :
    (∃ outcome, run config name text = .ok outcome ∧
      Guarded.run config name text = .ok outcome ∧
      (∀ unit tree, outcome.value? = some (unit, tree) → ∀ offset,
        Guarded.lineIndex unit.lines offset = .ok (unit.lines.lineIndex offset) ∧
          Guarded.position? unit offset = .ok (unit.position? offset)) ∧
      ∀ e ∈ outcome.errors, ∀ coloured,
        Guarded.diagnostic coloured e = .ok (e.diagnostic coloured)) ∧
    (∀ source tokens limit, Token.InOrder source tokens →
      (∃ parsed, Tree.parse name tokens = .ok parsed ∧ ∀ e, parsed = .error e → ∀ coloured,
        Guarded.diagnostic coloured (.parse e) = .ok (e.diagnostic coloured)) ∧
      ∃ tree errors, Tree.parseRecovering name tokens limit = .ok (tree, errors) ∧
        ∀ e ∈ errors, ∀ coloured,
          Guarded.diagnostic coloured (.parse e) = .ok (e.diagnostic coloured)) ∧
    ∀ digits, Guarded.splitSuffix digits = .ok (Numeral.splitSuffix digits) := by
  refine ⟨?_, fun source tokens limit inOrder => ⟨?_, ?_⟩, Guarded.splitSuffix_eq⟩
  · obtain ⟨outcome, ended, origin⟩ := exists_outcome config name text
    have guarded : Guarded.run config name text = .ok outcome := by
      rw [Guarded.run_eq, ended]
      rfl
    refine ⟨outcome, ended, guarded, fun unit tree present offset => ?_, fun e _ coloured => ?_⟩
    · obtain ⟨rfl, -⟩ := origin.value unit tree present
      have table := SourceUnit.lines_scanRecovering name text
      refine ⟨?_, Guarded.position?_eq table offset⟩
      rw [table]
      exact Guarded.lineIndex_eq text.toList offset
    · exact Guarded.diagnostic_eq coloured e
  · obtain ⟨phrases, stop, course⟩ := Tree.exists_course tokens
    exact ⟨_, Tree.parse_of_course name course inOrder,
      fun e _ coloured => Guarded.diagnostic_eq coloured (.parse e)⟩
  · obtain ⟨rounds, course⟩ := Round.exists_course (limit - 1) 0 tokens
    exact ⟨_, _, Tree.parseRecovering_of_course name course inOrder,
      fun e _ coloured => Guarded.diagnostic_eq coloured (.parse e)⟩

/-- The tokens of `x T = 7 y`. -/
def withoutLastType : List Token :=
  [.single .identifier "x" 0, .single .identifier "T" 2, .single .operator "=" 4,
   .single .number "7" 6, .single .identifier "y" 8]

/-- No check fails on lexemes of every kind over two lines, nor where a declaration is cut off. -/
theorem run_breaks_no_check_cut :
    (∃ outcome,
      Guarded.run (.ofOptions true 2 false) "main" "é == 1\n@ \"ü\" = \"" = .ok outcome ∧
        outcome.errors.length = 2) ∧
    Token.InOrder "main" withoutLastType ∧
      ∃ tree e, Tree.parseRecovering "main" withoutLastType 1 = .ok (tree, [e]) ∧
        Guarded.diagnostic false (.parse e) = .ok (e.diagnostic false) := by
  obtain ⟨⟨outcome, ended, guarded, -, -⟩, parses, -⟩ :=
    run_breaks_no_check (.ofOptions true 2 false) "main" "é == 1\n@ \"ü\" = \""
  have two : (run (.ofOptions true 2 false) "main" "é == 1\n@ \"ü\" = \"").map
      (fun outcome => outcome.errors.length) = .ok 2 := by
    decide +kernel
  rw [ended] at two
  have inOrder : Token.InOrder "main" withoutLastType := ⟨by decide, by decide, by decide⟩
  obtain ⟨-, tree, errors, recovered, reported⟩ := parses "main" withoutLastType 1 inOrder
  have cut : (Tree.parseRecovering "main" withoutLastType 1).map Prod.snd =
      .ok [.unexpectedEnd ⟨"main", 1, 10, 9⟩ .type] := by
    decide +kernel
  rw [recovered] at cut
  obtain rfl := Except.ok.inj cut
  refine ⟨⟨outcome, guarded, Except.ok.inj two⟩, inOrder, tree, _, recovered, ?_⟩
  exact reported _ List.mem_cons_self false

/-- Tokens out of order do make a check fail. -/
example : Tree.parse "main" [.single .identifier "x" 2, .single .identifier "T" 0] =
    .error .reversedSpan := by
  decide +kernel

end FrontEnd

end DeclLang
