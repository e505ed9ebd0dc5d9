import DeclLang.Proofs.Scan.LongestMatches
import DeclLang.Proofs.Scan.Positions

/-!
# A scan that checks itself

A scanner relies on much that it could check: that the next lexeme starts at its cursor, that line
starts increase, that it cuts its text between characters, that a span does not end before it
starts, that each rule that is left has a kind, and that a recovering scan never stops. The scanner
here makes all these checks as it goes over a text one character at a time, and ends in a breach
where one fails. It never does, and it comes to the same unit and errors as the scan without checks.
-/

namespace DeclLang

/-- What a front end that checks itself can find broken: a check on spans, declarations and cuts, a
lexeme that does not start at the cursor, a line start that is no greater than the last one, a
lexeme left without a kind, a recovering scan that stops, more errors than the limit, and a line
before the first or after the last one. -/
inductive Breach
  | fault (fault : Fault)
  | strayLexeme
  | staleLineStart
  | kindlessLexeme
  | stoppedRecovery
  | overdrawnLimit
  | lineBeforeFirst
  | lineAfterLast
  deriving DecidableEq

/-- A lexeme with the byte offsets where it starts and ends. -/
structure RangedLexeme where
  lexeme : Lexeme
  start : Nat
  finish : Nat

/-- The lexemes of a text that starts at an offset. -/
def Lexeme.ranged (offset : Nat) : List Char → List RangedLexeme
  | [] => []
  | c :: rest =>
      let read := Lexeme.read c rest
      let finish := offset + Utf8.size read.1.chars
      ⟨read.1, offset, finish⟩ :: ranged finish read.2
termination_by cs => cs.length
decreasing_by exact Nat.lt_succ_of_le (Lexeme.length_read_le c rest)

namespace Guarded

/-- The text from an offset on. -/
def onward (offset : Nat) (text : List Char) : Except Breach (List Char) :=
  match Utf8.split? offset text with
  | some parts => .ok parts.2
  | none => .error (.fault .misplacedCut)

/-- The text between two offsets. -/
def between (start finish : Nat) (text : List Char) : Except Breach (List Char) :=
  match Utf8.slice? start finish text with
  | some piece => .ok piece
  | none => .error (.fault .misplacedCut)

/-- Notes one more line start, the latest first. -/
def pushLine (starts : List Nat) (start : Nat) : Except Breach (List Nat) :=
  if ∀ last ∈ starts.head?, last < start then .ok (start :: starts) else .error .staleLineStart

/-- The cursor after one more character. -/
def advance (here : Cursor) (c : Char) : Except Breach Cursor :=
  let location := here.location.advance c
  if c = '\n' then (pushLine here.lineStarts location.offset).map fun starts => ⟨location, starts⟩
  else .ok ⟨location, here.lineStarts⟩

/-- The next character of a text and the cursor after it, unless the text is at its end. -/
def consume (text : List Char) (here : Cursor) : Except Breach (Option (Char × Cursor)) :=
  match onward here.location.offset text with
  | .error breach => .error breach
  | .ok [] => .ok none
  | .ok (c :: _) => (advance here c).map fun there => some (c, there)

/-- A move that passes its check ends where a move without the check ends. -/
theorem location_of_advance {here there : Cursor} {c : Char} (moved : advance here c = .ok there) :
    there.location = here.location.advance c := by
  rw [advance] at moved
  split at moved
  · cases pushed : pushLine here.lineStarts (here.location.advance c).offset with
    | error breach =>
        rw [pushed] at moved
        cases moved
    | ok starts =>
        rw [pushed] at moved
        cases moved
        rfl
  · cases moved
    rfl

/-- A character that is consumed moves the cursor on, so that a run of them ends. -/
theorem lt_of_consume {text : List Char} {here there : Cursor} {c : Char}
    (consumed : consume text here = .ok (some (c, there))) :
    here.location.offset < there.location.offset := by
  rw [consume] at consumed
  split at consumed
  · cases consumed
  · cases consumed
  · rename_i d rest cut
    cases moved : advance here d with
    | error breach =>
        rw [moved] at consumed
        cases consumed
    | ok there' =>
        rw [moved] at consumed
        cases consumed
        have onward := Location.offset_advanceAll here.location [c]
        have wide := c.utf8Size_pos
        rw [location_of_advance moved]
        rw [Utf8.size_cons, Utf8.size_nil] at onward
        change (here.location.advance c).offset = _ at onward
        omega

/-- Passes characters up to an offset, or to the end of the text. -/
def consumeTo (text : List Char) (here : Cursor) (finish : Nat) : Except Breach Cursor :=
  if here.location.offset < finish then
    match _consumed : consume text here with
    | .error breach => .error breach
    | .ok none => .ok here
    | .ok (some (_, there)) => consumeTo text there finish
  else .ok here
termination_by finish - here.location.offset
decreasing_by
  have further := lt_of_consume _consumed
  omega

/-- Passes characters up to an offset, and at least one; the first of them. -/
def consumeRun (text : List Char) (here : Cursor) (finish : Nat) :
    Except Breach (Char × Cursor) :=
  match consume text here with
  | .error breach => .error breach
  | .ok none => (consumeTo text here finish).map fun there => ('\uFFFD', there)
  | .ok (some (first, next)) => (consumeTo text next finish).map fun there => (first, there)

/-- Whether a scan stops at its first error or goes on. -/
inductive Mode
  | strict
  | recovering
  deriving DecidableEq

/-- A scanner on its way: where its next token starts, how far it has come, and the tokens and
errors met so far, the latest first. -/
structure Scanner where
  tokenStart : Location
  cursor : Cursor
  tokens : List Token
  errors : List ScanError

namespace Scanner

/-- The scanner before the first character. -/
def origin : Scanner :=
  ⟨Location.origin, Cursor.origin, [], []⟩

/-- Starts the next token at a cursor. -/
def flush (scanner : Scanner) (here : Cursor) : Scanner :=
  { scanner with tokenStart := here.location, cursor := here }

/-- Emits the text from the start of the token up to a cursor. -/
def pushToken (source : String) (text : List Char) (kind : TokenKind) (here : Cursor)
    (scanner : Scanner) : Except Breach Scanner :=
  match Span.ofLocations source scanner.tokenStart here.location with
  | .error fault => .error (.fault fault)
  | .ok span =>
      (between scanner.tokenStart.offset here.location.offset text).map fun piece =>
        { scanner with tokens := ⟨kind, String.ofList piece, span⟩ :: scanner.tokens }.flush here

/-- Stops at an error, or keeps it with a rune for the text that it is about. -/
def fail (source : String) (text : List Char) (mode : Mode) (e : ScanError) (here : Cursor)
    (scanner : Scanner) : Except Breach (Except ScanError Scanner) :=
  match mode with
  | .strict => .ok (.error e)
  | .recovering =>
      (pushToken source text .rune here { scanner with errors := e :: scanner.errors }).map .ok

/-- Passes over a lexeme that starts at the cursor. -/
def pass (source : String) (text : List Char) (mode : Mode) (lexeme : Lexeme) (finish : Nat)
    (scanner : Scanner) : Except Breach (Except ScanError Scanner) := do
  let start : Position := ⟨source, scanner.cursor.location⟩
  match lexeme.rule with
  | some .blank =>
      let here ← consumeTo text scanner.cursor finish
      return .ok (scanner.flush here)
  | some .unclosedString =>
      let here ← consumeTo text scanner.cursor finish
      scanner.fail source text mode (.unterminatedString start) here
  | some .loneOperator =>
      let (c, here) ← consumeRun text scanner.cursor finish
      scanner.fail source text mode (.malformedOperator start c) here
  | none =>
      let (c, here) ← consumeRun text scanner.cursor finish
      scanner.fail source text mode (.unrecognizedCharacter start c) here
  | some rule =>
      let here ← consumeTo text scanner.cursor finish
      match rule.kind? with
      | some kind => (scanner.pushToken source text kind here).map .ok
      | none => .error .kindlessLexeme

/-- Passes over a lexeme, which must start at the cursor. -/
def step (source : String) (text : List Char) (mode : Mode) (next : RangedLexeme)
    (scanner : Scanner) : Except Breach (Except ScanError Scanner) :=
  if next.start = scanner.cursor.location.offset then
    scanner.pass source text mode next.lexeme next.finish
  else .error .strayLexeme

/-- Passes over lexemes up to the last one or the error that stops the scan. -/
def run (source : String) (text : List Char) (mode : Mode) :
    List RangedLexeme → Scanner → Except Breach (Except ScanError Scanner)
  | [], scanner => .ok (.ok scanner)
  | next :: later, scanner =>
      match scanner.step source text mode next with
      | .error breach => .error breach
      | .ok (.error e) => .ok (.error e)
      | .ok (.ok scanner) => run source text mode later scanner

/-- What a scanner has made of a text. -/
def unit (name text : String) (scanner : Scanner) : SourceUnit :=
  ⟨name, text, scanner.cursor.lines, scanner.tokens.reverse⟩

end Scanner

/-- Scans a text up to the first error. -/
def scan (name text : String) : Except Breach (Except ScanError SourceUnit) :=
  (Scanner.run name text.toList .strict (Lexeme.ranged 0 text.toList) .origin).map
    (Except.map (Scanner.unit name text))

/-- Scans a text to its end, with all its errors. -/
def scanRecovering (name text : String) : Except Breach (SourceUnit × List ScanError) :=
  match Scanner.run name text.toList .recovering (Lexeme.ranged 0 text.toList) .origin with
  | .error breach => .error breach
  | .ok (.error _) => .error .stoppedRecovery
  | .ok (.ok scanner) => .ok (scanner.unit name text, scanner.errors.reverse)

/-! ### No check fails -/

/-- The cut at the cursor falls between two characters. -/
theorem onward_append (passed rest : List Char) :
    onward (Utf8.size passed) (passed ++ rest) = .ok rest := by
  simp [onward]

/-- The cut of a token falls between characters at both its ends. -/
theorem between_append (passed piece rest : List Char) :
    between (Utf8.size passed) (Utf8.size (passed ++ piece)) (passed ++ (piece ++ rest)) =
      .ok piece := by
  have slice : Utf8.slice? (Utf8.size passed) (Utf8.size (passed ++ piece))
      (passed ++ (piece ++ rest)) = some piece :=
    Utf8.slice?_eq_some_iff.mpr ⟨passed, rest, (List.append_assoc ..).symm, rfl, rfl⟩
  rw [between, slice]

/-- A line feed that is passed starts a line behind all lines before it. -/
theorem advance_after (passed : List Char) (c : Char) :
    advance (.after passed) c = .ok (.after (passed ++ [c])) := by
  have moved : (Cursor.after passed).advance c = .after (passed ++ [c]) :=
    Cursor.advanceAll_after passed [c]
  rw [advance, ← moved, Cursor.advance]
  by_cases feed : c = '\n'
  · have offset : ((Cursor.after passed).location.advance c).offset =
        Utf8.size passed + c.utf8Size := by
      rw [← Cursor.offset_after, Location.advance, if_pos feed]
    have increasing : ∀ last ∈ (Cursor.after passed).lineStarts.head?,
        last < ((Cursor.after passed).location.advance c).offset := by
      intro last isLast
      have behind := Cursor.lineStarts_after_le passed last (List.mem_of_mem_head? isLast)
      have wide := c.utf8Size_pos
      omega
    simp only [if_pos feed, pushLine, if_pos increasing]
    rfl
  · simp only [if_neg feed]

/-- Where the text goes on with a character, it is consumed. -/
theorem consume_append (passed : List Char) (c : Char) (rest : List Char) :
    consume (passed ++ c :: rest) (.after passed) = .ok (some (c, .after (passed ++ [c]))) := by
  rw [consume, Cursor.offset_after, onward_append]
  simp only [advance_after]
  rfl

/-- Passing up to the end of a piece passes the piece and breaks no check. -/
theorem consumeTo_append (passed piece rest : List Char) :
    consumeTo (passed ++ (piece ++ rest)) (.after passed) (Utf8.size (passed ++ piece)) =
      .ok (.after (passed ++ piece)) := by
  induction piece generalizing passed with
  | nil =>
      rw [consumeTo, Cursor.offset_after, List.append_nil, if_neg (lt_irrefl _)]
  | cons c piece ih =>
      have further : Utf8.size passed < Utf8.size (passed ++ c :: piece) := by
        rw [Utf8.size_append]
        exact Nat.lt_add_of_pos_right (Utf8.size_pos (List.cons_ne_nil c piece))
      have consumed := consume_append passed c (piece ++ rest)
      have onward := ih (passed ++ [c])
      simp only [List.append_assoc, List.singleton_append] at onward
      rw [consumeTo, Cursor.offset_after, if_pos further, List.cons_append]
      -- The text goes on with `c`, so neither a breach nor its end can come here.
      split
      · rename_i breach failed
        rw [consumed] at failed
        cases failed
      · rename_i ended
        rw [consumed] at ended
        cases ended
      · rename_i d there isNext
        rw [consumed] at isNext
        cases isNext
        exact onward

/-- A lexeme has a first character, so the stand-in for a missing one is not used. -/
theorem consumeRun_append (passed : List Char) (c : Char) (piece rest : List Char) :
    consumeRun (passed ++ (c :: piece ++ rest)) (.after passed)
        (Utf8.size (passed ++ c :: piece)) = .ok (c, .after (passed ++ c :: piece)) := by
  have onward := consumeTo_append (passed ++ [c]) piece rest
  simp only [List.append_assoc, List.singleton_append] at onward
  rw [consumeRun, List.cons_append, consume_append]
  simp only [onward]
  rfl

namespace Scanner

variable {source : String} {mode : Mode} {tokens : List Token} {errors : List ScanError}

/-- The scanner that has passed some characters and starts its next token there. -/
def past (passed : List Char) (tokens : List Token) (errors : List ScanError) : Scanner :=
  ⟨Location.after passed, .after passed, tokens, errors⟩

/-- What a scanner makes of a step of the scan without checks. -/
def take (mode : Mode) (scanner : Scanner) : Option ScanStep → Except ScanError Scanner
  | none => .ok scanner
  | some (.token t) => .ok { scanner with tokens := t :: scanner.tokens }
  | some (.failure e rune) =>
      match mode with
      | .strict => .error e
      | .recovering =>
          .ok { scanner with tokens := rune :: scanner.tokens, errors := e :: scanner.errors }

theorem flush_past (passed piece : List Char) :
    (past passed tokens errors).flush (.after (passed ++ piece)) =
      past (passed ++ piece) tokens errors := by
  simp [flush, past]

/-- The token from where the last one ended up to the cursor has a proper span and text. -/
theorem pushToken_past (kind : TokenKind) (passed piece rest : List Char) :
    pushToken source (passed ++ (piece ++ rest)) kind (.after (passed ++ piece))
        (past passed tokens errors) =
      .ok (past (passed ++ piece)
        (⟨kind, String.ofList piece, source, Location.after passed,
          Location.after (passed ++ piece)⟩ :: tokens) errors) := by
  have ordered : Location.after passed ≤ Location.after (passed ++ piece) := by
    rw [← Location.advanceAll_origin, ← Location.advanceAll_origin, Location.advanceAll_append]
    exact Location.le_advanceAll _ piece
  have span : Span.ofLocations source (past passed tokens errors).tokenStart
      (Cursor.after (passed ++ piece)).location =
        .ok ⟨source, Location.after passed, Location.after (passed ++ piece)⟩ := by
    rw [Cursor.location_after]
    exact if_pos ordered
  have cut : between (past passed tokens errors).tokenStart.offset
      (Cursor.after (passed ++ piece)).location.offset (passed ++ (piece ++ rest)) =
        .ok piece := by
    rw [Cursor.offset_after]
    exact between_append passed piece rest
  rw [pushToken, span]
  simp only [cut]
  exact congrArg Except.ok (flush_past ..)

/-- A scanner passes over a lexeme as the scan without checks does. -/
theorem pass_past (lexeme : Lexeme) (passed rest : List Char) :
    (past passed tokens errors).pass source (passed ++ (lexeme.chars ++ rest)) mode lexeme
        (Utf8.size (passed ++ lexeme.chars)) =
      .ok ((past (passed ++ lexeme.chars) tokens errors).take mode
        (ScanStep.ofLexeme? source lexeme (Location.after passed)
          (Location.after (passed ++ lexeme.chars)))) := by
  obtain ⟨rule, first, others⟩ := lexeme
  have reached := consumeTo_append passed (first :: others) rest
  have ran := consumeRun_append passed first others rest
  have pushed (kind : TokenKind) :
      (pushToken source (passed ++ (first :: others ++ rest)) kind
          (.after (passed ++ first :: others)) (past passed tokens errors)).map Except.ok =
        .ok ((past (passed ++ first :: others) tokens errors).take mode
          (some (.token ⟨kind, String.ofList (first :: others), source,
            Location.after passed, Location.after (passed ++ first :: others)⟩))) := by
    rw [pushToken_past]
    rfl
  have failed (e : ScanError) :
      fail source (passed ++ (first :: others ++ rest)) mode e (.after (passed ++ first :: others))
          (past passed tokens errors) =
        .ok ((past (passed ++ first :: others) tokens errors).take mode
          (some (.failure e ⟨.rune, String.ofList (first :: others), source,
            Location.after passed, Location.after (passed ++ first :: others)⟩))) := by
    cases mode with
    | strict => rfl
    | recovering =>
        rw [fail]
        exact congrArg (Except.map Except.ok) (pushToken_past .rune passed (first :: others) rest)
  -- Whatever the rule, the cursor reaches the end of the lexeme; what is emitted differs.
  have here : (past passed tokens errors).cursor = .after passed := rfl
  unfold pass
  simp only [here, Cursor.location_after, Lexeme.chars, reached, ran]
  cases rule with
  | none => exact failed _
  | some rule =>
      cases rule with
      | blank => exact congrArg (fun scanner => Except.ok (Except.ok scanner)) (flush_past ..)
      | name => exact pushed .identifier
      | number => exact pushed .number
      | string => exact pushed .string
      | unclosedString => exact failed _
      | comparison => exact pushed .operator
      | loneOperator => exact failed _

/-- A lexeme that starts at the cursor is passed over as the scan without checks does. -/
theorem step_past (lexeme : Lexeme) (passed rest : List Char) :
    (past passed tokens errors).step source (passed ++ (lexeme.chars ++ rest)) mode
        ⟨lexeme, Utf8.size passed, Utf8.size (passed ++ lexeme.chars)⟩ =
      .ok ((past (passed ++ lexeme.chars) tokens errors).take mode
        (ScanStep.ofLexeme? source lexeme (Location.after passed)
          (Location.after (passed ++ lexeme.chars)))) := by
  have contiguous : Utf8.size passed = (past passed tokens errors).cursor.location.offset :=
    (Cursor.offset_after passed).symm
  rw [step, if_pos contiguous, pass_past]

/-- The scanner that has taken some more steps to a cursor. -/
def finished (finish : Cursor) (steps : List ScanStep) (scanner : Scanner) : Scanner :=
  ⟨finish.location, finish, (steps.map ScanStep.emitted).reverse ++ scanner.tokens,
    (steps.filterMap ScanStep.error?).reverse ++ scanner.errors⟩

/-- How a scanner ends that has some more steps ahead: a strict one at the first error, if there is
one. -/
def ending (mode : Mode) (finish : Cursor) (steps : List ScanStep) (scanner : Scanner) :
    Except ScanError Scanner :=
  match mode with
  | .recovering => .ok (scanner.finished finish steps)
  | .strict =>
      match (steps.filterMap ScanStep.error?).head? with
      | some e => .error e
      | none => .ok (scanner.finished finish steps)

/-- How a scanner ends is decided step by step: by the next step, then by those after it. -/
theorem ending_cons (finish : Cursor) (step : ScanStep) (steps : List ScanStep)
    (scanner : Scanner) :
    scanner.ending mode finish (step :: steps) =
      (scanner.take mode (some step)).bind (ending mode finish steps) := by
  cases step with
  | token t =>
      have same : scanner.finished finish (.token t :: steps) =
          { scanner with tokens := t :: scanner.tokens }.finished finish steps := by
        simp only [finished, List.map_cons, List.reverse_cons, List.append_assoc,
          List.singleton_append]
        rfl
      cases mode with
      | strict =>
          rw [ending, same]
          rfl
      | recovering => exact congrArg Except.ok same
  | failure e rune =>
      cases mode with
      | strict => rfl
      | recovering =>
          have errors : (ScanStep.failure e rune :: steps).filterMap ScanStep.error? =
              e :: steps.filterMap ScanStep.error? := rfl
          rw [ending, finished, errors]
          simp only [List.map_cons, List.reverse_cons, List.append_assoc, List.singleton_append]
          rfl

/-- A scanner that has passed some characters takes one lexeme and goes on behind it. -/
theorem run_cons {c : Char} {rest after : List Char} {lexeme : Lexeme}
    (read : Lexeme.read c rest = (lexeme, after)) (passed : List Char) :
    run source (passed ++ c :: rest) mode (Lexeme.ranged (Utf8.size passed) (c :: rest))
        (past passed tokens errors) =
      match (past (passed ++ lexeme.chars) tokens errors).take mode
          (ScanStep.ofLexeme? source lexeme (Location.after passed)
            (Location.after (passed ++ lexeme.chars))) with
      | .error e => .ok (.error e)
      | .ok scanner =>
          run source (passed ++ lexeme.chars ++ after) mode
            (Lexeme.ranged (Utf8.size (passed ++ lexeme.chars)) after) scanner := by
  rw [Lexeme.ranged, run, read, ← Utf8.size_append, ← Lexeme.append_of_read read, step_past,
    List.append_assoc]
  cases take mode _ _ <;> rfl

/-- A scanner takes the course of the scan without checks. -/
theorem run_of_course {here finish : Cursor} {cs : List Char} {steps : List ScanStep}
    (course : ScanStep.Course source here cs steps finish) (passed : List Char)
    (reached : here = .after passed) (tokens : List Token) (errors : List ScanError) :
    run source (passed ++ cs) mode (Lexeme.ranged (Utf8.size passed) cs)
        (past passed tokens errors) =
      .ok ((past passed tokens errors).ending mode finish steps) := by
  induction course generalizing passed tokens errors with
  | finished here =>
      subst reached
      rw [Lexeme.ranged, run]
      cases mode <;> simp [ending, finished, past, Cursor.location_after]
  | @skipped here c rest after lexeme steps finish read blank later ih =>
      subst reached
      have moved := Cursor.advanceAll_after passed lexeme.chars
      rw [moved, Cursor.location_after, Cursor.location_after] at blank
      rw [run_cons read, blank]
      exact ih _ moved tokens errors
  | @taken here c rest after lexeme step steps finish read found later ih =>
      subst reached
      have moved := Cursor.advanceAll_after passed lexeme.chars
      rw [moved, Cursor.location_after, Cursor.location_after] at found
      rw [run_cons read, found, ending_cons]
      cases step with
      | token t => exact ih _ moved (t :: tokens) errors
      | failure e rune =>
          cases mode with
          | strict => rfl
          | recovering => exact ih _ moved (rune :: tokens) (e :: errors)

end Scanner

/-- A scanner that has taken all steps from the start holds the unit of the scan without checks. -/
theorem Scanner.unit_finished (name text : String) (finish : Cursor) (steps : List ScanStep) :
    (Scanner.origin.finished finish steps).unit name text =
      ⟨name, text, finish.lines, steps.map ScanStep.emitted⟩ := by
  rw [finished, unit, origin, List.append_nil, List.reverse_reverse]

/-- No check of a strict scan fails, and it comes to the scan without checks. -/
theorem scan_eq (name text : String) : scan name text = .ok (SourceUnit.scan name text) := by
  obtain ⟨steps, finish, course, -, scanned⟩ := SourceUnit.scan_eq_of_course name text
  have ended : Scanner.run name text.toList .strict (Lexeme.ranged 0 text.toList) .origin =
      .ok (Scanner.origin.ending .strict finish steps) :=
    Scanner.run_of_course course [] rfl [] []
  rw [scan, ended, scanned, Scanner.ending]
  cases (steps.filterMap ScanStep.error?).head? with
  | none => exact congrArg (fun unit => Except.ok (Except.ok unit)) (Scanner.unit_finished ..)
  | some e => rfl

/-- No check of a recovering scan fails, and it comes to the scan without checks. -/
theorem scanRecovering_eq (name text : String) :
    scanRecovering name text = .ok (SourceUnit.scanRecovering name text) := by
  obtain ⟨steps, finish, course, recovered, -⟩ := SourceUnit.scan_eq_of_course name text
  have ended : Scanner.run name text.toList .recovering (Lexeme.ranged 0 text.toList) .origin =
      .ok (.ok (Scanner.origin.finished finish steps)) :=
    Scanner.run_of_course course [] rfl [] []
  have errors : (Scanner.origin.finished finish steps).errors.reverse =
      steps.filterMap ScanStep.error? := by
    simp only [Scanner.finished, Scanner.origin, List.append_nil, List.reverse_reverse]
  rw [scanRecovering, ended, recovered]
  simp only [Scanner.unit_finished, errors]

end Guarded

end DeclLang
