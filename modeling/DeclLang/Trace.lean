import DeclLang.FrontEnd.Run
import DeclLang.Scan.Error
import DeclLang.Scan.Unit
import DeclLang.Syntax.Error
import DeclLang.Syntax.Parse
import DeclLang.Syntax.Recovery
import DeclLang.Text.Display
import DeclLang.Token

/-!
# Events of a run

While it works, the front end tells what it does: each token, each part of the grammar it tries,
each error it recovers from, and a summary of each phase. An event has a level, a message and named
fields.
-/

namespace DeclLang

/-- How much detail an event belongs to, from the least to the most. -/
inductive EventLevel
  | info
  | debug
  | trace
  deriving DecidableEq

namespace EventLevel

/-- The name of a level in listings. -/
def text : EventLevel → String
  | .info => "INFO"
  | .debug => "DEBUG"
  | .trace => "TRACE"

end EventLevel

/-- The two phases of a run. -/
inductive Phase
  | scan
  | parse
  deriving DecidableEq

namespace Phase

/-- The name of a phase in messages. -/
def text : Phase → String
  | .scan => "scan"
  | .parse => "parse"

end Phase

/-- The parts of the grammar that are tried at a token. -/
inductive Production
  | declaration
  | typeDeclaration
  | variableDeclaration
  | typeReference
  | expression
  deriving DecidableEq

namespace Production

/-- The name of a part of the grammar in messages. -/
def text : Production → String
  | .declaration => "declaration"
  | .typeDeclaration => "type declaration"
  | .variableDeclaration => "variable declaration"
  | .typeReference => "type reference"
  | .expression => "expression"

end Production

/-- Something that the front end does. -/
inductive Event
  | started (source : String) (recover : Bool)
  | emitted (token : Token)
  | scanErrorPassed (error : ScanError)
  | scanned (source : String) (tokens lines errors : Nat)
  | tried (production : Production) (index : Nat)
  | numberRead (text : String) (value : Numeral)
  | declarationCut (rune : Span)
  | parseErrorPassed (error : ParseError)
  | limitReached (limit : Nat)
  | resumed (index : Nat)
  | parsed (source : String) (declarations : Nat) (errors : Option Nat)
  | parsingSkipped (limit : Nat)
  | finished (phase : Phase) (source : String)
  deriving DecidableEq

namespace Event

/-- The level of an event. -/
def level : Event → EventLevel
  | .emitted _ | .tried _ _ | .numberRead _ _ | .declarationCut _ | .resumed _ => .trace
  | .finished _ _ => .info
  | _ => .debug

/-- The message of an event. -/
def message : Event → String
  | .started _ _ => "running front end"
  | .emitted t =>
      "[" ++ Text.alignRight 4 (toString t.span.start.offset) ++ ":" ++
        Text.alignRight 4 (toString t.span.finish.offset) ++ ":" ++
        Text.alignRight 10 t.kind.text ++ "] `" ++ t.text ++ "`"
  | .scanErrorPassed e => "recovering from scan error: " ++ e.message
  | .scanned _ _ _ _ => "scanned source unit"
  | .tried production _ => production.text
  | .numberRead _ _ => "number"
  | .declarationCut _ => "declaration stopped at a rune"
  | .parseErrorPassed e => "recovering from parse error: " ++ e.message
  | .limitReached _ => "stopping at the error limit"
  | .resumed _ => "synchronized"
  | .parsed _ _ _ => "parsed source unit"
  | .parsingSkipped _ => "error limit reached while scanning, not parsing"
  | .finished phase _ => phase.text ++ " finished"

/-- The named fields of an event. -/
def fields : Event → List (String × String)
  | .started source recover =>
      [("source", source), ("recover", if recover then "true" else "false")]
  | .emitted _ | .scanErrorPassed _ | .parseErrorPassed _ => []
  | .scanned source tokens lines errors =>
      [("source", source), ("tokens", toString tokens), ("lines", toString lines),
        ("errors", toString errors)]
  | .tried _ index | .resumed index => [("index", toString index)]
  | .numberRead text value => [("text", text), ("value", value.text)]
  | .declarationCut rune => [("at", rune.text)]
  | .limitReached limit | .parsingSkipped limit => [("limit", toString limit)]
  | .parsed source declarations errors =>
      [("source", source), ("declarations", toString declarations)] ++
        errors.toList.map fun count => ("errors", toString count)
  | .finished _ source => [("source", source)]

end Event

/-! ## Scans

A scan tells each token as it is emitted, a failed one after the error that it stands for, and ends
with a summary. A strict scan that fails has no summary. -/

namespace SourceUnit

/-- The events of one step. -/
def stepEvents : ScanStep → List Event
  | .token t => [.emitted t]
  | .failure e rune => [.scanErrorPassed e, .emitted rune]

/-- The summary of a scanned unit. -/
def summary (unit : SourceUnit) (errors : Nat) : Event :=
  .scanned unit.name unit.tokens.length unit.lines.size errors

/-- The events of a recovering scan. -/
def recoveringEvents (name text : String) : List Event :=
  let scanned := scanRecovering name text
  (recoveringSteps name text).1.flatMap stepEvents ++
    [scanned.1.summary scanned.2.length]

/-- The events of a strict scan. -/
def strictEvents (name text : String) : List Event :=
  (strictTokens name text).1.map Event.emitted ++
    match scan name text with
    | .ok unit => [unit.summary 0]
    | .error _ => []

end SourceUnit

/-! ## Parses

Reading a declaration tells each part of the grammar that is tried, at the index of the token it is
tried at, and each number that is read. Which parts are tried depends only on the tokens. A parse
ends with a summary, unless it fails. -/

namespace Tree

/-- The events of reading a value, at the token after the equals sign. -/
def valueEvents (index : Nat) (tokens : List Token) : List Event :=
  .tried .expression index ::
    match tokens with
    | number :: _ =>
        if number.kind = .number then
          match Numeral.read number.text with
          | .ok value => [.numberRead number.text value]
          | .error _ => []
        else []
    | [] => []

/-- The events of reading a declaration from the token at an index. -/
def readingEvents (index : Nat) (first : Token) (rest : List Token) : List Event :=
  [.tried .declaration index, .tried .typeDeclaration index] ++
    if first.kind = .identifier then
      [.tried .variableDeclaration index, .tried .typeReference (index + 1)] ++
        match rest with
        | type :: equals :: value =>
            if type.kind = .identifier && Reading.assigns equals then
              valueEvents (index + 3) value
            else []
        | _ => []
    else []

/-- The events of reading declarations from the token at an index on, after those of the readings
already `done`, latest reading first. -/
def readAllEvents (done : List (List Event)) (index : Nat) (tokens : List Token) : List Event :=
  match tokens with
  | [] => done.reverse.flatten
  | first :: rest =>
      let told := readingEvents index first rest :: done
      match Reading.read first rest with
      | .ok (.declared _ taken) =>
          readAllEvents told (index + 1 + (taken - 1)) (rest.drop (taken - 1))
      | _ => told.reverse.flatten
termination_by tokens.length
decreasing_by
  simp only [List.length_drop, List.length_cons]
  omega

/-- The events of a parse that stops at the first error. -/
def parseEvents (source : String) (tokens : List Token) : List Event :=
  readAllEvents [] 0 tokens ++
    match parse source tokens with
    | .ok (.ok tree) => [.parsed source tree.declarations.length none]
    | _ => []

/-- The events of one round of a recovering parse under a limit. -/
def roundEvents (limit : Nat) (round : Round) : List Event :=
  match round.ending with
  | .passed => []
  | .declared _ => readingEvents round.index round.first round.rest
  | .cut rune resumed =>
      readingEvents round.index round.first round.rest ++
        [.declarationCut rune.span, .resumed resumed]
  | .reported e resumed =>
      readingEvents round.index round.first round.rest ++ [.parseErrorPassed e, .resumed resumed]
  | .stopped e =>
      readingEvents round.index round.first round.rest ++
        [.parseErrorPassed e, .limitReached limit]

/-- The events of a recovering parse. -/
def recoveringEvents (source : String) (tokens : List Token) (limit : Nat) : List Event :=
  match recoveryRounds tokens limit with
  | .error _ => []
  | .ok rounds =>
      rounds.flatMap (roundEvents (max limit 1)) ++
        [.parsed source (rounds.filterMap Round.declaration?).length
          (some (rounds.filterMap Round.error?).length)]

end Tree

/-! ## Runs

A run tells the events of its phases in order. When timings are asked for, the end of each phase
that succeeds is told too. -/

namespace FrontEnd

/-- The announcement that a phase is finished, if timings are asked for. -/
def finishedEvents (config : Config) (phase : Phase) (name : String) : List Event :=
  if config.timings then [.finished phase name] else []

/-- The events of a run that stops at the first error. -/
def strictEvents (config : Config) (name text : String) : List Event :=
  SourceUnit.strictEvents name text ++
    match SourceUnit.scan name text with
    | .error _ => []
    | .ok unit =>
        finishedEvents config .scan name ++ Tree.parseEvents name unit.tokens ++
          match Tree.parse name unit.tokens with
          | .ok (.ok _) => finishedEvents config .parse name
          | _ => []

/-- The events of a run that recovers from errors. -/
def recoveringEvents (config : Config) (name text : String) : List Event :=
  SourceUnit.recoveringEvents name text ++ finishedEvents config .scan name ++
    match SourceUnit.scanRecovering name text with
    | (unit, scanErrors) =>
        let counted := (countedErrors config.errorLimit scanErrors).length
        if counted < config.errorLimit then
          Tree.recoveringEvents name unit.tokens (config.errorLimit - counted) ++
            finishedEvents config .parse name
        else [.parsingSkipped config.errorLimit]

/-- The events of a run. -/
def events (config : Config) (name text : String) : List Event :=
  .started name config.recover ::
    if config.recover then recoveringEvents config name text
    else strictEvents config name text

end FrontEnd

end DeclLang
