import DeclLang.Command.Arguments
import DeclLang.Command.Directory
import DeclLang.Command.Printing
import DeclLang.FrontEnd.Run
import DeclLang.Trace

/-!
# Carrying out commands

A command reads its file and prints the tokens or the tree. The errors of the source are reported
with a heading and a place each, and the command then ends with a summary as its failure. Tokens are
printed in spite of scan errors; a tree is printed unless the run failed.
-/

namespace DeclLang

/-- What a command leaves behind: its exit status, the text that it prints, the lines that report
errors of the source, and the causes of its failure, outermost first. -/
structure Report where
  status : Nat
  printed : String
  diagnostics : List String
  causes : List String
  deriving DecidableEq

namespace Report

/-- The report of a command that succeeds. -/
def success (printed : String) : Report :=
  ⟨0, printed, [], []⟩

/-- The report of a command that fails. -/
def failure (printed : String) (diagnostics causes : List String) : Report :=
  ⟨1, printed, diagnostics, causes⟩

/-- The report on a command line that is refused; a request for help or the version is answered
instead. -/
def refusal : UsageError → Report
  | .helpRequested => success UsageError.helpText
  | .versionRequested => success UsageError.versionText
  | _ => ⟨2, "", [], []⟩

end Report

namespace Diagnostic

/-- The heading of a diagnostic and the place in a text of its first label, if it has one. -/
def lines (name : String) (table : LineTable) (text : String) (d : Diagnostic) : List String :=
  d.heading ::
    match d.labels.head?.bind fun label => table.displayLocation? text.toList label.start with
    | some (line, column) => [name ++ ":" ++ toString line ++ ":" ++ toString column]
    | none => []

end Diagnostic

namespace Command

/-- The lines that report some errors on a scanned unit. -/
def unitDiagnostics (unit : SourceUnit) (errors : List Diagnostic) : List String :=
  errors.flatMap (Diagnostic.lines unit.name unit.lines unit.text)

/-- Prints the tokens of a text, as a listing or as the painted source. -/
def executeLex (coloured : Bool) (name text : String) (listing : Bool) : Except Fault Report :=
  match SourceUnit.scanRecovering name text with
  | (unit, errors) => do
      let printed ←
        if listing then pure (Token.listing unit.tokens)
        else (unit.painted coloured).map fun source => source ++ "\n"
      if errors.isEmpty then return .success printed
      else
        return .failure printed
          (unitDiagnostics unit (errors.map (ScanError.diagnostic coloured)))
          [toString errors.length ++ " scan error(s) in `" ++ name ++ "`"]

/-- A printed tree. -/
def printedTree (tree : Tree) : String :=
  tree.outline.render 0 ++ "\n"

/-- Prints the tree of a text. A failed run has no unit, so its error is placed by the text. -/
def executeParse (coloured : Bool) (name text : String) (config : Config) :
    Except Fault Report :=
  (FrontEnd.run config name text).map fun outcome =>
    match outcome with
    | .complete _ tree => .success (printedTree tree)
    | .incomplete unit tree errors =>
        .failure (printedTree tree)
          (unitDiagnostics unit (errors.map (SourceError.diagnostic coloured)))
          [toString errors.length ++ " error(s) in `" ++ name ++ "`"]
    | .failed e =>
        .failure ""
          ((e.diagnostic coloured).lines name (LineTable.ofText text.toList) text)
          ["could not parse `" ++ name ++ "`"]

/-- The configuration that a command asks for. -/
def config : Command → Config
  | .lex _ _ => .default
  | .parse _ recover errorLimit timings => .ofOptions recover errorLimit timings

/-- Carries out a command on the contents of its file. -/
def execute (coloured : Bool) (command : Command) (contents : Except ReadFailure String) :
    Except Fault Report :=
  match contents with
  | .error failure =>
      .ok (.failure "" [] ["could not read `" ++ command.file ++ "`", failure.message])
  | .ok text =>
      match command with
      | .lex file listing => executeLex coloured file text listing
      | .parse file _ _ _ => executeParse coloured file text command.config

end Command

/-! ## Logs of commands

While a command works, the events of its run that the verbosity lets through are logged, one line
each. -/

namespace Verbosity

/-- Whether events of a level are logged. -/
def shows : Verbosity → EventLevel → Bool
  | .off, _ | .error, _ => false
  | .info, level => level == .info
  | .debug, level => level != .trace
  | .trace, _ => true

end Verbosity

namespace Event

/-- An event in one line. -/
def line (event : Event) : String :=
  event.level.text ++ " " ++ event.message ++
    String.join (event.fields.map fun field => " " ++ field.1 ++ "=" ++ field.2)

end Event

namespace Invocation

/-- The events of carrying out a command on a text. -/
def events (invocation : Invocation) (text : String) : List Event :=
  match invocation.command with
  | .lex file _ => SourceUnit.recoveringEvents file text
  | .parse file _ _ _ => FrontEnd.events invocation.command.config file text

/-- The lines that are logged while a command works on a text. -/
def log (invocation : Invocation) (text : String) : List String :=
  ((invocation.events text).filter fun event => invocation.verbosity.shows event.level).map
    Event.line

end Invocation

end DeclLang
