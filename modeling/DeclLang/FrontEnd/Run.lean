import DeclLang.Scan.Unit
import DeclLang.Syntax.Error
import DeclLang.Syntax.Parse
import DeclLang.Syntax.Recovery
import DeclLang.Syntax.Tree

/-!
# Running the front end

A run scans a text and parses its tokens under a configuration. It either stops at its first error
or recovers from errors up to a limit, which is at least one. With recovery both phases draw on that
limit: the errors of the scan count first, and the tokens are parsed only if some of the limit is
left.

A run is complete, or it has a tree that leaves out the parts of the source at fault, or it has
failed at one error. Errors keep the phase that found them.
-/

namespace DeclLang

/-- How a run treats errors, and whether it announces its phases. -/
structure Config where
  recover : Bool
  errorLimit : Nat
  timings : Bool
  errorLimit_pos : 0 < errorLimit
  deriving DecidableEq

namespace Config

/-- The limit of errors when none is asked for. -/
def defaultErrorLimit : Nat := 32

/-- A configuration; a limit of zero counts as one. -/
def ofOptions (recover : Bool) (errorLimit : Nat) (timings : Bool) : Config :=
  ⟨recover, max errorLimit 1, timings, Nat.le_max_right errorLimit 1⟩

/-- A run stops at the first error unless asked otherwise. -/
def default : Config :=
  ofOptions false defaultErrorLimit false

end Config

/-- An error of either phase. -/
inductive SourceError
  | scan (error : ScanError)
  | parse (error : ParseError)
  deriving DecidableEq

namespace SourceError

/-- The code of an error. -/
def code : SourceError → String
  | .scan e => e.code
  | .parse e => e.code

/-- The title of an error. -/
def title : SourceError → String
  | .scan e => e.title
  | .parse e => e.title

/-- Where an error starts. -/
def position : SourceError → Position
  | .scan e => e.position
  | .parse e => e.position

/-- The error in one line. -/
def message : SourceError → String
  | .scan e => e.message
  | .parse e => e.message

/-- The error as it is reported on its source. -/
def diagnostic (coloured : Bool) : SourceError → Diagnostic
  | .scan e => e.diagnostic coloured
  | .parse e => e.diagnostic coloured

end SourceError

/-- How a run ends. -/
inductive Outcome
  | complete (unit : SourceUnit) (tree : Tree)
  | incomplete (unit : SourceUnit) (tree : Tree) (errors : List SourceError)
  | failed (error : SourceError)
  deriving DecidableEq

namespace Outcome

/-- Whether a run is complete. -/
def isComplete : Outcome → Bool
  | .complete _ _ => true
  | _ => false

/-- The scanned unit and the tree, unless the run failed. -/
def value? : Outcome → Option (SourceUnit × Tree)
  | .complete unit tree => some (unit, tree)
  | .incomplete unit tree _ => some (unit, tree)
  | .failed _ => none

/-- The errors of a run. -/
def errors : Outcome → List SourceError
  | .complete _ _ => []
  | .incomplete _ _ errors => errors
  | .failed e => [e]

end Outcome

namespace FrontEnd

/-- A run that stops at the first error. -/
def runStrict (name text : String) : Except Fault Outcome :=
  match SourceUnit.scan name text with
  | .error e => .ok (.failed (.scan e))
  | .ok unit =>
      (Tree.parse name unit.tokens).map fun parsed =>
        match parsed with
        | .error e => .failed (.parse e)
        | .ok tree => .complete unit tree

/-- The errors of a scan that count against a limit. -/
def countedErrors (limit : Nat) (scanErrors : List ScanError) : List SourceError :=
  (scanErrors.take limit).map SourceError.scan

/-- The outcome with a unit, a tree and the errors found on the way. -/
def conclude (unit : SourceUnit) (tree : Tree) (errors : List SourceError) : Outcome :=
  if errors.isEmpty then .complete unit tree else .incomplete unit tree errors

/-- A run that recovers from errors up to a limit. -/
def runRecovering (limit : Nat) (name text : String) : Except Fault Outcome :=
  match SourceUnit.scanRecovering name text with
  | (unit, scanErrors) =>
      let counted := countedErrors limit scanErrors
      if counted.length < limit then
        (Tree.parseRecovering name unit.tokens (limit - counted.length)).map fun parsed =>
          conclude unit parsed.1 (counted ++ parsed.2.map SourceError.parse)
      else .ok (conclude unit ⟨name, []⟩ counted)

/-- Scans and parses a text. -/
def run (config : Config) (name text : String) : Except Fault Outcome :=
  if config.recover then runRecovering config.errorLimit name text else runStrict name text

end FrontEnd

end DeclLang
