import DeclLang.Command.Arguments
import DeclLang.Command.Execute

/-!
# The program

Reads the command line and the file, carries out the command, prints its result, and reports errors
and the log on the standard error stream.
-/

namespace DeclLang

namespace Program

/-- The contents of the file at a path, or why there are none. A directory shows itself when it is
read, with the number 21; a file on the way to another shows itself when that one is opened. -/
def readContents (path : String) : IO (Except ReadFailure String) := do
  try
    return ReadFailure.decode (← IO.FS.readBinFile path)
  catch failure =>
    match failure with
    | .noFileOrDirectory _ _ _ => return .error .missing
    | .inappropriateType _ 21 _ => return .error .folder
    | .inappropriateType _ _ _ => return .error .notFolder
    | .invalidArgument _ _ _ => return .error .nameTooLong
    | _ => return .error (.other (toString failure))

/-- Prints a report and answers the exit status. -/
def finish (report : Report) : IO UInt32 := do
  report.diagnostics.forM IO.eprintln
  IO.print report.printed
  report.causes.forM IO.eprintln
  return UInt32.ofNat report.status

end Program

end DeclLang

open DeclLang in
/-- Runs a command line. -/
def main (arguments : List String) : IO UInt32 := do
  match CommandLine.read arguments with
  | .error refusal =>
      let report := Report.refusal refusal
      if report.status ≠ 0 then
        IO.eprint UsageError.helpText
      Program.finish report
  | .ok invocation =>
      let contents ← Program.readContents invocation.command.file
      match contents with
      | .ok text => (invocation.log text).forM IO.eprintln
      | .error _ => pure ()
      let coloured ← (← IO.getStdout).isTty
      match Command.execute coloured invocation.command contents with
      | .ok report => Program.finish report
      | .error _ => return 101
