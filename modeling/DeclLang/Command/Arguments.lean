import DeclLang.FrontEnd.Run
import DeclLang.Number.Decimal

/-!
# Command lines

A command line asks for the tokens or for the syntax tree of one file. It also says how much of the
trace is shown: each `-v` shows more and each `-q` less. A command line that cannot be followed is
refused with one reason; asking for help or for the version is such a reason.
-/

namespace DeclLang

/-- How much of the trace is shown, from nothing to everything. -/
inductive Verbosity
  | off
  | error
  | info
  | debug
  | trace
  deriving DecidableEq

namespace Verbosity

/-- The verbosity for a balance of requests for more and for less. -/
def ofBalance (more less : Nat) : Verbosity :=
  if less + 1 < more then .trace
  else if less < more then .debug
  else if more = less then .info
  else if less = more + 1 then .error
  else .off

end Verbosity

/-- What a command line asks for. -/
inductive Command
  | lex (file : String) (listing : Bool)
  | parse (file : String) (recover : Bool) (errorLimit : Nat) (timings : Bool)
  deriving DecidableEq

namespace Command

/-- The file that a command reads. -/
def file : Command → String
  | .lex file _ => file
  | .parse file _ _ _ => file

end Command

/-- A command with the verbosity that was asked for. -/
structure Invocation where
  command : Command
  verbosity : Verbosity
  deriving DecidableEq

/-- Why a command line is refused. -/
inductive UsageError
  | helpRequested
  | versionRequested
  | nothingRequested
  | missingCommand
  | unknownCommand
  | missingFile
  | unknownArgument
  | missingValue
  | malformedValue
  | unwantedValue
  | conflict
  deriving DecidableEq

namespace UsageError

/-- The answer to a request for the version. -/
def versionText : String :=
  "ist 0.1.0\n"

/-- The answer to a request for help. -/
def helpText : String :=
  "Scans and parses ist source files\n\n" ++
    "Usage: ist [-v...] [-q...] <COMMAND>\n\n" ++
    "Commands:\n" ++
    "  lex <FILE> [-d]                   Print the tokens of a file\n" ++
    "  parse <FILE> [-r] [-e LIMIT] [-t]  Print the parse tree of a file\n" ++
    "  help [COMMAND]                    Print this message\n"

end UsageError

/-! ## Reading command lines

Arguments are read from left to right. The switches before the command name belong to the program,
those after it to the command; `-v`, `-q` and the request for help are known in both places. Short
switches can share one dash, and the value of the one switch that has a value can follow it
directly, after an equals sign, or as the next argument. Two dashes end the switches.

The value of a switch and a file name are accepted only when the next switch or file name is met, or
at the end; an unknown switch is refused before that, whatever was pending. A command's own
arguments are checked before the program's. -/

/-- The switches of the program and of its commands. -/
inductive Switch
  | verbose
  | quiet
  | help
  | version
  | listing
  | recover
  | errorLimit
  | timings
  deriving DecidableEq

/-- The switches known at one place, by letter and by name. -/
structure SwitchSet where
  letters : List (Char × Switch)
  names : List (String × Switch)

namespace SwitchSet

/-- The switches before a command. -/
def program : SwitchSet :=
  ⟨[('v', .verbose), ('q', .quiet), ('h', .help), ('V', .version)],
    [("help", .help), ("version", .version)]⟩

/-- The switches of the command that shows tokens. -/
def lex : SwitchSet :=
  ⟨[('v', .verbose), ('q', .quiet), ('h', .help), ('d', .listing)],
    [("help", .help), ("debug", .listing)]⟩

/-- The switches of the command that shows the tree. -/
def parse : SwitchSet :=
  ⟨[('v', .verbose), ('q', .quiet), ('h', .help), ('r', .recover), ('e', .errorLimit),
      ('t', .timings)],
    [("help", .help), ("recover", .recover), ("error-limit", .errorLimit),
      ("timings", .timings)]⟩

end SwitchSet

/-- What an argument looks like. -/
inductive ArgumentShape
  | endOfSwitches
  | long (name : String) (value : Option String)
  | short (letters : List Char)
  | plain
  deriving DecidableEq

namespace ArgumentShape

/-- The shape of an argument; a single dash is plain. -/
def of (argument : String) : ArgumentShape :=
  match argument.toList with
  | ['-', '-'] => .endOfSwitches
  | '-' :: '-' :: rest =>
      .long (String.ofList (rest.takeWhile (· != '=')))
        (match rest.dropWhile (· != '=') with
        | [] => none
        | _ :: value => some (String.ofList value))
  | '-' :: letter :: letters => .short (letter :: letters)
  | _ => .plain

end ArgumentShape

/-- What was read last and is not accepted yet: a limit, whose value may still be missing, or a file
name. -/
inductive PendingValue
  | nothing
  | limit (value : Option String)
  | file (name : String)
  deriving DecidableEq

/-- The arguments accepted so far, and the pending one. -/
structure ArgumentState where
  verbose : Nat
  quiet : Nat
  listing : Bool
  recover : Bool
  timings : Bool
  errorLimit : Option Nat
  file : Option String
  pending : PendingValue
  deriving DecidableEq

namespace ArgumentState

/-- No arguments. -/
def start : ArgumentState :=
  ⟨0, 0, false, false, false, none, none, .nothing⟩

/-- How often a counted switch is counted at most. -/
def greatestCount : Nat := 255

/-- The number that the value of a limit writes: digits, perhaps after a plus sign, below two to the
power 64. -/
def readLimit? (value : String) : Option Nat :=
  let digits :=
    match value.toList with
    | '+' :: digits => digits
    | digits => digits
  if digits.isEmpty || !digits.all Char.isDigit then none
  else
    let limit := digitsValue 10 digits
    if limit < Nat.pow 2 64 then some limit else none

/-- Accepts the value of a limit, which may be given only once. -/
def acceptLimit (value : String) (state : ArgumentState) : Except UsageError ArgumentState :=
  match state.errorLimit, readLimit? value with
  | some _, _ => .error .conflict
  | none, none => .error .malformedValue
  | none, some limit => .ok { state with errorLimit := some limit }

/-- Accepts what is pending. -/
def settle (state : ArgumentState) : Except UsageError ArgumentState :=
  let settled := { state with pending := .nothing }
  match state.pending with
  | .nothing => .ok settled
  | .limit none => .error .missingValue
  | .limit (some value) => acceptLimit value settled
  | .file "" => .error .missingValue
  | .file name => .ok { settled with file := some name }

/-- Accepts a switch without a value. -/
def acceptSwitch (switch : Switch) (state : ArgumentState) : Except UsageError ArgumentState :=
  match switch with
  | .help => .error .helpRequested
  | .version => .error .versionRequested
  | .verbose => .ok { state with verbose := min greatestCount (state.verbose + 1) }
  | .quiet => .ok { state with quiet := min greatestCount (state.quiet + 1) }
  | .listing => if state.listing then .error .conflict else .ok { state with listing := true }
  | .recover => if state.recover then .error .conflict else .ok { state with recover := true }
  | .timings => if state.timings then .error .conflict else .ok { state with timings := true }
  | .errorLimit => .ok { state with pending := .limit none }

/-- Reads the switch of a name, with the value after its equals sign, if any. -/
def readLong (known : SwitchSet) (name : String) (value : Option String)
    (state : ArgumentState) : Except UsageError ArgumentState :=
  match known.names.lookup name, value with
  | none, _ => .error .unknownArgument
  | some .errorLimit, some value => do acceptLimit value (← state.settle)
  | some _, some _ => .error .unwantedValue
  | some switch, none => do acceptSwitch switch (← state.settle)

/-- Reads switches that share a dash; a value takes all the letters after its switch. -/
def readShort (known : SwitchSet) : List Char → ArgumentState → Except UsageError ArgumentState
  | [], state => .ok state
  | letter :: letters, state =>
      match known.letters.lookup letter, letters with
      | none, _ => .error .unknownArgument
      | some .errorLimit, '=' :: value => do acceptLimit (String.ofList value) (← state.settle)
      | some .errorLimit, first :: value => do
          acceptLimit (String.ofList (first :: value)) (← state.settle)
      | some switch, letters => do
          readShort known letters (← acceptSwitch switch (← state.settle))

/-- Reads a file name, of which there is only one. -/
def readFile (name : String) (state : ArgumentState) : Except UsageError ArgumentState :=
  match state.file, state.pending with
  | some _, _ => .error .unknownArgument
  | none, .file _ => .error .unknownArgument
  | none, _ => do return { (← state.settle) with pending := .file name }

/-- Reads a plain argument: the value that is waited for, or a file name. -/
def readPlain (argument : String) (state : ArgumentState) : Except UsageError ArgumentState :=
  if state.pending = .limit none then .ok { state with pending := .limit (some argument) }
  else readFile argument state

/-- Reads the arguments of a command; after the end of the switches all are plain. -/
def readAll (known : SwitchSet) (plainOnly : Bool) (state : ArgumentState) :
    List String → Except UsageError ArgumentState
  | [] => state.settle
  | argument :: rest =>
      if plainOnly then do readAll known true (← state.readFile argument) rest
      else
        match ArgumentShape.of argument with
        | .endOfSwitches => readAll known true state rest
        | .long name value => do readAll known false (← state.readLong known name value) rest
        | .short letters => do readAll known false (← readShort known letters state) rest
        | .plain => do readAll known false (← state.readPlain argument) rest

/-- Whether more and less of the trace are asked for at one place. -/
def contradictory (state : ArgumentState) : Bool :=
  decide (0 < state.verbose) && decide (0 < state.quiet)

/-- The state of a command whose arguments make sense, with its file. -/
def validate (state : ArgumentState) : Except UsageError (ArgumentState × String) :=
  if state.contradictory then .error .conflict
  else
    match state.file with
    | none => .error .missingFile
    | some file => .ok (state, file)

/-- How often a counted switch counts: as often as the command has it, or else the program. -/
def effectiveCount (program command : Nat) : Nat :=
  if 0 < command then command else program

end ArgumentState

namespace CommandLine

/-- The names of the commands that work on a file. -/
inductive CommandName
  | lex
  | parse
  deriving DecidableEq

namespace CommandName

/-- The command of a name. -/
def of? : String → Option CommandName
  | "lex" => some .lex
  | "parse" => some .parse
  | _ => none

/-- The switches of a command. -/
def switches : CommandName → SwitchSet
  | .lex => .lex
  | .parse => .parse

/-- The command with its arguments. -/
def build (name : CommandName) (file : String) (state : ArgumentState) : Command :=
  match name with
  | .lex => .lex file state.listing
  | .parse =>
      .parse file state.recover (state.errorLimit.getD Config.defaultErrorLimit) state.timings

end CommandName

/-- Reads the arguments of a command, after those of the program. -/
def readCommand (name : CommandName) (program : ArgumentState) (arguments : List String) :
    Except UsageError Invocation := do
  let read ← ArgumentState.readAll name.switches false .start arguments
  let (command, file) ← read.validate
  if program.contradictory then .error .conflict
  else
    return ⟨name.build file command,
      Verbosity.ofBalance (ArgumentState.effectiveCount program.verbose command.verbose)
        (ArgumentState.effectiveCount program.quiet command.quiet)⟩

/-- The answer to a request for help on the commands that are named; no command has commands of its
own. -/
def helpOn : List String → UsageError
  | [] => .helpRequested
  | [name] =>
      if (CommandName.of? name).isSome || name == "help" then .helpRequested else .unknownCommand
  | _ :: _ :: _ => .unknownCommand

/-- The answer when no command is named. -/
def withoutCommand (program : ArgumentState) : UsageError :=
  if program.verbose = 0 ∧ program.quiet = 0 then .nothingRequested else .missingCommand

/-- The answer to a plain argument after the end of the program's switches, where a command is no
longer looked for. -/
def afterSwitches (argument : String) : UsageError :=
  if (CommandName.of? argument).isSome || argument == "help" then .unknownArgument
  else .unknownCommand

/-- Reads the arguments of the program, up to a command. -/
def readProgram (state : ArgumentState) : List String → Except UsageError Invocation
  | [] => .error (withoutCommand state)
  | argument :: rest =>
      match CommandName.of? argument with
      | some name => readCommand name state rest
      | none =>
          if argument = "help" then .error (helpOn rest)
          else
            match ArgumentShape.of argument with
            | .long name value => do readProgram (← state.readLong .program name value) rest
            | .short letters => do
                readProgram (← ArgumentState.readShort .program letters state) rest
            | .plain => .error .unknownCommand
            | .endOfSwitches =>
                match rest with
                | [] => .error (withoutCommand state)
                | next :: _ => .error (afterSwitches next)

/-- Reads a command line without the name of the program. -/
def read (arguments : List String) : Except UsageError Invocation :=
  readProgram .start arguments

end CommandLine

end DeclLang
