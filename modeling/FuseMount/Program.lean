import FuseMount.Event.Log
import FuseMount.Session

/-!
# The program

`Program.run` is the whole program as a function: from the host and the arguments to the exit code,
with what is printed and which other programs are started on the way.

The exit code is 0 if all went well, also for help and the version, 2 for wrong arguments, and 1 for
any other failure. A filter for events that cannot be cut into its parts is not taken for a failure:
the program panics over it, and ends with 101.
-/

namespace FuseMount.Program

open CommandLine (Fault)

/-- The line that tells the version. -/
def version : String := "mountkit 0.0.0\n"

/-- The text that tells how the program is used. It stands for all such texts: those about a single
command, which tell of its options and arguments, are not told apart from it. -/
def usage : String :=
  "Build FUSE mount option strings and unmount file systems.\n\n" ++
    "Usage: mountkit [OPTIONS] <COMMAND>\n\n" ++
    "Commands:\n" ++
    "  init-flags  Print the init flags a mount requests from the kernel\n" ++
    "  options     Print the options string for a mount\n" ++
    "  unmount     Unmount a file system\n\n" ++
    "Options:\n" ++
    "  -c, --config <CONFIG>    The path to the config file [env: MOUNTKIT_CONFIG]\n" ++
    "      --tracing <TRACING>  Override the tracing filter [env: MOUNTKIT_TRACING]\n" ++
    "  -h, --help               Print help\n" ++
    "  -V, --version            Print version\n"

/-- What the program prints when it does not run a command, and its exit code. -/
def refuse : Fault → Run Nat
  | .help => do
    Run.print usage
    return 0
  | .version => do
    Run.print version
    return 0
  | .nothingGiven => do
    Run.printDiagnostic usage
    return 2
  | fault => do
    Run.printDiagnostic ("error: " ++ fault.message ++ "\n\n" ++ usage)
    return 2

/-- Reports a failure to the user. -/
def explain (f : Failure) : Run Nat := do
  Session.printLine .red "error" "failed to run the command"
  Run.printDiagnostic f.printed
  return 1

/-- The filter that a text spells. If it spells none, the user is warned and the default one is
taken, unless it cannot be read to its end. -/
def readFilter (text : String) : Run (Option Filter) :=
  match Filter.parse text with
  | .ok filter => pure (some filter)
  | .error (.fault e) => do
    Session.warn ("invalid tracing filter: " ++ e.message)
    return some Log.defaultFilter
  | .error .insideCharacter => pure none

/-- The text of the filter: the given one, or that of the settings' section on logging if there is
such a section, even if it gives none. -/
def filterText (given : Option String) (logging : Option Logging) : Option String :=
  given <|> logging.map (·.filter)

/-- The log of a run, or nothing if its filter cannot be read to the end. -/
def openLog (given : Option String) (logging : Option Logging) : Run (Option Log) := do
  let filter ← match filterText given logging with
    | some text => readFilter text
    | none => pure (some Log.defaultFilter)
  return filter.map fun filter => ⟨filter, (logging.bind (·.format)).getD default⟩

/-- The event for a failed command. -/
def failedEvent (f : Failure) : Event where
  level := .debug
  target := "mountkit"
  message := "the command failed"
  fields := [("trace", .text f.trace)]

/-- Runs a command to its end. -/
def runCommand (session : Session) (command : Command) : Run Nat := do
  match ← session.run command with
  | .ok () => return 0
  | .error f => do
    Run.report (failedEvent f)
    explain f

/-- The exit code of a program that panics. -/
def panicCode : Nat := 101

/-- Runs the program. What a panic writes to the standard error, with the place in the program where
it happened, is left out. -/
def run (host : Host) (arguments : List Bytes) : Run Nat :=
  match Invocation.parse host.environment arguments with
  | .error fault => refuse fault
  | .ok invocation =>
    match Session.start host invocation.config with
    | .error f => explain f
    | .ok session => do
      match ← openLog invocation.tracing session.logging with
      | some log => log.write (runCommand session invocation.command)
      | none => return panicCode

end FuseMount.Program
