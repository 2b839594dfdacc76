/-!
# Faults of a command line

Why the arguments of a command do not make it run: because they are wrong, or because they ask for
something else than a run, such as help.
-/

namespace FuseMount.CommandLine

/-- Why a value is refused. -/
inductive ValueFault where
  /-- It is empty, where it must not be. -/
  | empty
  /-- It is not UTF-8, where a text is needed. -/
  | notText
  /-- It does not stand for anything, for a reason that is given. -/
  | invalid (reason : String)
  deriving DecidableEq, Repr

/-- Why arguments do not make a command run. Arguments are named as messages show them, for instance
`--path <PATH>`. -/
inductive Fault where
  /-- Help is asked for. -/
  | help
  /-- The version is asked for. -/
  | version
  /-- There are no arguments at all. -/
  | nothingGiven
  /-- There is no command among the arguments. -/
  | missingCommand
  /-- A word that should be a command is none. -/
  | unknownCommand (text : String)
  /-- There is no such option, or no place for an operand. -/
  | unknownArgument (text : String)
  /-- A switch is given a value. -/
  | unneededValue (argument : String)
  /-- An option has no value, or an empty one where it must not be empty. -/
  | missingValue (argument : String)
  /-- An argument is given twice that may be given once. -/
  | repeated (argument : String)
  /-- A value that should be a text is not UTF-8. -/
  | notText
  /-- A value does not stand for anything. -/
  | invalidValue (argument reason : String)
  /-- An operand is missing. -/
  | missingOperand (argument : String)
  deriving DecidableEq, Repr

/-- What is wrong with an argument whose value is refused. -/
def ValueFault.of (argument : String) : ValueFault → Fault
  | .empty => .missingValue argument
  | .notText => .notText
  | .invalid reason => .invalidValue argument reason

/-- The wording of a fault. -/
def Fault.message : Fault → String
  | .help => "help is asked for"
  | .version => "the version is asked for"
  | .nothingGiven | .missingCommand => "a command is missing"
  | .unknownCommand text => "unknown command '" ++ text ++ "'"
  | .unknownArgument text => "unexpected argument '" ++ text ++ "'"
  | .unneededValue argument => "no value is expected for '" ++ argument ++ "'"
  | .missingValue argument => "a value is required for '" ++ argument ++ "'"
  | .repeated argument => "'" ++ argument ++ "' cannot be given twice"
  | .notText => "an argument is not UTF-8"
  | .invalidValue argument reason => "invalid value for '" ++ argument ++ "': " ++ reason
  | .missingOperand argument => "'" ++ argument ++ "' is missing"

end FuseMount.CommandLine
