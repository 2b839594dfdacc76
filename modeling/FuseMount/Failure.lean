import FuseMount.Text.Terminal
import FuseMount.TextMap

/-!
# Failures

A failed command is explained by a chain of causes: what failed, and below it why, down to the first
cause. Every cause is a message with named values.

* `Failure.trace` writes the chain down, one line per message and per value.
* `Failure.printed` is what an error stream that is no terminal shows of it; there the control
  characters are left out.
* `AnyError` is an error that need not be a failure: it has messages, but no values.
  `AnyError.toFailure` and `AnyError.intoFailure` make failures of such errors.
-/

namespace FuseMount

/-- One level of an explanation. -/
structure Cause where
  /-- What went wrong. -/
  message : String
  /-- Values that belong to the message, by their names. -/
  values : TextMap := ∅
  deriving DecidableEq

/-- Why a command failed: the outermost cause, and those below it in order. -/
structure Failure where
  /-- The outermost cause. -/
  head : Cause
  /-- The causes below it. -/
  sources : List Cause := []
  deriving DecidableEq

namespace Failure

/-- A failure with a message alone. -/
def ofMessage (message : String) : Failure := ⟨⟨message, ∅⟩, []⟩

/-- The failure with a value added to its outermost cause. -/
def note (f : Failure) (name value : String) : Failure :=
  { f with head := { f.head with values := f.head.values.insert name value } }

/-- All causes, the outermost one first. -/
def causes (f : Failure) : List Cause := f.head :: f.sources

/-- The outermost message. -/
def message (f : Failure) : String := f.head.message

/-- All messages, the outermost one first. -/
def messages (f : Failure) : List String := f.causes.map Cause.message

/-- The failure with a new outermost cause, which it is the source of. -/
def under (f : Failure) (message : String) : Failure := ⟨⟨message, ∅⟩, f.causes⟩

end Failure

/-! ## Writing a failure down -/

/-- The lines for one cause. -/
def Cause.trace (cause : Cause) : String :=
  "-> " ++ cause.message ++ "\n" ++
    String.join (cause.values.entries.map fun (name, value) =>
      "   " ++ name ++ " = " ++ value ++ "\n")

/-- The lines for a whole chain. -/
def Failure.trace (f : Failure) : String :=
  String.join (f.causes.map Cause.trace)

/-- The lines for one cause as parts for a terminal: arrows are red, names blue and values green. -/
def Cause.lines (cause : Cause) : List (List String) :=
  (Terminal.coloured .red "->" ++ [" ", cause.message, "\n"]) ::
    cause.values.entries.map fun (name, value) =>
      ["   "] ++ Terminal.coloured .blue name ++ [" = "] ++ Terminal.coloured .green value ++ ["\n"]

/-- What an error stream that is no terminal shows of a failure. -/
def Failure.printed (f : Failure) : String :=
  String.join ((f.causes.flatMap Cause.lines).map Terminal.plain)

/-! ## Errors of other kinds -/

/-- An error of any kind. -/
inductive AnyError where
  /-- A failure. -/
  | failure (f : Failure)
  /-- An error that has only a message. -/
  | plain (message : String)
  /-- An error that has a message and a source. -/
  | wrapped (message : String) (source : AnyError)
  deriving DecidableEq

namespace AnyError

/-- The messages of an error, from the outermost one down. -/
def messages : AnyError → List String
  | failure f => f.messages
  | plain message => [message]
  | wrapped message source => message :: source.messages

/-- The failure with the same messages as an error, and without values. -/
def toFailure : AnyError → Failure
  | failure f => ⟨⟨f.head.message, ∅⟩, f.sources.map fun cause => ⟨cause.message, ∅⟩⟩
  | plain message => .ofMessage message
  | wrapped message source => source.toFailure.under message

/-- The failure that an error is, or else the one with the same messages. -/
def intoFailure : AnyError → Failure
  | failure f => f
  | e => e.toFailure

end AnyError

end FuseMount
