/-!
# Log events

What a running command reports about itself: events with a level, the part of the program they come
from, a message and named values. Which events are shown is decided by a filter
(`FuseMount.Event.Filter`).
-/

namespace FuseMount

/-- How grave or how detailed an event is, from the gravest level to the most detailed one. -/
inductive Level where
  | error
  | warn
  | info
  | debug
  | trace
  deriving DecidableEq, Repr

namespace Level

/-- The place of a level, 1 for the gravest one. -/
def rank : Level → Nat
  | error => 1
  | warn => 2
  | info => 3
  | debug => 4
  | trace => 5

/-- The name of a level in a log. -/
def name : Level → String
  | error => "ERROR"
  | warn => "WARN"
  | info => "INFO"
  | debug => "DEBUG"
  | trace => "TRACE"

end Level

/-- A value that an event names. -/
inductive EventValue where
  | text (s : String)
  | number (n : Nat)
  deriving DecidableEq, Repr

/-- A value as text. -/
def EventValue.render : EventValue → String
  | .text s => s
  | .number n => n.repr

/-- An event of a running command. -/
structure Event where
  /-- How grave or how detailed the event is. -/
  level : Level
  /-- The part of the program that reports it. -/
  target : String
  /-- What happened. -/
  message : String
  /-- Named values that belong to it. -/
  fields : List (String × EventValue)
  deriving DecidableEq, Repr

end FuseMount
