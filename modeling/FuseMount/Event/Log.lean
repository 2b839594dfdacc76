import FuseMount.Event.Filter
import FuseMount.Json.Basic
import FuseMount.Run
import FuseMount.Settings

/-!
# Logs

What a log shows of events: one line for each event that the filter lets through. In the format
`json` a line is an object with the members in order of their names; the other formats are for
people.
-/

namespace FuseMount

/-- A value of an event as JSON. -/
def EventValue.toJson : EventValue → Json
  | .text s => .string s
  | .number n => .number (.integer n)

namespace Event

/-- An event as JSON. Its message is one of the fields. -/
def toJson (e : Event) : Json :=
  let fields := ("message", .string e.message) :: e.fields.map fun (name, v) => (name, v.toJson)
  .object [("fields", .object (Json.sortMembers fields)), ("level", .string e.level.name),
    ("target", .string e.target)]

/-- An event in one line of text. -/
def text (e : Event) : String :=
  e.level.name ++ " " ++ e.target ++ ": " ++ e.message ++
    String.join (e.fields.map fun (name, v) => " " ++ name ++ "=" ++ v.render)

/-- The line for an event in a log. -/
def line (format : LogFormat) (e : Event) : String :=
  match format with
  | .json => e.toJson.render ++ "\n"
  | .compact | .pretty => e.text ++ "\n"

end Event

/-- How events are logged. -/
structure Log where
  /-- Which events are shown. -/
  filter : Filter
  /-- How they are shown. -/
  format : LogFormat
  deriving DecidableEq, Repr

namespace Log

/-- The filter for a log of which nothing is said. -/
def defaultFilter : Filter where
  directives :=
    [{ target := "mountkit_cli", limit := some .info },
      { target := "mountkit_mount", limit := some .info }]

/-- What a log shows of an effect: an event becomes a line on the standard error or nothing, and all
else stays. -/
def show? (log : Log) : Effect → Option Effect
  | .event e => if log.filter.passes e then some (.diagnostic (e.line log.format)) else none
  | effect => some effect

/-- A computation whose events go to a log. -/
def write {α : Type} (log : Log) (r : Run α) : Run α :=
  ⟨r.value, r.effects.filterMap log.show?⟩

end Log

end FuseMount
