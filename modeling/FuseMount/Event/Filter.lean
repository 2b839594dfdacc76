import FuseMount.Event
import FuseMount.Pattern
import FuseMount.Text.Utf8

/-!
# Filters for events

A filter is a list of directives such as `warn`, `unmount=debug` or `unmount[{path}]=info`,
separated by commas. A directive is about the events whose target begins with its text and that have
its fields; it lets those through whose level is at least as grave as its own. Of the directives
that are about an event the most specific one decides; an event that none is about is not shown.

* `Filter.parse` reads a filter, `Filter.passes` applies it.
-/

namespace FuseMount

/-- The most detailed level that is let through, or nothing at all. -/
abbrev Limit := Option Level

namespace Limit

/-- The limits, each one at the place of the number that stands for it. -/
def all : List (String × Limit) :=
  [("off", none), ("error", some .error), ("warn", some .warn), ("info", some .info),
    ("debug", some .debug), ("trace", some .trace)]

/-- Whether a limit lets a level through. -/
def admits (limit : Limit) (level : Level) : Bool :=
  limit.any (level.rank ≤ ·.rank)

/-- The limit that a number or a name, in letters of either case, stands for. -/
def parse? (text : List Char) : Option Limit :=
  match Numeral.read 10 UInt64.size text with
  | .ok n => (all[n]?).map Prod.snd
  | .error _ =>
    (all.find? fun (name, _) => name.toList = text.map Char.toLower).map Prod.snd

end Limit

/-! ## Directives -/

/-- A demand on a field of an event. -/
structure FieldDemand where
  /-- The field that has to be there. -/
  name : String
  /-- The value it should have, if one is given. -/
  value : Option String
  deriving DecidableEq, Repr

/-- A rule of a filter. -/
structure Directive where
  /-- What the target of an event has to begin with. -/
  target : String := ""
  /-- The span that an event has to be in. -/
  span : Option String := none
  /-- The demands on the fields of an event. -/
  fields : List FieldDemand := []
  /-- What is let through. -/
  limit : Limit := some .trace
  deriving DecidableEq, Repr

namespace Directive

/-- Whether an event is one that a directive is about. No event is in a span, and the values of
fields are those of spans. -/
def concerns (d : Directive) (e : Event) : Bool :=
  d.span.isNone && d.target.toList.isPrefixOf e.target.toList &&
    d.fields.all fun field =>
      field.value.isNone && (field.name = "message" || e.fields.any (·.1 = field.name))

/-- Whether a directive is at least as specific as another one: by the length of its target, then by
the number of its fields, and then by the order of their names. -/
def isAsSpecificAs (d other : Directive) : Bool :=
  if d.target.length ≠ other.target.length then other.target.length < d.target.length
  else if d.fields.length ≠ other.fields.length then other.fields.length < d.fields.length
  else !decide (d.fields.map FieldDemand.name < other.fields.map FieldDemand.name)

/-- The most specific of some directives, and the later one of two that are equally specific. -/
def mostSpecific : List Directive → Option Directive
  | [] => none
  | d :: rest =>
    match mostSpecific rest with
    | some best => if best.isAsSpecificAs d then some best else some d
    | none => some d

end Directive

/-! ## Filters -/

/-- A filter: its directives in order. -/
structure Filter where
  directives : List Directive
  deriving DecidableEq, Repr

/-- Whether a filter lets an event through. -/
def Filter.passes (filter : Filter) (e : Event) : Bool :=
  (Directive.mostSpecific (filter.directives.filter (·.concerns e))).any (·.limit.admits e.level)

/-- Why a text is no filter. -/
inductive Filter.Fault where
  /-- A directive is not of the form `target[span\x7bfield=value\x7d]=level`. -/
  | badDirective
  /-- The value of a field is no pattern. -/
  | badPattern (fault : Pattern.Fault)
  /-- The level of a directive is none. -/
  | badLevel
  deriving DecidableEq, Repr

/-- The wording of a fault. -/
def Filter.Fault.message : Filter.Fault → String
  | .badDirective => "invalid filter directive"
  | .badPattern fault => "invalid field filter: " ++ fault.message
  | .badLevel =>
    "error parsing level filter: expected one of \"off\", \"error\", \"warn\", \"info\", " ++
      "\"debug\", \"trace\", or a number 0-5"

/-- Why reading a text does not come to a filter. -/
inductive Filter.Stop where
  /-- The text is no filter. -/
  | fault (fault : Filter.Fault)
  /-- A part of the text begins or ends inside a character. The program cannot cut it out, and
  panics. -/
  | insideCharacter
  deriving DecidableEq, Repr

/-- The demand that a text stands for. What comes after a second equals sign does not count. A value
that is a number stands for itself, and every other one is a pattern. -/
def FieldDemand.parse (text : String) : Except Filter.Fault FieldDemand :=
  let name := String.ofList (text.toList.takeWhile (· ≠ '='))
  match text.toList.dropWhile (· ≠ '=') with
  | [] => .ok { name, value := none }
  | _ :: rest =>
    let value := rest.takeWhile (· ≠ '=')
    let demand := { name, value := some (String.ofList value) }
    if Numeral.isReal value then .ok demand
    else
      match Pattern.check value with
      | .ok () => .ok demand
      | .error fault => .error (.badPattern fault)

namespace Directive

/-- What the characters that are being read belong to. -/
inductive Part where
  /-- Nothing has been read. -/
  | start
  /-- A level or a target. -/
  | name
  | span
  | field
  /-- After the fields. -/
  | fieldsEnd
  /-- After the span. -/
  | spanEnd
  | level
  deriving DecidableEq, Repr

/-- A directive that has been read in part. The parts are found in the text without the blanks
around it, but their bytes are taken from the same places of the whole text. -/
structure Reader where
  /-- What is known of the directive. -/
  directive : Directive := {}
  /-- The part that is being read. -/
  part : Part := .start
  /-- The bytes of the part so far, the last one first. -/
  bytes : Bytes := []
  /-- The bytes that have not been read. -/
  ahead : Bytes

/-- Reads a character of the part: as many bytes as it has. -/
def Reader.take (r : Reader) (c : Char) : Reader :=
  { r with
    bytes := (r.ahead.take c.utf8Size).reverse ++ r.bytes
    ahead := r.ahead.drop c.utf8Size }

/-- Passes over a mark, which is one byte, to the next part. -/
def Reader.enter (r : Reader) (part : Part) : Reader :=
  { r with part, bytes := [], ahead := r.ahead.tail }

/-- The text of a part, by its bytes and those after it. It has to begin and to end between
characters, also where it is empty. -/
def partText (bytes ahead : Bytes) : Except Filter.Stop String :=
  match Utf8.decode? bytes with
  | some text => if Utf8.isBoundary ahead then .ok text else .error .insideCharacter
  | none => .error .insideCharacter

/-- The text of the part that has been read. -/
def Reader.text (r : Reader) : Except Filter.Stop String :=
  partText r.bytes.reverse r.ahead

/-- The text from the beginning of the part to the end of all. -/
def Reader.remainder (r : Reader) : Except Filter.Stop String :=
  partText (r.bytes.reverse ++ r.ahead) []

/-- Takes the part as the target, and goes on to the next part. -/
def Reader.setTarget (r : Reader) (next : Part) : Except Filter.Stop Reader := do
  let target ← r.text
  return { r.enter next with directive := { r.directive with target } }

/-- Takes the part as the span, and goes on to what is after it. -/
def Reader.setSpan (r : Reader) : Except Filter.Stop Reader := do
  let span := some (← r.text)
  return { r.enter .spanEnd with directive := { r.directive with span } }

/-- Takes the part as the span, unless it is empty, and goes on to a field. -/
def Reader.openFields (r : Reader) : Except Filter.Stop Reader := do
  let text ← r.text
  let span := if text.isEmpty then none else some text
  return { r.enter .field with directive := { r.directive with span } }

/-- Takes the part as a field, which must not be empty, and goes on to the next part. -/
def Reader.addField (r : Reader) (next : Part) : Except Filter.Stop Reader := do
  let text ← r.text
  if text.isEmpty then throw (.fault .badDirective)
  let field ← (FieldDemand.parse text).mapError .fault
  return { r.enter next with
    directive := { r.directive with fields := r.directive.fields ++ [field] } }

/-- Whether a directive may begin with a character. -/
def isOpening (c : Char) : Bool :=
  c = '-' || c = ':' || c = '_' || Text.isAlphanumeric c

/-- Reads a character, which ends the part that is being read or belongs to it. -/
def Reader.step (r : Reader) (c : Char) : Except Filter.Stop Reader :=
  match r.part, c with
  | .start, '[' => .ok (r.enter .span)
  | .start, _ =>
    if isOpening c then .ok ({ r with part := .name }.take c) else .error (.fault .badDirective)
  | .name, '=' => r.setTarget .level
  | .name, '[' => r.setTarget .span
  | .name, _ => .ok (r.take c)
  | .span, ']' => r.setSpan
  | .span, '\x7b' => r.openFields
  | .span, _ => .ok (r.take c)
  | .field, '\x7d' => r.addField .fieldsEnd
  | .field, _ => .ok (r.take c)
  | .fieldsEnd, ']' => .ok (r.enter .spanEnd)
  | .fieldsEnd, _ => .error (.fault .badDirective)
  | .spanEnd, '=' => .ok (r.enter .level)
  | .spanEnd, _ => .error (.fault .badDirective)
  | .level, _ => .ok (r.take c)

/-- The directive at the end of its text. A text that is no level is a target, of which everything
is let through; so it is if the level is left out. -/
def Reader.finish (r : Reader) : Except Filter.Stop Directive := do
  match r.part with
  | .name =>
    let text ← r.remainder
    match Limit.parse? text.toList with
    | some limit => return { r.directive with limit }
    | none => return { r.directive with target := text }
  | .level =>
    let text ← r.remainder
    if text.isEmpty then return r.directive
    else
      match Limit.parse? text.toList with
      | some limit => return { r.directive with limit }
      | none => throw (.fault .badLevel)
  | .spanEnd => return r.directive
  | _ => throw (.fault .badDirective)

/-- Reads a directive. -/
def parse (text : List Char) : Except Filter.Stop Directive := do
  let r ← (Text.trim text).foldlM Reader.step { ahead := Utf8.encode (String.ofList text) }
  r.finish

end Directive

/-- Reads a filter. Directives without any text are passed over. -/
def Filter.parse (text : String) : Except Filter.Stop Filter := do
  let parts := (text.toList.splitOn ',').filter (!·.isEmpty)
  return ⟨← parts.mapM Directive.parse⟩

end FuseMount
