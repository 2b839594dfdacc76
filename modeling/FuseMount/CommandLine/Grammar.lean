import FuseMount.CommandLine.Fault
import FuseMount.CommandLine.Word

/-!
# Grammars of command lines

A `Grammar` says which options, operands and commands there may be in a command line, and what each
of them does to the value that is made from the arguments. `Grammar.scan` reads arguments up to a
command, `Progress.finish` gives the value after the last one.

The value of an option, or an operand, is looked at only when the next argument has been recognised
as one of the grammar. Therefore an unknown argument is reported before a wrong value that stands
before it.
-/

namespace FuseMount.CommandLine

/-! ## Grammars -/

/-- A value that may be given. -/
structure Parameter (σ : Type) where
  /-- How messages show it. -/
  shown : String
  /-- Whether it may be given several times. -/
  repeats : Bool := false
  /-- What a value does. -/
  take : Bytes → Except ValueFault (σ → σ)

/-- What an option stands for. -/
inductive Action (σ : Type) where
  /-- It does something by itself, once. -/
  | switch (set : σ → σ)
  /-- It is followed by a value. -/
  | value (parameter : Parameter σ)
  /-- It asks for something else than a run. -/
  | request (fault : Fault)

/-- An option. -/
structure Flag (σ : Type) where
  /-- Its name after two dashes. -/
  long : String
  /-- Its name after one dash. -/
  short : Option Char := none
  /-- What it stands for. -/
  action : Action σ

/-- The arguments that a command may have. -/
structure Grammar (σ : Type) where
  /-- The options. -/
  flags : List (Flag σ)
  /-- The operands, all of which have to be there. -/
  operands : List (Parameter σ) := []
  /-- The words that name a command, where the arguments of this grammar end. -/
  commands : List String := []

/-- How messages show an option that has no value. -/
def Flag.shown {σ : Type} (flag : Flag σ) : String := "--" ++ flag.long

/-- The option that asks for help. -/
def Flag.help {σ : Type} : Flag σ := ⟨"help", some 'h', .request .help⟩

/-! ## What values are -/

/-- The text of a value. -/
def readText (bytes : Bytes) : Except ValueFault String :=
  match Utf8.decode? bytes with
  | some s => .ok s
  | none => .error .notText

/-- The path that a value is. -/
def readPath (bytes : Bytes) : Except ValueFault Bytes :=
  if bytes.isEmpty then .error .empty else .ok bytes

/-- What the text of a value stands for. -/
def readBy {ε α : Type} (parse : String → Except ε α) (reason : ε → String) (bytes : Bytes) :
    Except ValueFault α := do
  match parse (← readText bytes) with
  | .ok a => return a
  | .error e => throw (.invalid (reason e))

/-- An option whose value is named `valueName` in messages. -/
def Flag.withValue {σ α : Type} (long : String) (valueName : String)
    (read : Bytes → Except ValueFault α) (set : α → σ → σ) : Flag σ where
  long := long
  action := .value {
    shown := "--" ++ long ++ " <" ++ valueName ++ ">"
    take := fun bytes => set <$> read bytes }

/-- An option that does something by itself. -/
def Flag.switch {σ : Type} (long : String) (set : σ → σ) : Flag σ where
  long := long
  action := .switch set

/-- The option with a second name after one dash. -/
def Flag.orShort {σ : Type} (flag : Flag σ) (c : Char) : Flag σ :=
  { flag with short := some c }

/-- The option as one that may be given several times. -/
def Flag.repeated {σ : Type} (flag : Flag σ) : Flag σ :=
  match flag.action with
  | .value parameter => { flag with action := .value { parameter with repeats := true } }
  | _ => flag

/-- A parameter that acts on a part of a value. -/
def Parameter.within {σ τ : Type} (lift : (σ → σ) → τ → τ) (p : Parameter σ) : Parameter τ where
  shown := p.shown
  repeats := p.repeats
  take bytes := lift <$> p.take bytes

/-- An option that acts on a part of a value. -/
def Flag.within {σ τ : Type} (lift : (σ → σ) → τ → τ) (flag : Flag σ) : Flag τ where
  long := flag.long
  short := flag.short
  action := match flag.action with
    | .switch set => .switch (lift set)
    | .value parameter => .value (parameter.within lift)
    | .request fault => .request fault

/-! ## Reading arguments -/

/-- A parameter whose value has not been looked at yet, or is still to come. -/
structure Pending (σ : Type) where
  parameter : Parameter σ
  value : Option Bytes

/-- What is known after some arguments. -/
structure Progress (σ : Type) where
  /-- The value made so far. -/
  value : σ
  /-- The arguments that have been taken in, as messages show them. -/
  given : List String := []
  /-- The operands that are still to come. -/
  operands : List (Parameter σ)
  /-- The parameter that came last, until its value is taken in. -/
  pending : Option (Pending σ) := none
  /-- Whether the two dashes have been passed. -/
  afterDashes : Bool := false

namespace Progress

/-- Notes that an argument is given, which may be so once. -/
def note {σ : Type} (s : Progress σ) (shown : String) : Except Fault (Progress σ) :=
  if s.given.contains shown then .error (.repeated shown)
  else .ok { s with given := shown :: s.given }

/-- Takes in the value of a parameter. -/
def give {σ : Type} (s : Progress σ) (p : Parameter σ) (bytes : Bytes) :
    Except Fault (Progress σ) := do
  let s ← if p.repeats then pure { s with given := p.shown :: s.given } else s.note p.shown
  match p.take bytes with
  | .ok set => return { s with value := set s.value }
  | .error e => throw (e.of p.shown)

/-- Takes in the value of the parameter that came last. -/
def resolve {σ : Type} (s : Progress σ) : Except Fault (Progress σ) :=
  match s.pending with
  | none => .ok s
  | some ⟨p, some bytes⟩ => { s with pending := none }.give p bytes
  | some ⟨p, none⟩ => .error (.missingValue p.shown)

/-- The parameter whose value is the next plain word. -/
def awaited {σ : Type} (s : Progress σ) : Option (Parameter σ) :=
  match s.pending with
  | some ⟨p, none⟩ => if s.afterDashes then none else some p
  | _ => none

/-- The value after the last argument, if no operand is missing. -/
def finish {σ : Type} (s : Progress σ) : Except Fault σ := do
  let s ← s.resolve
  match s.operands with
  | p :: _ => throw (.missingOperand p.shown)
  | [] => return s.value

end Progress

namespace Grammar

/-- What is known before the first argument. -/
def start {σ : Type} (g : Grammar σ) (value : σ) : Progress σ where
  value := value
  operands := g.operands

/-- The command that a word names. -/
def command? {σ : Type} (g : Grammar σ) (bytes : Bytes) : Option String :=
  g.commands.find? fun name => Utf8.encode name = bytes

/-- Takes in an option without a value. -/
def acceptAlone {σ : Type} (s : Progress σ) (flag : Flag σ) : Except Fault (Progress σ) := do
  let s ← s.resolve
  match flag.action with
  | .switch set => do
    let s ← s.note flag.shown
    return { s with value := set s.value }
  | .value parameter => return { s with pending := some ⟨parameter, none⟩ }
  | .request fault => throw fault

/-- Takes in an option together with the value that is written in the same word. -/
def acceptValue {σ : Type} (s : Progress σ) (flag : Flag σ) (bytes : Bytes) :
    Except Fault (Progress σ) :=
  match flag.action with
  | .value parameter => do (← s.resolve).give parameter bytes
  | _ => .error (.unneededValue flag.shown)

/-- Takes in a long option. -/
def acceptLong {σ : Type} (g : Grammar σ) (s : Progress σ) (name : Bytes) (value : Option Bytes) :
    Except Fault (Progress σ) :=
  match g.flags.find? fun flag => Utf8.encode flag.long = name with
  | none => .error (.unknownArgument ("--" ++ Utf8.lossy name))
  | some flag =>
    match value with
    | some bytes => acceptValue s flag bytes
    | none => acceptAlone s flag

/-- The value that is written after a short option. -/
def shortValue : List Utf8.Piece → Bytes
  | .char '=' :: rest => rest.flatMap Utf8.Piece.bytes
  | rest => rest.flatMap Utf8.Piece.bytes

/-- Takes in a group of short options. The first one that has a value takes the rest of the group
for it, less one equals sign, unless there is no rest. -/
def acceptShort {σ : Type} (g : Grammar σ) : Progress σ → List Utf8.Piece →
    Except Fault (Progress σ)
  | s, [] => .ok s
  | _, .broken bytes :: rest =>
    .error (.unknownArgument
      ("-" ++ String.ofList ((Utf8.Piece.broken bytes :: rest).map Utf8.Piece.shown)))
  | s, .char c :: rest =>
    match g.flags.find? (·.short = some c) with
    | none => .error (.unknownArgument (String.ofList ['-', c]))
    | some flag =>
      match flag.action, rest with
      | .value _, _ :: _ => acceptValue s flag (shortValue rest)
      | _, _ => do acceptShort g (← acceptAlone s flag) rest

/-- The fault that a plain word is without a place for it. -/
def unexpected {σ : Type} (g : Grammar σ) (s : Progress σ) (bytes : Bytes) : Fault :=
  if g.commands.isEmpty || s.afterDashes && (g.command? bytes).isSome then
    .unknownArgument (Utf8.lossy bytes)
  else .unknownCommand (Utf8.lossy bytes)

/-- Takes in a plain word: the value that is awaited, or an operand. -/
def acceptPlain {σ : Type} (g : Grammar σ) (s : Progress σ) (bytes : Bytes) :
    Except Fault (Progress σ) :=
  match s.awaited, s.operands with
  | some p, _ => .ok { s with pending := some ⟨p, some bytes⟩ }
  | none, p :: operands => do
    let s ← s.resolve
    return { s with operands, pending := some ⟨p, some bytes⟩ }
  | none, [] => .error (g.unexpected s bytes)

/-- Takes in an argument. -/
def accept {σ : Type} (g : Grammar σ) (s : Progress σ) (bytes : Bytes) :
    Except Fault (Progress σ) :=
  if s.afterDashes then g.acceptPlain s bytes
  else
    match Word.ofBytes bytes with
    | .dashes => .ok { s with afterDashes := true }
    | .long name value => g.acceptLong s name value
    | .short group => g.acceptShort s group
    | .plain => g.acceptPlain s bytes

/-- Whether the next word may name a command. -/
def mayEnd {σ : Type} (s : Progress σ) : Bool :=
  !s.afterDashes && s.awaited.isNone

/-- Takes in arguments up to a command. Gives what is known then, the name of the command, and its
own arguments. -/
def scan {σ : Type} (g : Grammar σ) : Progress σ → List Bytes →
    Except Fault (Progress σ × Option (String × List Bytes))
  | s, [] => .ok (s, none)
  | s, bytes :: rest =>
    match if mayEnd s then g.command? bytes else none with
    | some command => .ok (s, some (command, rest))
    | none => do scan g (← g.accept s bytes) rest

/-- The value that arguments without a command make. -/
def read {σ : Type} (g : Grammar σ) (value : σ) (arguments : List Bytes) : Except Fault σ := do
  let (s, _) ← g.scan (g.start value) arguments
  s.finish

end Grammar

end FuseMount.CommandLine
