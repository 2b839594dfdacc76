import FuseMount.Event
import FuseMount.Text.Utf8

/-!
# Runs

The answer of a computation together with what it did on the way, in order: the events it reported,
the programs it started, and what it printed. `Run` is a monad: effects of later steps follow those
of earlier ones (`effects_bind`), and so do the effects of each kind (`events_bind`, `calls_bind`,
`output_bind`, `diagnostics_bind`).
-/

namespace FuseMount

/-- A program that was started. -/
structure Call where
  /-- The place of the program's file: the names on the way to it from the root. -/
  file : List Bytes
  /-- The arguments it was given. -/
  arguments : List Bytes
  deriving DecidableEq, Repr

/-- Something that a computation did. -/
inductive Effect where
  /-- It reported an event. -/
  | event (e : Event)
  /-- It started a program. -/
  | call (c : Call)
  /-- It printed to the standard output. -/
  | output (text : String)
  /-- It printed to the standard error. -/
  | diagnostic (text : String)
  deriving DecidableEq, Repr

namespace Effect

/-- The event that an effect reports. -/
def event? : Effect → Option Event
  | event e => some e
  | _ => none

/-- The program that an effect starts. -/
def call? : Effect → Option Call
  | call c => some c
  | _ => none

/-- What an effect prints to the standard output. -/
def output? : Effect → Option String
  | output text => some text
  | _ => none

/-- What an effect prints to the standard error. -/
def diagnostic? : Effect → Option String
  | diagnostic text => some text
  | _ => none

end Effect

/-- An answer, and what was done before it was found. -/
structure Run (α : Type) where
  /-- The answer. -/
  value : α
  /-- What was done, in order. -/
  effects : List Effect

namespace Run

instance : Monad Run where
  pure a := ⟨a, []⟩
  bind r f := ⟨(f r.value).value, r.effects ++ (f r.value).effects⟩

@[simp] theorem value_pure {α : Type} (a : α) : (pure a : Run α).value = a := rfl

@[simp] theorem effects_pure {α : Type} (a : α) : (pure a : Run α).effects = [] := rfl

@[simp] theorem value_bind {α β : Type} (r : Run α) (f : α → Run β) :
    (r >>= f).value = (f r.value).value := rfl

@[simp] theorem effects_bind {α β : Type} (r : Run α) (f : α → Run β) :
    (r >>= f).effects = r.effects ++ (f r.value).effects := rfl

/-- Does one thing. -/
def perform (e : Effect) : Run Unit := ⟨(), [e]⟩

/-- Reports an event. -/
def report (e : Event) : Run Unit := perform (.event e)

/-- Prints to the standard output. -/
def print (text : String) : Run Unit := perform (.output text)

/-- Prints to the standard error. -/
def printDiagnostic (text : String) : Run Unit := perform (.diagnostic text)

/-! ## What was done, by its kind -/

/-- The events that were reported. -/
def events {α : Type} (r : Run α) : List Event :=
  r.effects.filterMap Effect.event?

/-- The programs that were started. -/
def calls {α : Type} (r : Run α) : List Call :=
  r.effects.filterMap Effect.call?

/-- What was printed to the standard output. -/
def output {α : Type} (r : Run α) : String :=
  String.join (r.effects.filterMap Effect.output?)

/-- What was printed to the standard error. -/
def diagnostics {α : Type} (r : Run α) : String :=
  String.join (r.effects.filterMap Effect.diagnostic?)

@[simp] theorem events_pure {α : Type} (a : α) : (pure a : Run α).events = [] := rfl

@[simp] theorem calls_pure {α : Type} (a : α) : (pure a : Run α).calls = [] := rfl

@[simp] theorem output_pure {α : Type} (a : α) : (pure a : Run α).output = "" := rfl

@[simp] theorem diagnostics_pure {α : Type} (a : α) : (pure a : Run α).diagnostics = "" := rfl

@[simp] theorem events_bind {α β : Type} (r : Run α) (f : α → Run β) :
    (r >>= f).events = r.events ++ (f r.value).events := by
  simp [events]

@[simp] theorem calls_bind {α β : Type} (r : Run α) (f : α → Run β) :
    (r >>= f).calls = r.calls ++ (f r.value).calls := by
  simp [calls]

@[simp] theorem output_bind {α β : Type} (r : Run α) (f : α → Run β) :
    (r >>= f).output = r.output ++ (f r.value).output := by
  simp [output]

@[simp] theorem diagnostics_bind {α β : Type} (r : Run α) (f : α → Run β) :
    (r >>= f).diagnostics = r.diagnostics ++ (f r.value).diagnostics := by
  simp [diagnostics]

end Run

end FuseMount
