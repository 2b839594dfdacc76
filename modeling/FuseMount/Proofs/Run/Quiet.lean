import FuseMount.Event.Log

/-!
# Quiet computations

A computation is quiet if it prints nothing to the standard output and starts no program. It may
report events and print diagnostics. Quiet computations leave no trace in the output and the calls
of a longer one, and a log, which turns events into diagnostics, changes neither of the two.

Results:

* `Quiet.bind`: one quiet computation after another is quiet.
* `Quiet.output_bind`, `Quiet.calls_bind`: what follows a quiet computation decides what is printed
  and started.
* `output_write`, `calls_write`: a log keeps the output and the calls.
-/

namespace FuseMount

namespace Run

/-- Nothing is printed to the standard output, and no program is started. -/
structure Quiet {α : Type} (r : Run α) : Prop where
  output_eq : r.output = ""
  calls_eq : r.calls = []

theorem quiet_pure {α : Type} (a : α) : (pure a : Run α).Quiet := ⟨rfl, rfl⟩

theorem quiet_report (e : Event) : (report e).Quiet := ⟨rfl, rfl⟩

theorem output_print (text : String) : (print text).output = text := by
  simp [print, perform, output, Effect.output?]

section

variable {α β : Type} {r : Run α} {f : α → Run β} (h : r.Quiet)

include h

theorem Quiet.output_bind : (r >>= f).output = (f r.value).output := by
  rw [Run.output_bind, h.output_eq, String.empty_append]

theorem Quiet.calls_bind : (r >>= f).calls = (f r.value).calls := by
  rw [Run.calls_bind, h.calls_eq, List.nil_append]

theorem Quiet.bind (hf : (f r.value).Quiet) : (r >>= f).Quiet :=
  ⟨h.output_bind.trans hf.output_eq, h.calls_bind.trans hf.calls_eq⟩

end

end Run

namespace Log

theorem output?_show? (log : Log) (e : Effect) :
    (log.show? e).bind Effect.output? = e.output? := by
  cases e with
  | event e =>
    rw [show?]
    split <;> rfl
  | _ => rfl

theorem call?_show? (log : Log) (e : Effect) : (log.show? e).bind Effect.call? = e.call? := by
  cases e with
  | event e =>
    rw [show?]
    split <;> rfl
  | _ => rfl

variable {α : Type} (log : Log) (r : Run α)

theorem output_write : (log.write r).output = r.output := by
  rw [Run.output, write, List.filterMap_filterMap, funext log.output?_show?, Run.output]

theorem calls_write : (log.write r).calls = r.calls := by
  rw [Run.calls, write, List.filterMap_filterMap, funext log.call?_show?, Run.calls]

end Log

end FuseMount
