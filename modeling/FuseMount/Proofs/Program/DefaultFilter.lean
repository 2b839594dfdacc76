import FuseMount.Program
import FuseMount.Proofs.Event.Filter
import FuseMount.Proofs.Unmount.Dispatch

/-!
# What the default filter shows

Of the events that a command reports, the default filter shows the errors, and these are the
failures to unmount. It hides all details; and that a mount point has been unmounted is reported by
a part of the program that it does not name.

Results:

* `ShowsErrors.runCommand`: the events of any command.
* `filter_passes_runCommand`: the same as an equation.
-/

namespace FuseMount.Program

/-! ## Specification -/

/-- Of the events of a run, the default filter shows the errors and no others. -/
def ShowsErrors {α : Type} (r : Run α) : Prop :=
  ∀ e ∈ r.events, Log.defaultFilter.passes e ↔ e.level = .error

/-! ## Single events -/

namespace ShowsErrors

variable {α β : Type}

theorem of_events_eq_nil {r : Run α} (h : r.events = []) : ShowsErrors r := by
  intro e he
  rw [h] at he
  cases he

theorem bind {r : Run α} {f : α → Run β} (hr : ShowsErrors r) (hf : ShowsErrors (f r.value)) :
    ShowsErrors (r >>= f) := by
  intro e he
  rw [Run.events_bind, List.mem_append] at he
  exact he.elim (hr e) (hf e)

theorem report {e : Event} (h : Log.defaultFilter.passes e ↔ e.level = .error) :
    ShowsErrors (Run.report e) := by
  intro e' he
  obtain rfl := List.mem_singleton.1 he
  exact h

/-- Details are not shown, whatever part of the program reports them. -/
theorem report_debug {e : Event} (h : e.level = .debug) : ShowsErrors (Run.report e) := by
  have hrank : ¬e.level.rank ≤ Level.info.rank := by
    rw [h]
    decide
  have hlevel : e.level ≠ .error := by
    rw [h]
    decide
  refine report ?_
  rw [Log.passes_defaultFilter_iff]
  exact ⟨fun hpasses => absurd hpasses.2 hrank, fun herror => absurd herror hlevel⟩

theorem report_failedEvent (e : Unmount.Error) :
    ShowsErrors (Run.report (Unmount.failedEvent e)) := by
  have htarget : "mountkit_mount".toList <+: Unmount.target.toList := by decide
  have hrank : Level.error.rank ≤ Level.info.rank := by decide
  refine report ?_
  rw [Log.passes_defaultFilter_iff]
  exact ⟨fun _ => rfl, fun _ => ⟨.inr htarget, hrank⟩⟩

/-- That a mount point has been unmounted is reported by a part that the default filter does not
name. -/
theorem report_unmountedEvent (mountPoint : Bytes) :
    ShowsErrors (Run.report (Session.unmountedEvent mountPoint)) := by
  have htarget : ¬("mountkit_cli".toList <+: "mountkit::unmount".toList ∨
      "mountkit_mount".toList <+: "mountkit::unmount".toList) := by decide
  refine report ?_
  rw [Log.passes_defaultFilter_iff]
  exact ⟨fun hpasses => absurd hpasses.1 htarget, nofun⟩

/-! ## Commands -/

theorem negotiate (requested offered : InitFlags) :
    ShowsErrors (InitFlags.negotiate requested offered) := by
  unfold InitFlags.negotiate
  dsimp only
  split
  · exact of_events_eq_nil rfl
  · exact (report_debug rfl).bind (of_events_eq_nil rfl)

theorem printInitFlags (session : Session) (flags : MountFlags) (offered : Option InitFlags) :
    ShowsErrors (session.printInitFlags flags offered) := by
  unfold Session.printInitFlags
  cases offered with
  | none => exact of_events_eq_nil rfl
  | some offered => exact (negotiate _ offered).bind (of_events_eq_nil rfl)

theorem printOptions (session : Session) (flags : MountFlags) (mountPoint : Option Bytes) :
    ShowsErrors (session.printOptions flags mountPoint) := by
  unfold Session.printOptions
  refine (report_debug rfl).bind (of_events_eq_nil ?_)
  cases mountPoint with
  | none => rfl
  | some mountPoint =>
    simp only
    split <;> rfl

theorem start (host : Host) (name : Bytes) (arguments : List Bytes) :
    ShowsErrors (host.start name arguments) := by
  refine of_events_eq_nil ?_
  unfold Host.start
  split
  · rfl
  · split <;> rfl

theorem runProgram (host : Host) (program : String) (arguments : List Bytes) :
    ShowsErrors (Unmount.runProgram host program arguments) := by
  unfold Unmount.runProgram
  refine (start host _ arguments).bind (of_events_eq_nil ?_)
  split <;> rfl

theorem unmount (host : Host) (platform : Platform) (mountPoint : Bytes) :
    ShowsErrors (FuseMount.unmount host platform mountPoint) := by
  unfold FuseMount.unmount
  split
  · exact (report_debug rfl).bind (of_events_eq_nil rfl)
  · refine (report_debug rfl).bind ((runProgram host _ _).bind ?_)
    split
    · exact of_events_eq_nil rfl
    · exact (report_failedEvent _).bind (of_events_eq_nil rfl)

theorem command_unmount (session : Session) (mountPoint : Bytes) (platform : Option Platform) :
    ShowsErrors (session.unmount mountPoint platform) := by
  unfold Session.unmount
  refine (unmount session.host _ mountPoint).bind ?_
  split
  · exact (report_unmountedEvent mountPoint).bind (of_events_eq_nil rfl)
  · exact of_events_eq_nil rfl
  · exact of_events_eq_nil rfl

theorem runCommand (session : Session) (command : Command) :
    ShowsErrors (Program.runCommand session command) := by
  have hcommand : ShowsErrors (session.run command) := by
    cases command with
    | initFlags flags offered => exact printInitFlags session flags offered
    | options flags mountPoint => exact printOptions session flags mountPoint
    | unmount mountPoint platform => exact command_unmount session mountPoint platform
  unfold Program.runCommand
  refine hcommand.bind ?_
  split
  · exact of_events_eq_nil rfl
  · exact (report_debug rfl).bind (of_events_eq_nil rfl)

end ShowsErrors

theorem filter_passes_runCommand (session : Session) (command : Command) :
    (runCommand session command).events.filter Log.defaultFilter.passes =
      Unmount.errorEvents (runCommand session command) := by
  refine List.filter_congr fun e he => ?_
  rw [Bool.eq_iff_iff, decide_eq_true_iff]
  exact ShowsErrors.runCommand session command e he

end FuseMount.Program
