import FuseMount.Proofs.Run.Quiet
import FuseMount.Session

/-!
# What commands print and start

What is left of a command's run for its caller: its result, what it printed to the standard output,
and the programs it started.

Results:

* `output_run_of_error`: a command that fails has printed nothing.
* `exists_of_calls_run`: only the command that unmounts starts programs.
* `calls_unmount`, `value_unmount_eq_ok_iff`: that command does what unmounting does, and succeeds
  if it does or if there is nothing to do.
-/

namespace FuseMount

/-! ## Unmounting -/

theorem Host.output_start (host : Host) (name : Bytes) (arguments : List Bytes) :
    (host.start name arguments).output = "" := by
  unfold start
  split
  · rfl
  · split <;> rfl

theorem Unmount.output_runProgram (host : Host) (program : String) (arguments : List Bytes) :
    (runProgram host program arguments).output = "" := by
  rw [runProgram, Run.output_bind, Host.output_start]
  split <;> rfl

theorem Unmount.output_unmount (host : Host) (platform : Platform) (mountPoint : Bytes) :
    (FuseMount.unmount host platform mountPoint).output = "" := by
  unfold FuseMount.unmount
  split
  · rfl
  · simp only
    rw [(Run.quiet_report _).output_bind, Run.output_bind, output_runProgram]
    split <;> rfl

namespace Session

/-! ## Printing -/

theorem value_printInitFlags (session : Session) (flags : MountFlags)
    (offered : Option InitFlags) : (session.printInitFlags flags offered).value = .ok () := by
  cases offered <;> rfl

theorem calls_printInitFlags (session : Session) (flags : MountFlags)
    (offered : Option InitFlags) : (session.printInitFlags flags offered).calls = [] := by
  unfold printInitFlags
  cases offered with
  | none => rfl
  | some offered =>
    simp only [InitFlags.negotiate, Run.calls_bind]
    split <;> rfl

theorem calls_printOptions (session : Session) (flags : MountFlags) (mountPoint : Option Bytes) :
    (session.printOptions flags mountPoint).calls = [] := by
  unfold printOptions
  rw [(Run.quiet_report _).calls_bind]
  cases mountPoint with
  | none => rfl
  | some mountPoint =>
    simp only
    split <;> rfl

/-- The line is printed last, after which the command cannot fail. -/
theorem output_printOptions_of_error {session : Session} {flags : MountFlags}
    {mountPoint : Option Bytes} {f : Failure}
    (h : (session.printOptions flags mountPoint).value = .error f) :
    (session.printOptions flags mountPoint).output = "" := by
  unfold printOptions at h ⊢
  rw [(Run.quiet_report _).output_bind]
  rw [Run.value_bind] at h
  cases mountPoint with
  | none => cases h
  | some mountPoint =>
    simp only at h ⊢
    split at h
    · rfl
    · cases h

/-! ## The command that unmounts -/

theorem quiet_warn (text : String) : (warn text).Quiet := ⟨rfl, rfl⟩

section

variable (session : Session) (mountPoint : Bytes) (platform : Option Platform)

theorem output_unmount : (session.unmount mountPoint platform).output = "" := by
  rw [unmount, Run.output_bind, Unmount.output_unmount, String.empty_append]
  split
  · rfl
  · exact (quiet_warn _).output_bind
  · rfl

theorem calls_unmount :
    (session.unmount mountPoint platform).calls =
      (FuseMount.unmount session.host (session.platform platform) mountPoint).calls := by
  rw [unmount, Run.calls_bind]
  split
  · exact List.append_nil _
  · exact List.append_nil _
  · exact List.append_nil _

/-- The command succeeds where the mount point is unmounted, or where another process manages
it. -/
theorem value_unmount_eq_ok_iff :
    (session.unmount mountPoint platform).value = .ok () ↔
      (FuseMount.unmount session.host (session.platform platform) mountPoint).value = .ok () ∨
      (FuseMount.unmount session.host (session.platform platform) mountPoint).value =
        .error .externallyManaged := by
  rw [unmount, Run.value_bind]
  cases h : (FuseMount.unmount session.host (session.platform platform) mountPoint).value with
  | ok u => simp
  | error e => cases e <;> simp [warn, printLine]

end

/-! ## Any command -/

/-- Only the command that unmounts starts programs. -/
theorem exists_of_calls_run {session : Session} {command : Command}
    (h : (session.run command).calls ≠ []) :
    ∃ mountPoint platform, command = .unmount mountPoint platform := by
  cases command with
  | initFlags flags offered => exact absurd (session.calls_printInitFlags flags offered) h
  | options flags mountPoint => exact absurd (session.calls_printOptions flags mountPoint) h
  | unmount mountPoint platform => exact ⟨mountPoint, platform, rfl⟩

theorem output_run_of_error {session : Session} {command : Command} {f : Failure}
    (h : (session.run command).value = .error f) : (session.run command).output = "" := by
  cases command with
  | initFlags flags offered =>
    rw [run, value_printInitFlags] at h
    cases h
  | options flags mountPoint => exact output_printOptions_of_error h
  | unmount mountPoint platform => exact session.output_unmount mountPoint platform

end Session

end FuseMount
