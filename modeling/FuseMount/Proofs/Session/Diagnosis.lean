import FuseMount.Proofs.Run.Except
import FuseMount.Proofs.Session.Commands
import FuseMount.Proofs.Text.Trim
import FuseMount.Proofs.Unmount.Dispatch

/-!
# What is said about a failed unmount

When the command that unmounts fails, the user is told three things, each below the other: that the
command failed, and for which path; which mount point was not unmounted; and why. The last of them
is the wording of the system's error, or the program and its exit code with all that it wrote to the
standard error, save for the blanks around that. Nothing is left out on the way from the program to
the user, and nothing is said twice.

Results:

* `exitMessage_eq`: what is said about a program that failed.
* `causes_diagnosis`, `trace_diagnosis`: the three levels, and the lines that show them.
* `unmount_diagnosis`: every failure of the command has this form.
-/

namespace FuseMount

namespace Unmount

/-! ## Specification -/

/-- Why no program unmounted a mount point, by the programs that ran. -/
inductive Reason (host : Host) (program : String) (arguments : List Bytes) :
    List Call → String → Prop
  /-- The program was not started, and nothing ran. -/
  | notStarted {e : SystemError}
      (start_eq : (host.start (Utf8.encode program) arguments).value = .error e) :
      Reason host program arguments [] e.message
  /-- The program ran and ended with a code other than 0. -/
  | exited {call : Call} {exit : Host.Exit} {text : String}
      (executed : host.Executed (Utf8.encode program) arguments call exit)
      (code_ne : exit.code ≠ 0)
      (trimmed : Text.Trimmed (Utf8.lossy exit.diagnostics).toList text.toList) :
      Reason host program arguments [call]
        (program ++ " exited with exit status: " ++ exit.code.repr ++
          if text = "" then "" else ": " ++ text)

/-- The levels of an explanation, the outermost one first. -/
def levels (mountPoint : Bytes) (reason : String) : List Cause :=
  [⟨"the unmount command failed", TextMap.ofList [("path", Utf8.lossy mountPoint)]⟩,
    ⟨"failed to unmount " ++ Utf8.lossy mountPoint, ∅⟩,
    ⟨reason, ∅⟩]

/-- The lines for these levels. -/
def levelLines (mountPoint : Bytes) (reason : String) : String :=
  "-> the unmount command failed\n" ++
    ("   path = " ++ Utf8.lossy mountPoint ++ "\n") ++
    ("-> failed to unmount " ++ Utf8.lossy mountPoint ++ "\n") ++
    ("-> " ++ reason ++ "\n")

/-! ## Why unmounting fails -/

theorem exitMessage_eq (program : String) (exit : Host.Exit) :
    ∃ text : String, Text.Trimmed (Utf8.lossy exit.diagnostics).toList text.toList ∧
      exitMessage program exit = program ++ " exited with exit status: " ++ exit.code.repr ++
        if text = "" then "" else ": " ++ text := by
  refine ⟨String.ofList (Text.trim (Utf8.lossy exit.diagnostics).toList), ?_, ?_⟩
  · rw [Text.trimmed_iff, String.toList_ofList]
  · simp only [exitMessage, String.isEmpty_iff]

/-- A mount point that was tried and not unmounted has a reason for that. -/
theorem exists_reason_of_error {host : Host} {platform : Platform} {mountPoint : Bytes} {e : Error}
    (hmanaged : ¬MountPoint.isExternallyManaged mountPoint)
    (h : (unmount host platform mountPoint).value = .error e) :
    ∃ program arguments cause, Dispatched platform mountPoint program arguments ∧
      e = .failed mountPoint cause ∧
        Reason host program arguments (unmount host platform mountPoint).calls cause.message := by
  obtain ⟨program, arguments, hcommand⟩ :
      ∃ program arguments, command host platform mountPoint = (program, arguments) := ⟨_, _, rfl⟩
  have hd := dispatched_command host platform mountPoint
  rw [hcommand] at hd
  have hvalue := (attempt_unmount hmanaged hcommand hd.isFileName).value_eq
  rw [h] at hvalue
  rw [calls_unmount_eq hmanaged hcommand]
  rcases host.start_cases hd.isFileName arguments with ⟨e', hstart⟩ | ⟨call, exit, hstart, hexec⟩
  · rw [hstart] at hvalue ⊢
    cases hvalue
    exact ⟨program, arguments, e', hd, rfl, .notStarted (by rw [hstart])⟩
  · rw [hstart] at hvalue ⊢
    rw [resultOf] at hvalue
    by_cases hcode : exit.code = 0
    · rw [if_pos hcode] at hvalue
      cases hvalue
    · rw [if_neg hcode] at hvalue
      cases hvalue
      obtain ⟨text, htrimmed, hmessage⟩ := exitMessage_eq program exit
      refine ⟨program, arguments, _, hd, rfl, ?_⟩
      rw [SystemError.message, hmessage]
      exact .exited hexec hcode htrimmed

end Unmount

/-! ## What the command makes of it -/

namespace Session

open Unmount (Dispatched Reason levels levelLines)

/-- The failure of the command that unmounts, for a reason. -/
def diagnosis (mountPoint : Bytes) (reason : String) : Failure :=
  ((AnyError.wrapped ("failed to unmount " ++ Utf8.lossy mountPoint)
      (.plain reason)).intoFailure.under "the unmount command failed").note "path"
    (Utf8.lossy mountPoint)

theorem causes_diagnosis (mountPoint : Bytes) (reason : String) :
    (diagnosis mountPoint reason).causes = levels mountPoint reason := rfl

theorem trace_diagnosis (mountPoint : Bytes) (reason : String) :
    (diagnosis mountPoint reason).trace = levelLines mountPoint reason := by
  have hpath : (TextMap.ofList [("path", Utf8.lossy mountPoint)]).entries =
      [("path", Utf8.lossy mountPoint)] := rfl
  have hnone : (∅ : TextMap).entries = [] := rfl
  have hcommand : "-> the unmount command failed\n" =
      "-> " ++ "the unmount command failed" ++ "\n" := by decide
  have hvalue : "   path = " = "   " ++ "path" ++ " = " := by decide
  have hunmount : "-> failed to unmount " = "-> " ++ "failed to unmount " := by decide
  rw [Failure.trace, causes_diagnosis, levels]
  unfold levelLines
  rw [hcommand, hvalue, hunmount]
  simp only [List.map_cons, List.map_nil, Cause.trace, hpath, hnone, String.join_cons,
    String.join_nil, String.append_empty, String.append_assoc, -String.reduceAppend]

/-- The command fails only where unmounting does, and for the same reason. -/
theorem exists_of_value_unmount {session : Session} {mountPoint : Bytes}
    {platform : Option Platform} {f : Failure}
    (h : (session.unmount mountPoint platform).value = .error f) :
    ∃ program arguments reason,
      Dispatched (session.platform platform) mountPoint program arguments ∧
        Reason session.host program arguments (session.unmount mountPoint platform).calls reason ∧
          f = diagnosis mountPoint reason := by
  by_cases hmanaged : MountPoint.isExternallyManaged mountPoint
  · have hok := (value_unmount_eq_ok_iff session mountPoint platform).2
      (.inr (by rw [Unmount.unmount_eq_of_managed _ _ hmanaged]))
    cases hok.symm.trans h
  · rw [calls_unmount]
    rw [unmount, Run.value_bind] at h
    cases hvalue :
        (FuseMount.unmount session.host (session.platform platform) mountPoint).value with
    | ok u =>
      rw [hvalue] at h
      cases h
    | error e =>
      obtain ⟨program, arguments, cause, hd, rfl, hreason⟩ :=
        Unmount.exists_reason_of_error hmanaged hvalue
      rw [hvalue] at h
      cases h
      exact ⟨program, arguments, cause.message, hd, hreason, rfl⟩

/-! ## Main theorem -/

/-- **A failed unmount is explained in full.** Whenever the command that unmounts fails, its failure
has exactly three levels: the command and the path, the mount point, and the reason, which is that
of the program that was to unmount it. The trace shows these levels in this order. -/
theorem unmount_diagnosis {session : Session} {mountPoint : Bytes} {platform : Option Platform}
    {f : Failure} (h : (session.run (.unmount mountPoint platform)).value = .error f) :
    ∃ program arguments reason,
      Dispatched (session.platform platform) mountPoint program arguments ∧
      Reason session.host program arguments
        (session.run (.unmount mountPoint platform)).calls reason ∧
      f.causes = levels mountPoint reason ∧
      f.trace = levelLines mountPoint reason := by
  rw [run] at h ⊢
  obtain ⟨program, arguments, reason, hd, hreason, rfl⟩ := exists_of_value_unmount h
  exact ⟨program, arguments, reason, hd, hreason, causes_diagnosis _ _, trace_diagnosis _ _⟩

/-! ## A host where unmounting fails -/

/-- A session on a host where the helper always fails. -/
def busySession : Session where
  host := {
    nodes := [([Utf8.encode "a", Utf8.encode "fusermount"],
      .program true 1 (Utf8.encode " device is busy\n"))]
    environment := { path := some (Utf8.encode "a") } }

/-- A mount point that is no text, and diagnostics with blanks around them. -/
theorem unmount_diagnosis_busySession :
    let command := Command.unmount [0x2F, 0xFF] (some .linux)
    let reason := "fusermount exited with exit status: 1: device is busy"
    ∃ f, (busySession.run command).value = .error f ∧
      f.causes = levels [0x2F, 0xFF] reason ∧
      ∃ program arguments reason, Dispatched .linux [0x2F, 0xFF] program arguments ∧
        Reason busySession.host program arguments (busySession.run command).calls reason ∧
        f.causes = levels [0x2F, 0xFF] reason ∧
        f.trace = levelLines [0x2F, 0xFF] reason := by
  intro command reason
  have hvalue : (busySession.run command).value = .error (diagnosis [0x2F, 0xFF] reason) := by
    decide +kernel
  exact ⟨_, hvalue, causes_diagnosis _ _, unmount_diagnosis hvalue⟩

end Session

end FuseMount
