import FuseMount.Proofs.Host.Search
import FuseMount.Proofs.Text.ByteOrder
import FuseMount.Proofs.Unmount.Dispatch

/-!
# When an available helper unmounts

On Linux a helper that can be executed should be the one that unmounts, `fusermount3` before
`fusermount`. The choice between the two is made by looking for files, though, and a file that
cannot be executed is chosen as well as any other. So an executable `fusermount` is of no use beside
a `fusermount3` that cannot be executed: the latter is chosen, cannot be started, and nothing runs.
This is the only case, unless the search for the chosen helper ends early at a directory in which its
path is too long.

Results:

* `runsHelper_iff`: when a helper runs.
* `usesAvailable_iff`: when an available helper is used.
* `not_usesAvailable_twoDirectories`: a host where it is not.
-/

namespace FuseMount.Unmount

/-! ## Specification -/

section

variable (host : Host) (mountPoint : Bytes) (r : Run (Except Error Unit))

/-- The run executes a helper from a directory in which it is tried, and nothing else. -/
def RunsHelper (helper : String) : Prop :=
  ∃ call, r.calls = [call] ∧
    host.Executes (Utf8.encode helper) [Utf8.encode "-u", mountPoint] call

/-- A directory of `PATH` has an executable file with the name of a helper. -/
def Available (helper : String) : Prop :=
  host.HasProgram (Utf8.encode helper)

/-- The run uses a helper if one is available, and the preferred one if that one is. -/
structure UsesAvailable : Prop where
  some_helper : Available host "fusermount3" ∨ Available host "fusermount" →
    RunsHelper host mountPoint r "fusermount3" ∨ RunsHelper host mountPoint r "fusermount"
  preferred : Available host "fusermount3" → RunsHelper host mountPoint r "fusermount3"

end

variable {host : Host} {platform : Platform} {mountPoint : Bytes}

/-! ## Programs that run -/

theorem getLast?_of_executes {name : Bytes} (hname : Host.IsFileName name)
    {arguments : List Bytes} {call : Call} (h : host.Executes name arguments call) :
    call.file.getLast? = some name := by
  obtain ⟨directory, -, code, diagnostics, content, hlook, -⟩ := h
  exact Host.getLast?_of_locate_programPath hname (Host.lookUp_eq_ok hlook).1

theorem command_linux_of_some {helper : String} (h : host.findHelper .linux default = some helper)
    (mountPoint : Bytes) :
    command host .linux mountPoint = (helper, [Utf8.encode "-u", mountPoint]) := by
  simp only [command, if_pos, h]

theorem command_linux_of_none (h : host.findHelper .linux default = none) (mountPoint : Bytes) :
    command host .linux mountPoint = ("umount", [mountPoint]) := by
  simp only [command, if_pos, h]

theorem isFileName_of_helper {helper : String}
    (h : helper = "fusermount3" ∨ helper = "fusermount") :
    Host.IsFileName (Utf8.encode helper) := by
  rcases h with rfl | rfl <;> decide

/-- No other program than the chosen one runs. -/
theorem eq_of_runsHelper (h : ¬MountPoint.isExternallyManaged mountPoint) {helper program : String}
    {arguments : List Bytes} (hname : Host.IsFileName (Utf8.encode helper))
    (hcommand : command host platform mountPoint = (program, arguments))
    (hruns : RunsHelper host mountPoint (unmount host platform mountPoint) helper) :
    helper = program := by
  obtain ⟨call, hcalls, hexec⟩ := hruns
  have hd := dispatched_command host platform mountPoint
  rw [hcommand] at hd
  have hattempt := attempt_unmount h hcommand hd.isFileName
  have hlast := (hattempt.of_mem_calls call (by rw [hcalls]; exact List.mem_singleton_self call)).1
  rw [getLast?_of_executes hname hexec, Option.some.injEq] at hlast
  exact Utf8.encode_injective hlast

/-- A helper runs exactly if it is the one that is chosen and the search for it reaches it. -/
theorem runsHelper_iff (h : ¬MountPoint.isExternallyManaged mountPoint) (hnul : 0 ∉ mountPoint)
    {helper : String} (hhelper : helper = "fusermount3" ∨ helper = "fusermount") :
    RunsHelper host mountPoint (unmount host .linux mountPoint) helper ↔
      host.findHelper .linux default = some helper ∧ host.Reaches (Utf8.encode helper) := by
  have hname := isFileName_of_helper hhelper
  have harguments : ∀ a ∈ [Utf8.encode "-u", mountPoint], 0 ∉ a :=
    List.forall_mem_cons.2 ⟨by decide, List.forall_mem_singleton.2 hnul⟩
  constructor
  · intro hruns
    cases hfind : host.findHelper .linux default with
    | none =>
      have heq := eq_of_runsHelper h hname (command_linux_of_none hfind mountPoint) hruns
      rcases hhelper with rfl | rfl <;> exact absurd heq (by decide)
    | some found =>
      have hcommand := command_linux_of_some hfind mountPoint
      obtain rfl := eq_of_runsHelper h hname hcommand hruns
      obtain ⟨call, hcalls, hexec⟩ := hruns
      rw [calls_unmount_eq h hcommand] at hcalls
      exact ⟨rfl, (Host.exists_calls_start_iff _ harguments).1 ⟨call, hcalls, hexec⟩⟩
  · rintro ⟨hfind, hreach⟩
    obtain ⟨call, hcalls, hexec⟩ := (Host.exists_calls_start_iff _ harguments).2 hreach
    rw [← calls_unmount_eq h (command_linux_of_some hfind mountPoint)] at hcalls
    exact ⟨call, hcalls, hexec⟩

section

variable (host) (h : ¬MountPoint.isExternallyManaged mountPoint) (hnul : 0 ∉ mountPoint)

include h hnul

/-- The preferred helper is chosen if a file has its name. -/
theorem runsHelper_fusermount3_iff :
    RunsHelper host mountPoint (unmount host .linux mountPoint) "fusermount3" ↔
      host.HasFile (Utf8.encode "fusermount3") ∧ host.Reaches (Utf8.encode "fusermount3") := by
  rw [runsHelper_iff h hnul (.inl rfl), Host.findHelper_linux_iff]
  simp

/-- The other helper is chosen only if no file has the name of the preferred one. -/
theorem runsHelper_fusermount_iff :
    RunsHelper host mountPoint (unmount host .linux mountPoint) "fusermount" ↔
      ¬host.HasFile (Utf8.encode "fusermount3") ∧ host.HasFile (Utf8.encode "fusermount") ∧
        host.Reaches (Utf8.encode "fusermount") := by
  rw [runsHelper_iff h hnul (.inr rfl), Host.findHelper_linux_iff]
  simp [and_assoc]

/-- An available helper is used exactly if the search for the one that is chosen reaches it. -/
theorem usesAvailable_iff_reaches :
    UsesAvailable host mountPoint (unmount host .linux mountPoint) ↔
      (Available host "fusermount3" ∨ Available host "fusermount" →
        if host.HasFile (Utf8.encode "fusermount3") then host.Reaches (Utf8.encode "fusermount3")
        else host.Reaches (Utf8.encode "fusermount")) := by
  have hfirst := runsHelper_fusermount3_iff host h hnul
  have hsecond := runsHelper_fusermount_iff host h hnul
  constructor
  · rintro ⟨hsome, -⟩ havailable
    rcases hsome havailable with hruns | hruns
    · obtain ⟨hfile, hreach⟩ := hfirst.1 hruns
      rwa [if_pos hfile]
    · obtain ⟨hfile, -, hreach⟩ := hsecond.1 hruns
      rwa [if_neg hfile]
  · intro hreach
    refine ⟨fun havailable => ?_, fun havailable => ?_⟩
    · have hchosen := hreach havailable
      split_ifs at hchosen with hfile
      · exact .inl (hfirst.2 ⟨hfile, hchosen⟩)
      · -- then it is the other helper that is available
        have hother := havailable.resolve_left (mt Host.HasProgram.hasFile hfile)
        exact .inr (hsecond.2 ⟨hfile, hother.hasFile, hchosen⟩)
    · have hchosen := hreach (.inl havailable)
      rw [if_pos havailable.hasFile] at hchosen
      exact hfirst.2 ⟨havailable.hasFile, hchosen⟩

end

/-! ## Main theorem -/

/-- **When an available helper is used.** It is exactly if the search for the helper that is chosen
reaches it; the preferred helper is chosen as soon as a file has its name, be it executable or not.
Where no path in `PATH` ends a search, the only hindrance is a file with the name of the preferred
helper that cannot be executed. -/
theorem usesAvailable_iff (host : Host) {mountPoint : Bytes}
    (h : ¬MountPoint.isExternallyManaged mountPoint) (hnul : 0 ∉ mountPoint) :
    let fusermount3 := Utf8.encode "fusermount3"
    let fusermount := Utf8.encode "fusermount"
    (UsesAvailable host mountPoint (unmount host .linux mountPoint) ↔
      (host.HasProgram fusermount3 ∨ host.HasProgram fusermount →
        if host.HasFile fusermount3 then host.Reaches fusermount3
        else host.Reaches fusermount)) ∧
    ((∀ d ∈ host.searchPath, ¬host.Blocks (Host.programPath d fusermount3) ∧
        ¬host.Blocks (Host.programPath d fusermount)) →
      (UsesAvailable host mountPoint (unmount host .linux mountPoint) ↔
        (host.HasProgram fusermount → ¬host.HasProgram fusermount3 →
          ¬host.HasFile fusermount3))) := by
  intro fusermount3 fusermount
  refine ⟨usesAvailable_iff_reaches host h hnul, fun hblocks => ?_⟩
  rw [usesAvailable_iff_reaches host h hnul]
  by_cases hpath : host.searchPath = []
  · -- without `PATH` no helper is available
    have hnone (name : Bytes) : ¬host.HasFile name := fun hfile => hfile.searchPath_ne_nil hpath
    exact iff_of_true
      (fun havailable => (havailable.elim (hnone _ ·.hasFile) (hnone _ ·.hasFile)).elim)
      fun _ _ => hnone fusermount3
  · rw [Host.reaches_iff_hasProgram hpath fun d hd => (hblocks d hd).1,
      Host.reaches_iff_hasProgram hpath fun d hd => (hblocks d hd).2]
    constructor
    · intro hused hother hfirst hfile
      have hchosen := hused (.inr hother)
      rw [if_pos hfile] at hchosen
      exact hfirst hchosen
    · intro hfree havailable
      by_cases hfirst : host.HasProgram fusermount3
      · rwa [if_pos hfirst.hasFile]
      · have hother := havailable.resolve_left hfirst
        rwa [if_neg (hfree hother hfirst)]

/-! ## Two hosts -/

/-- A host with two directories in `PATH`. The second one has an executable helper, which is not the
preferred one; in the first one something else has the name of the preferred helper. -/
def twoDirectories (other : Node) : Host where
  nodes := [([Utf8.encode "a", Utf8.encode "fusermount3"], other),
    ([Utf8.encode "b", Utf8.encode "fusermount"], .program true 0 [])]
  environment := { path := some (Utf8.encode "a:b") }

/-- A helper that cannot be executed is chosen, and the one that can be is not used. -/
theorem not_usesAvailable_twoDirectories :
    let host := twoDirectories (.program false 0 [])
    let mountPoint := Utf8.encode "/mnt/data"
    ¬MountPoint.isExternallyManaged mountPoint ∧ 0 ∉ mountPoint ∧ Available host "fusermount" ∧
      (unmount host .linux mountPoint).calls = [] ∧
      ¬UsesAvailable host mountPoint (unmount host .linux mountPoint) := by
  intro host mountPoint
  have havailable : Available host "fusermount" :=
    show host.HasProgram (Utf8.encode "fusermount") by decide +kernel
  have hcalls : (unmount host .linux mountPoint).calls = [] := by decide +kernel
  refine ⟨by decide +kernel, by decide +kernel, havailable, hcalls, fun h => ?_⟩
  rcases h.some_helper (.inr havailable) with ⟨call, hruns, -⟩ | ⟨call, hruns, -⟩ <;>
    cases hcalls.symm.trans hruns

/-- A directory is not taken for a helper, so it is no hindrance. -/
theorem usesAvailable_twoDirectories :
    let host := twoDirectories .directory
    let mountPoint := Utf8.encode "/mnt/data"
    ¬MountPoint.isExternallyManaged mountPoint ∧ 0 ∉ mountPoint ∧ Available host "fusermount" ∧
      UsesAvailable host mountPoint (unmount host .linux mountPoint) := by
  intro host mountPoint
  have hmanaged : ¬MountPoint.isExternallyManaged mountPoint := by decide +kernel
  have hnul : 0 ∉ mountPoint := by decide +kernel
  have havailable : host.HasProgram (Utf8.encode "fusermount") := by decide +kernel
  have hfile : ¬host.HasFile (Utf8.encode "fusermount3") := by decide +kernel
  have hblocks : ∀ d ∈ host.searchPath,
      ¬host.Blocks (Host.programPath d (Utf8.encode "fusermount3")) ∧
        ¬host.Blocks (Host.programPath d (Utf8.encode "fusermount")) := by
    decide +kernel
  exact ⟨hmanaged, hnul, havailable,
    ((usesAvailable_iff host hmanaged hnul).2 hblocks).2 fun _ _ => hfile⟩

end FuseMount.Unmount
