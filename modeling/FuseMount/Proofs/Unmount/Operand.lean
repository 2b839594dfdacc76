import FuseMount.Proofs.Program.Discipline

/-!
# The mount point among the arguments of a program

Most programs take an argument that begins with a dash for an option, unless two dashes stand before
it. A mount point may begin with a dash too: as a relative path, or on the command line after two
dashes of its own. A mount helper is given two dashes before the mount point whatever it is. The
program that unmounts is not, so it is given an operand only if the mount point begins otherwise.
Nothing on the way to it refuses such a mount point.

Results:

* `isOperand_helperArguments`: the mount point for a helper.
* `Dispatched.isOperand_iff`: the mount point for a program that unmounts.
* `calls_run_umountOnly`: any mount point after two dashes gets through.
* `isOperand_iff_not_dash`: when a mount point is an operand, and which ones need not be.
* `not_isOperand_umountAll`: a mount point that is taken for an option.
-/

namespace FuseMount.Unmount

open CommandLine (dash)

/-! ## Specification -/

/-- Among arguments, a path cannot be taken for an option: it does not begin with a dash, or an
argument of two dashes comes before it. -/
def IsOperand (arguments : List Bytes) (path : Bytes) : Prop :=
  path.head? ≠ some dash ∨
    ∃ before after, arguments = before ++ path :: after ∧ Utf8.encode "--" ∈ before

/-! ## Arguments -/

/-- What comes before an argument is not the last one. -/
theorem isOperand_iff_of_notMem {arguments : List Bytes} {path : Bytes}
    (h : Utf8.encode "--" ∉ arguments.dropLast) :
    IsOperand arguments path ↔ path.head? ≠ some dash := by
  refine ⟨?_, .inl⟩
  rintro (hhead | ⟨before, after, rfl, hmem⟩)
  · exact hhead
  · rw [List.dropLast_append_cons] at h
    exact absurd (List.mem_append_left _ hmem) h

theorem isOperand_helperArguments (options : Options) (mountPoint : Bytes) :
    IsOperand (helperArguments options mountPoint) mountPoint :=
  .inr ⟨[Utf8.encode "-o", Utf8.encode options.render, Utf8.encode "--"], [], rfl, by simp⟩

section

variable {platform : Platform} {mountPoint : Bytes} {program : String} {arguments : List Bytes}
  (h : Dispatched platform mountPoint program arguments)

include h

/-- Neither of the two ways to unmount has dashes before the mount point. -/
theorem Dispatched.isOperand_iff :
    IsOperand arguments mountPoint ↔ mountPoint.head? ≠ some dash := by
  refine isOperand_iff_of_notMem ?_
  cases h with
  | helper linux fusermount =>
    show Utf8.encode "--" ∉ [Utf8.encode "-u"]
    decide
  | umount => exact List.not_mem_nil

theorem Dispatched.mountPoint_mem : mountPoint ∈ arguments := by
  cases h <;> simp

end

/-! ## Programs that are started -/

section

variable {host : Host} {platform : Platform} {mountPoint : Bytes} {call : Call}

theorem not_managed_of_mem_calls (hcall : call ∈ (unmount host platform mountPoint).calls) :
    ¬MountPoint.isExternallyManaged mountPoint := by
  intro h
  rw [unmount_eq_of_managed host platform h] at hcall
  cases hcall

theorem arguments_of_mem_calls (hcall : call ∈ (unmount host platform mountPoint).calls) :
    call.arguments = (command host platform mountPoint).2 := by
  have hname := (dispatched_command host platform mountPoint).isFileName
  have hattempt := attempt_unmount (not_managed_of_mem_calls hcall) rfl hname
  exact (hattempt.of_mem_calls call hcall).2

/-- No program can be given a NUL byte. -/
theorem nul_notMem_of_mem_calls (hcall : call ∈ (unmount host platform mountPoint).calls) :
    0 ∉ mountPoint := by
  intro hnul
  have hmem := (dispatched_command host platform mountPoint).mountPoint_mem
  have hcalls : (unmount host platform mountPoint).calls =
      (host.start (Utf8.encode (command host platform mountPoint).1)
        (command host platform mountPoint).2).calls :=
    calls_unmount_eq (not_managed_of_mem_calls hcall) rfl
  rw [hcalls, Host.start_of_nul host _ hmem hnul] at hcall
  cases hcall

/-- What a run of the program starts, unmounting starts. -/
theorem exists_mem_calls_of_run {arguments : List Bytes}
    (h : Program.Unmounts host arguments mountPoint)
    (hcall : call ∈ (Program.run host arguments).calls) :
    ∃ platform, call ∈ (unmount host platform mountPoint).calls := by
  obtain ⟨invocation, platform, settings, hparse, hcommand, hobtained⟩ := h.invoked
  have hpanics : ¬Program.Panics host arguments := by
    intro hpanics
    rw [Program.run_of_panics hpanics] at hcall
    cases hcall
  rw [Program.calls_run_of_unmount hpanics hparse hcommand hobtained] at hcall
  exact ⟨_, hcall⟩

end

/-! ## Mount points that get through -/

/-- A host with nothing but the program for mounts of any kind. -/
def umountOnly : Host where
  nodes := [([Utf8.encode "bin", Utf8.encode "umount"], .program true 0 [])]
  environment := { path := some (Utf8.encode "bin") }

/-- The arguments that ask to unmount what comes after two dashes. -/
def unmountAfterDashes (mountPoint : Bytes) : List Bytes :=
  [Utf8.encode "unmount", Utf8.encode "--", mountPoint]

/-- The program for mounts of any kind, with a mount point. -/
def umountCall (mountPoint : Bytes) : Call :=
  ⟨[Utf8.encode "bin", Utf8.encode "umount"], [mountPoint]⟩

section

variable {mountPoint : Bytes}

theorem parse_unmountAfterDashes (h : mountPoint ≠ []) :
    Invocation.parse umountOnly.environment (unmountAfterDashes mountPoint) =
      .ok { command := .unmount mountPoint none } := by
  cases mountPoint with
  | nil => exact absurd rfl h
  | cons b rest => rfl

theorem unmounts_unmountAfterDashes (h : mountPoint ≠ []) :
    Program.Unmounts umountOnly (unmountAfterDashes mountPoint) mountPoint where
  chosen := Invocation.chooses_of_parse_unmount (parse_unmountAfterDashes h) rfl
  invoked := ⟨_, none, none, parse_unmountAfterDashes h, rfl, .noPath⟩

theorem calls_unmount_umountOnly (platform : Platform)
    (hmanaged : ¬MountPoint.isExternallyManaged mountPoint) (hnul : 0 ∉ mountPoint) :
    (unmount umountOnly platform mountPoint).calls = [umountCall mountPoint] := by
  have hcommand : command umountOnly platform mountPoint = ("umount", [mountPoint]) := by
    cases platform <;> rfl
  rw [calls_unmount_eq hmanaged hcommand, Host.start, if_neg (by simpa using hnul)]
  rfl

theorem not_panics_umountOnly (h : mountPoint ≠ []) :
    ¬Program.Panics umountOnly (unmountAfterDashes mountPoint) := by
  have hstart : Session.start umountOnly none = .ok { host := umountOnly } := rfl
  exact Program.not_panics_of_filterText (parse_unmountAfterDashes h) hstart rfl

theorem calls_run_umountOnly (hne : mountPoint ≠ [])
    (hmanaged : ¬MountPoint.isExternallyManaged mountPoint) (hnul : 0 ∉ mountPoint) :
    (Program.run umountOnly (unmountAfterDashes mountPoint)).calls = [umountCall mountPoint] := by
  rw [Program.calls_run_of_unmount (not_panics_umountOnly hne) (parse_unmountAfterDashes hne) rfl
    .noPath]
  exact calls_unmount_umountOnly _ hmanaged hnul

/-- A path that begins with a dash is relative, so no other process manages it. -/
theorem exists_run_of_dash (hdash : mountPoint.head? = some dash) (hnul : 0 ∉ mountPoint) :
    ∃ host arguments call, Program.Unmounts host arguments mountPoint ∧
      call ∈ (Program.run host arguments).calls ∧ ¬IsOperand call.arguments mountPoint := by
  obtain ⟨rest, rfl⟩ : ∃ rest, mountPoint = dash :: rest := List.head?_eq_some_iff.1 hdash
  have hmanaged : ¬MountPoint.isExternallyManaged (dash :: rest) := Bool.false_ne_true
  have hdispatched : Dispatched .other (dash :: rest) "umount" [dash :: rest] := .umount
  have hcalls := calls_run_umountOnly (List.cons_ne_nil dash rest) hmanaged hnul
  refine ⟨umountOnly, unmountAfterDashes (dash :: rest), umountCall (dash :: rest),
    unmounts_unmountAfterDashes (List.cons_ne_nil dash rest), ?_, ?_⟩
  · rw [hcalls]
    exact List.mem_singleton_self _
  · exact fun h => hdispatched.isOperand_iff.1 h hdash

end

/-! ## Main theorem -/

/-- **When a mount point is an operand.** A mount helper is always given one. A program that unmounts
is given one exactly if the mount point does not begin with a dash, whatever the host, the platform
and the program are; this is so for the arguments that are chosen, for those that unmounting starts
a program with, and for those that a run of the whole program does. And such runs there are for
every mount point that begins with a dash, unless it cannot be an argument at all. -/
theorem isOperand_iff_not_dash (mountPoint : Bytes) :
    (∀ options, IsOperand (helperArguments options mountPoint) mountPoint) ∧
      (∀ host : Host,
        (∀ platform, IsOperand (command host platform mountPoint).2 mountPoint ↔
          mountPoint.head? ≠ some dash) ∧
        (∀ platform, ∀ call ∈ (unmount host platform mountPoint).calls,
          (IsOperand call.arguments mountPoint ↔ mountPoint.head? ≠ some dash)) ∧
        ∀ arguments, Program.Unmounts host arguments mountPoint →
          ∀ call ∈ (Program.run host arguments).calls,
            (IsOperand call.arguments mountPoint ↔ mountPoint.head? ≠ some dash)) ∧
      ((∃ host arguments call, Program.Unmounts host arguments mountPoint ∧
          call ∈ (Program.run host arguments).calls ∧ ¬IsOperand call.arguments mountPoint) ↔
        mountPoint.head? = some dash ∧ 0 ∉ mountPoint) := by
  have hcommand (host : Host) (platform : Platform) :
      IsOperand (command host platform mountPoint).2 mountPoint ↔
        mountPoint.head? ≠ some dash :=
    (dispatched_command host platform mountPoint).isOperand_iff
  have hunmount (host : Host) (platform : Platform) (call : Call)
      (hcall : call ∈ (unmount host platform mountPoint).calls) :
      IsOperand call.arguments mountPoint ↔ mountPoint.head? ≠ some dash := by
    rw [arguments_of_mem_calls hcall]
    exact hcommand host platform
  refine ⟨fun options => isOperand_helperArguments options mountPoint,
    fun host => ⟨hcommand host, hunmount host, fun arguments h call hcall => ?_⟩, ?_, ?_⟩
  · obtain ⟨platform, hcall⟩ := exists_mem_calls_of_run h hcall
    exact hunmount host platform call hcall
  · rintro ⟨host, arguments, call, h, hcall, hnot⟩
    obtain ⟨platform, hcall⟩ := exists_mem_calls_of_run h hcall
    rw [hunmount host platform call hcall, Decidable.not_not] at hnot
    exact ⟨hnot, nul_notMem_of_mem_calls hcall⟩
  · rintro ⟨hdash, hnul⟩
    exact exists_run_of_dash hdash hnul

/-- The two dashes on the command line are not passed on, so `umount` is told to unmount
everything. -/
theorem not_isOperand_umountAll :
    let mountPoint := Utf8.encode "-a"
    Program.Unmounts umountOnly (unmountAfterDashes mountPoint) mountPoint ∧
      (Program.run umountOnly (unmountAfterDashes mountPoint)).calls = [umountCall mountPoint] ∧
      (unmount umountOnly .other mountPoint).calls = [umountCall mountPoint] ∧
      ¬IsOperand (umountCall mountPoint).arguments mountPoint := by
  intro mountPoint
  refine ⟨unmounts_unmountAfterDashes (by decide), by decide +kernel, by decide +kernel, ?_⟩
  show ¬IsOperand [mountPoint] mountPoint
  rw [isOperand_iff_of_notMem List.not_mem_nil]
  decide

/-- A mount point with a dash after a slash is an operand. -/
theorem isOperand_iff_not_dash_absolute :
    let mountPoint := Utf8.encode "/-a"
    Program.Unmounts umountOnly (unmountAfterDashes mountPoint) mountPoint ∧
      umountCall mountPoint ∈ (unmount umountOnly .other mountPoint).calls ∧
      umountCall mountPoint ∈ (Program.run umountOnly (unmountAfterDashes mountPoint)).calls ∧
      IsOperand (umountCall mountPoint).arguments mountPoint := by
  intro mountPoint
  have hunmounts : Program.Unmounts umountOnly (unmountAfterDashes mountPoint) mountPoint :=
    unmounts_unmountAfterDashes (by decide)
  have hcall : umountCall mountPoint ∈ (unmount umountOnly .other mountPoint).calls := by
    decide +kernel
  have hrun : umountCall mountPoint ∈
      (Program.run umountOnly (unmountAfterDashes mountPoint)).calls := by
    decide +kernel
  exact ⟨hunmounts, hcall, hrun, (((isOperand_iff_not_dash mountPoint).2.1 umountOnly).2.2
    (unmountAfterDashes mountPoint) hunmounts (umountCall mountPoint) hrun).2 (by decide)⟩

end FuseMount.Unmount
