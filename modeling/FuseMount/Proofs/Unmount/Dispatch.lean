import FuseMount.Proofs.Host.Start
import FuseMount.Unmount

/-!
# Which program unmounts

What unmounting does on any host, whatever its files, its `PATH` and its programs are. A mount point
that another process manages is left alone. Any other one gets one attempt: one program is chosen by
the platform, started once, and given the mount point as it is; its answer decides the result.

Results:

* `dispatched_command`: the program and the arguments of the attempt.
* `unmount_eq_of_managed`, `unmount_of_ok`, `unmount_of_error`: the whole run, case by case.
* `unmount_attempt`: what the run says, starts and reports.
-/

namespace FuseMount.Unmount

/-! ## Specification -/

/-- The programs that may unmount a mount point on a platform, with their arguments. -/
inductive Dispatched (platform : Platform) (mountPoint : Bytes) : String → List Bytes → Prop
  /-- On Linux, a mount helper that is told to unmount. -/
  | helper {program : String} (linux : platform = .linux)
      (fusermount : program = "fusermount3" ∨ program = "fusermount") :
      Dispatched platform mountPoint program [Utf8.encode "-u", mountPoint]
  /-- The program for mounts of any kind. -/
  | umount : Dispatched platform mountPoint "umount" [mountPoint]

/-- The errors that a run reported. -/
def errorEvents {α : Type} (r : Run α) : List Event :=
  r.events.filter (·.level = .error)

/-- The result that goes with what came of starting a program. -/
def resultOf (mountPoint : Bytes) (program : String) :
    Except SystemError Host.Exit → Except Error Unit
  | .error e => .error (.failed mountPoint e)
  | .ok exit =>
    if exit.code = 0 then .ok ()
    else .error (.failed mountPoint (.other (exitMessage program exit)))

/-- A run that makes one attempt to unmount a mount point. -/
structure Attempt (host : Host) (mountPoint : Bytes) (program : String) (arguments : List Bytes)
    (r : Run (Except Error Unit)) : Prop where
  /-- The attempt is announced; then the program is started, once and no other; after that there are
  only reports. -/
  effects_eq : ∃ reports : List Event, r.effects =
    .event (startedEvent program arguments) ::
      ((host.start (Utf8.encode program) arguments).effects ++ reports.map Effect.event)
  /-- The result is what came of starting the program, and of nothing else. -/
  value_eq : r.value =
    resultOf mountPoint program (host.start (Utf8.encode program) arguments).value
  /-- At most one program runs. -/
  calls_length : r.calls.length ≤ 1
  /-- A program that runs is the chosen one, with its arguments. -/
  of_mem_calls : ∀ c ∈ r.calls,
    c.file.getLast? = some (Utf8.encode program) ∧ c.arguments = arguments
  /-- The result is good exactly if a program ran and ended with code 0. -/
  ok_iff : r.value = .ok () ↔
    ∃ c ∈ r.calls, ∃ diagnostics content,
      host.node? c.file = some (.programFile true 0 diagnostics content)
  /-- Any other result names the mount point, and is reported as one error. -/
  ok_or_failed : (r.value = .ok () ∧ errorEvents r = []) ∨
    ∃ cause e, r.value = .error (.failed mountPoint cause) ∧ errorEvents r = [e]

/-! ## The choice of the program -/

theorem mem_helperCandidates_of_findHelper {host : Host} {platform : Platform}
    {implementation : Implementation} {helper : String}
    (h : host.findHelper platform implementation = some helper) :
    helper ∈ helperCandidates platform implementation :=
  List.mem_of_find?_eq_some h

theorem dispatched_command (host : Host) (platform : Platform) (mountPoint : Bytes) :
    Dispatched platform mountPoint (command host platform mountPoint).1
      (command host platform mountPoint).2 := by
  unfold command
  by_cases hp : platform = .linux
  · simp only [if_pos hp]
    cases hfind : host.findHelper platform default with
    | none => exact .umount
    | some helper =>
      have hmem := mem_helperCandidates_of_findHelper hfind
      rw [hp] at hmem
      exact .helper hp (by simpa [helperCandidates] using hmem)
  · simp only [if_neg hp]
    exact .umount

/-- Every program that may be chosen is found under its name in a directory. -/
theorem Dispatched.isFileName {platform : Platform} {mountPoint : Bytes} {program : String}
    {arguments : List Bytes} (h : Dispatched platform mountPoint program arguments) :
    Host.IsFileName (Utf8.encode program) := by
  cases h with
  | helper _ hprogram => rcases hprogram with rfl | rfl <;> decide
  | umount => decide

/-! ## The whole run -/

theorem unmount_eq_of_managed (host : Host) (platform : Platform) {mountPoint : Bytes}
    (h : MountPoint.isExternallyManaged mountPoint) :
    unmount host platform mountPoint =
      ⟨.error .externallyManaged, [.event (skippedEvent mountPoint)]⟩ := by
  rw [unmount, if_pos h]
  rfl

section

variable {host : Host} {platform : Platform} {mountPoint : Bytes} {program : String}
  {arguments : List Bytes}

theorem runProgram_of_start_error {e : SystemError}
    (h : host.start (Utf8.encode program) arguments = ⟨.error e, []⟩) :
    runProgram host program arguments = ⟨.error e, []⟩ := by
  rw [runProgram, h]
  rfl

theorem runProgram_of_start_ok {call : Call} {exit : Host.Exit}
    (h : host.start (Utf8.encode program) arguments = ⟨.ok exit, [.call call]⟩) :
    runProgram host program arguments =
      ⟨if exit.code = 0 then .ok () else .error (.other (exitMessage program exit)),
        [.call call]⟩ := by
  rw [runProgram, h]
  rfl

/-- The run of an attempt: it is announced, then there are calls, and then reports. -/
def attemptRun (value : Except Error Unit) (program : String) (arguments : List Bytes)
    (calls : List Call) (reports : List Event) : Run (Except Error Unit) :=
  ⟨value, .event (startedEvent program arguments) ::
    (calls.map Effect.call ++ reports.map Effect.event)⟩

theorem unmount_of_ok (h : ¬MountPoint.isExternallyManaged mountPoint)
    (hcommand : command host platform mountPoint = (program, arguments)) (calls : List Call)
    (hrun : runProgram host program arguments = ⟨.ok (), calls.map Effect.call⟩) :
    unmount host platform mountPoint = attemptRun (.ok ()) program arguments calls [] := by
  rw [unmount, if_neg h, hcommand]
  simp only [hrun]
  rfl

theorem unmount_of_error (h : ¬MountPoint.isExternallyManaged mountPoint)
    (hcommand : command host platform mountPoint = (program, arguments)) {cause : SystemError}
    (calls : List Call)
    (hrun : runProgram host program arguments = ⟨.error cause, calls.map Effect.call⟩) :
    unmount host platform mountPoint =
      attemptRun (.error (.failed mountPoint cause)) program arguments calls
        [failedEvent (.failed mountPoint cause)] := by
  rw [unmount, if_neg h, hcommand]
  simp only [hrun]
  rfl

/-! ## Attempts -/

theorem filterMap_map_of_some {α β : Type} {l : List α} {f : α → β} {p : β → Option α}
    (h : ∀ a, p (f a) = some a) : (l.map f).filterMap p = l := by
  rw [List.filterMap_map, show p ∘ f = some from funext h, List.filterMap_some]

theorem filterMap_map_of_none {α β γ : Type} {l : List α} {f : α → β} {p : β → Option γ}
    (h : ∀ a, p (f a) = none) : (l.map f).filterMap p = [] := by
  rw [List.filterMap_eq_nil_iff]
  intro b hb
  obtain ⟨a, -, rfl⟩ := List.mem_map.1 hb
  exact h a

theorem calls_attemptRun (value : Except Error Unit) (calls : List Call) (reports : List Event) :
    (attemptRun value program arguments calls reports).calls = calls := by
  have hcalls : (calls.map Effect.call).filterMap Effect.call? = calls :=
    filterMap_map_of_some fun _ => rfl
  have hreports : (reports.map Effect.event).filterMap Effect.call? = [] :=
    filterMap_map_of_none fun _ => rfl
  unfold Run.calls attemptRun
  rw [List.filterMap_cons_none rfl, List.filterMap_append, hcalls, hreports, List.append_nil]

theorem errorEvents_attemptRun (value : Except Error Unit) (calls : List Call)
    (reports : List Event) :
    errorEvents (attemptRun value program arguments calls reports) =
      reports.filter (·.level = .error) := by
  have hstarted : Effect.event? (.event (startedEvent program arguments)) =
      some (startedEvent program arguments) := rfl
  have hcalls : (calls.map Effect.call).filterMap Effect.event? = [] :=
    filterMap_map_of_none fun _ => rfl
  have hreports : (reports.map Effect.event).filterMap Effect.event? = reports :=
    filterMap_map_of_some fun _ => rfl
  unfold errorEvents Run.events attemptRun
  rw [List.filterMap_cons_some hstarted, List.filterMap_append, hcalls, hreports, List.nil_append,
    List.filter_cons_of_neg (by simp [startedEvent])]

theorem exists_code_zero_iff {name : Bytes} {call : Call} {exit : Host.Exit}
    (hexec : host.Executed name arguments call exit) :
    (∃ c ∈ [call], ∃ diagnostics content,
        host.node? c.file = some (.programFile true 0 diagnostics content)) ↔ exit.code = 0 := by
  obtain ⟨content, hnode⟩ := hexec.node_eq
  constructor
  · rintro ⟨c, hc, diagnostics, content', hzero⟩
    rw [List.mem_singleton.1 hc, hnode, Option.some.injEq, Node.programFile.injEq] at hzero
    exact hzero.2.1
  · intro hcode
    exact ⟨call, List.mem_singleton_self call, exit.diagnostics, content, hcode ▸ hnode⟩

/-- An attempt from its parts: what was called, and which result and reports go with that. -/
theorem attempt_attemptRun {value : Except Error Unit} {calls : List Call} {reports : List Event}
    (hstart : (host.start (Utf8.encode program) arguments).effects = calls.map Effect.call)
    (hresult :
      value = resultOf mountPoint program (host.start (Utf8.encode program) arguments).value)
    (hlength : calls.length ≤ 1)
    (hcalls : ∀ c ∈ calls, c.file.getLast? = some (Utf8.encode program) ∧ c.arguments = arguments)
    (hok : value = .ok () ↔
      ∃ c ∈ calls, ∃ diagnostics content,
        host.node? c.file = some (.programFile true 0 diagnostics content))
    (hvalue : (value = .ok () ∧ reports.filter (·.level = .error) = []) ∨
      ∃ cause e, value = .error (.failed mountPoint cause) ∧
        reports.filter (·.level = .error) = [e]) :
    Attempt host mountPoint program arguments
      (attemptRun value program arguments calls reports) where
  effects_eq := ⟨reports, by rw [hstart, attemptRun]⟩
  value_eq := hresult
  calls_length := by rwa [calls_attemptRun]
  of_mem_calls := by rwa [calls_attemptRun]
  ok_iff := by rwa [calls_attemptRun]
  ok_or_failed := by rwa [errorEvents_attemptRun]

theorem attempt_unmount (h : ¬MountPoint.isExternallyManaged mountPoint)
    (hcommand : command host platform mountPoint = (program, arguments))
    (hname : Host.IsFileName (Utf8.encode program)) :
    Attempt host mountPoint program arguments (unmount host platform mountPoint) := by
  rcases host.start_cases hname arguments with ⟨e, hstart⟩ | ⟨call, exit, hstart, hexec⟩
  · -- nothing ran
    have hrun := runProgram_of_start_error hstart
    rw [unmount_of_error h hcommand [] hrun]
    exact attempt_attemptRun (by rw [hstart]; rfl) (by rw [hstart]; rfl) (Nat.zero_le 1) (by simp)
      (by simp) (.inr ⟨e, _, rfl, rfl⟩)
  · have hrun := runProgram_of_start_ok hstart
    have hcalls : ∀ c ∈ [call],
        c.file.getLast? = some (Utf8.encode program) ∧ c.arguments = arguments := by
      intro c hc
      rw [List.mem_singleton.1 hc]
      exact ⟨hexec.name_eq, hexec.arguments_eq⟩
    have hzero := exists_code_zero_iff hexec
    have heffects : (host.start (Utf8.encode program) arguments).effects = [.call call] := by
      rw [hstart]
    by_cases hcode : exit.code = 0
    · rw [if_pos hcode] at hrun
      rw [unmount_of_ok h hcommand [call] hrun]
      exact attempt_attemptRun heffects (by rw [hstart, resultOf, if_pos hcode]) (Nat.le_refl 1)
        hcalls ⟨fun _ => hzero.2 hcode, fun _ => rfl⟩ (.inl ⟨rfl, rfl⟩)
    · rw [if_neg hcode] at hrun
      rw [unmount_of_error h hcommand [call] hrun]
      refine attempt_attemptRun heffects (by rw [hstart, resultOf, if_neg hcode]) (Nat.le_refl 1)
        hcalls ⟨?_, ?_⟩ (.inr ⟨_, _, rfl, rfl⟩)
      · intro hok
        cases hok
      · intro hran
        exact absurd (hzero.1 hran) hcode

/-- What runs is what comes of starting the chosen program. -/
theorem calls_unmount_eq (h : ¬MountPoint.isExternallyManaged mountPoint)
    (hcommand : command host platform mountPoint = (program, arguments)) :
    (unmount host platform mountPoint).calls =
      (host.start (Utf8.encode program) arguments).calls := by
  have hname := (dispatched_command host platform mountPoint).isFileName
  rw [hcommand] at hname
  obtain ⟨reports, heffects⟩ := (attempt_unmount h hcommand hname).effects_eq
  have hreports : (reports.map Effect.event).filterMap Effect.call? = [] :=
    filterMap_map_of_none fun _ => rfl
  rw [Run.calls, heffects, List.filterMap_cons_none rfl, List.filterMap_append, hreports,
    List.append_nil]
  rfl

end

/-! ## Main theorem -/

/-- **Safety of unmounting.** A mount point that another process manages is left alone: no program
runs and no error is reported. Any other mount point gets exactly one attempt, with a program and
arguments that its platform allows. -/
theorem unmount_attempt (host : Host) (platform : Platform) (mountPoint : Bytes) :
    let r := unmount host platform mountPoint
    if MountPoint.isExternallyManaged mountPoint then
      r.value = .error .externallyManaged ∧ r.calls = [] ∧ errorEvents r = []
    else
      ∃ program arguments, Dispatched platform mountPoint program arguments ∧
        Attempt host mountPoint program arguments r := by
  intro r
  by_cases h : MountPoint.isExternallyManaged mountPoint
  · rw [if_pos h, show r = _ from unmount_eq_of_managed host platform h]
    exact ⟨rfl, rfl, rfl⟩
  · rw [if_neg h]
    have hd := dispatched_command host platform mountPoint
    exact ⟨_, _, hd, attempt_unmount h rfl hd.isFileName⟩

end FuseMount.Unmount
