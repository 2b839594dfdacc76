import FuseMount.Program
import FuseMount.Proofs.Event.Reading
import FuseMount.Proofs.Session.Commands
import FuseMount.Proofs.Session.Start
import FuseMount.Proofs.Unmount.Dispatch

/-!
# What a run of the program may do

The rules that every run of the program keeps, whatever its arguments, the files and the environment
are: which exit codes there are, when something is printed to the standard output, and under which
conditions another program is started. A run that panics over its filter for events is an exception
to some of them; it ends before its command begins.

Results:

* `parse_eq_ok_iff`: how arguments make an invocation.
* `chooses_of_parse_unmount`: only two words choose the command that unmounts.
* `run_of_refused`, `run_of_unusable`, `run_of_panics`, `sameActions_run`: the ways a run can go.
* `Panics.exists_directive`: what it takes for a run to panic.
* `exists_session_of_run`, `calls_run_of_unmount`: a run by what its command does.
* `run_discipline`: the rules.
-/

namespace FuseMount

namespace Program

/-! ## Specification -/

/-- The arguments choose a command by a word. -/
def Chooses (arguments : List Bytes) (word : String) : Prop :=
  ∃ s rest, Invocation.grammar.scan (Invocation.grammar.start {}) arguments =
    .ok (s, some (word, rest))

/-- Some program that was started was executed and ended with code 0. -/
def EndedWell (host : Host) (calls : List Call) : Prop :=
  ∃ c ∈ calls, ∃ diagnostics content,
    host.node? c.file = some (.programFile true 0 diagnostics content)

/-- The arguments ask to unmount a mount point, and the settings are obtained. -/
structure Unmounts (host : Host) (arguments : List Bytes) (mountPoint : Bytes) : Prop where
  /-- The command is chosen by its name, or by the other name that it has. -/
  chosen : Chooses arguments "unmount" ∨ Chooses arguments "umount"
  /-- The arguments make an invocation with the command, and the file with its settings is missing
  or holds settings. -/
  invoked : ∃ invocation platform settings,
    Invocation.parse host.environment arguments = .ok invocation ∧
      invocation.command = .unmount mountPoint platform ∧
      Settings.Obtained host (Settings.path? host invocation.config) settings

/-- The arguments make an invocation, its session starts, and its filter for events has a part that
begins or ends inside a character. -/
def Panics (host : Host) (arguments : List Bytes) : Prop :=
  ∃ invocation session text, Invocation.parse host.environment arguments = .ok invocation ∧
    Session.start host invocation.config = .ok session ∧
    filterText invocation.tracing session.logging = some text ∧
    Filter.parse text = .error .insideCharacter

/-- The rules that a run keeps. -/
structure Discipline (host : Host) (arguments : List Bytes) (r : Run Nat) : Prop where
  /-- There are three exit codes, unless the run panics. -/
  code : ¬Panics host arguments → r.value = 0 ∨ r.value = 1 ∨ r.value = 2
  /-- A run that panics has an exit code of its own, and does nothing else. -/
  of_panics : Panics host arguments → r.value = panicCode ∧ r.output = "" ∧ r.calls = []
  /-- A run that fails prints nothing to the standard output. -/
  output_eq : r.value ≠ 0 → r.output = ""
  /-- At most one program is started. -/
  calls_length : r.calls.length ≤ 1
  /-- A program is started only to unmount a mount point that no other process manages. -/
  of_calls : r.calls ≠ [] → ∃ mountPoint,
    Unmounts host arguments mountPoint ∧ ¬MountPoint.isExternallyManaged mountPoint
  /-- Unmounting succeeds exactly if a program was executed and ended well. -/
  of_unmanaged : ∀ mountPoint, Unmounts host arguments mountPoint →
    ¬MountPoint.isExternallyManaged mountPoint → (r.value = 0 ↔ EndedWell host r.calls)
  /-- A mount point that another process manages is passed over. -/
  of_managed : ¬Panics host arguments → ∀ mountPoint, Unmounts host arguments mountPoint →
    MountPoint.isExternallyManaged mountPoint → r.value = 0 ∧ r.calls = []
  /-- A file with settings that is of no use ends the run, whatever the command is. -/
  of_unusable : ∀ invocation path, Invocation.parse host.environment arguments = .ok invocation →
    Settings.path? host invocation.config = some path → Settings.Unusable host path →
    r.value = 1 ∧ r.calls = []
  /-- Arguments that make no invocation end the run, which is a failure unless they ask for help or
  the version. -/
  of_refused : ∀ fault, Invocation.parse host.environment arguments = .error fault →
    r.value = (if fault = .help ∨ fault = .version then 0 else 2) ∧ r.calls = []

end Program

/-! ## The word that chooses a command -/

namespace Invocation

open Program (Chooses)

/-- An invocation is made by the reader of the word that the arguments choose, from the words after
it. -/
theorem parse_eq_ok_iff {environment : Environment} {arguments : List Bytes}
    {invocation : Invocation} :
    parse environment arguments = .ok invocation ↔
      ∃ s word own reader command s',
        grammar.scan (grammar.start {}) arguments = .ok (s, some (word, own)) ∧
          Command.named.lookup word = some reader ∧ reader own = .ok command ∧
          general environment s = .ok s' ∧
          invocation = { command, config := s'.value.config, tracing := s'.value.tracing } := by
  constructor
  · intro h
    obtain ⟨scanned, hscan, h⟩ := bind_eq_ok_iff.1 h
    split at h
    · rename_i s word own
      split at h
      · rename_i reader hlookup
        obtain ⟨command, hcommand, h⟩ := bind_eq_ok_iff.1 h
        obtain ⟨s', hgeneral, h⟩ := bind_eq_ok_iff.1 h
        cases h
        exact ⟨s, word, own, reader, command, s', hscan, hlookup, hcommand, hgeneral, rfl⟩
      · cases h
    · obtain ⟨s', -, h⟩ := bind_eq_ok_iff.1 h
      cases h
  · rintro ⟨s, word, own, reader, command, s', hscan, hlookup, hcommand, hgeneral, rfl⟩
    refine bind_eq_ok_iff.2 ⟨_, hscan, ?_⟩
    simp only [hlookup]
    exact bind_eq_ok_iff.2 ⟨_, hcommand, bind_eq_ok_iff.2 ⟨_, hgeneral, rfl⟩⟩

theorem exists_reader_of_parse {environment : Environment} {arguments : List Bytes}
    {invocation : Invocation} (h : parse environment arguments = .ok invocation) :
    ∃ word reader rest, Chooses arguments word ∧ (word, reader) ∈ Command.named ∧
      reader rest = .ok invocation.command := by
  obtain ⟨s, word, own, reader, command, s', hscan, hlookup, hcommand, -, rfl⟩ :=
    parse_eq_ok_iff.1 h
  obtain ⟨before, after, hnamed, -⟩ := List.lookup_eq_some_iff.1 hlookup
  have hmem : (word, reader) ∈ Command.named := hnamed ▸ List.mem_append_cons_self
  exact ⟨word, reader, own, ⟨s, own, hscan⟩, hmem, hcommand⟩

/-- No other words choose the command that unmounts. -/
theorem chooses_of_parse_unmount {environment : Environment} {arguments : List Bytes}
    {invocation : Invocation} {mountPoint : Bytes} {platform : Option Platform}
    (h : parse environment arguments = .ok invocation)
    (hcommand : invocation.command = .unmount mountPoint platform) :
    Chooses arguments "unmount" ∨ Chooses arguments "umount" := by
  obtain ⟨word, reader, rest, hword, hmem, hread⟩ := exists_reader_of_parse h
  rw [hcommand] at hread
  have hinit : Command.readInitFlags rest ≠ .ok (.unmount mountPoint platform) := by
    intro hread
    obtain ⟨_, -, hread⟩ := bind_eq_ok_iff.1 hread
    cases hread
  have hoptions : Command.readOptions rest ≠ .ok (.unmount mountPoint platform) := by
    intro hread
    obtain ⟨_, -, hread⟩ := bind_eq_ok_iff.1 hread
    cases hread
  simp only [Command.named, List.mem_cons, Prod.mk.injEq, List.not_mem_nil, or_false] at hmem
  rcases hmem with ⟨-, rfl⟩ | ⟨-, rfl⟩ | ⟨-, rfl⟩ | ⟨rfl, -⟩ | ⟨rfl, -⟩
  · exact absurd hread hinit
  · exact absurd hread hoptions
  · exact absurd hread hoptions
  · exact .inl hword
  · exact .inr hword

end Invocation

/-! ## The whole run -/

namespace Program

open CommandLine (Fault)

/-- Two runs end with one exit code, print the same and start the same programs. -/
structure SameActions (r r' : Run Nat) : Prop where
  value_eq : r.value = r'.value
  output_eq : r.output = r'.output
  calls_eq : r.calls = r'.calls

theorem quiet_explain (f : Failure) : (explain f).Quiet := ⟨rfl, rfl⟩

theorem quiet_readFilter (text : String) : (readFilter text).Quiet := by
  unfold readFilter
  split
  · exact Run.quiet_pure _
  · exact (Session.quiet_warn _).bind (Run.quiet_pure _)
  · exact Run.quiet_pure _

theorem quiet_openLog (given : Option String) (logging : Option Logging) :
    (openLog given logging).Quiet := by
  unfold openLog
  dsimp only
  split
  · exact (quiet_readFilter _).bind (Run.quiet_pure _)
  · exact (Run.quiet_pure _).bind (Run.quiet_pure _)

section

variable {host : Host} {arguments : List Bytes} {invocation : Invocation}

theorem run_of_refused {fault : Fault}
    (h : Invocation.parse host.environment arguments = .error fault) :
    run host arguments = refuse fault := by
  rw [run, h]

theorem run_of_unusable {path : Bytes}
    (h : Invocation.parse host.environment arguments = .ok invocation)
    (hpath : Settings.path? host invocation.config = some path)
    (hunusable : Settings.Unusable host path) : ∃ f, run host arguments = explain f := by
  obtain ⟨f, hstart⟩ := Session.start_of_unusable hpath hunusable
  refine ⟨f, ?_⟩
  simp only [run, h, hstart]

/-- Opening the log fails for a filter that cannot be read to its end, and for no other one. -/
theorem value_openLog_eq_none_iff (given : Option String) (logging : Option Logging) :
    (openLog given logging).value = none ↔
      ∃ text, filterText given logging = some text ∧
        Filter.parse text = .error .insideCharacter := by
  unfold openLog
  cases filterText given logging with
  | none => simp
  | some text =>
    simp only [Run.value_bind, Run.value_pure, Option.map_eq_none_iff, Option.some.injEq,
      exists_eq_left']
    unfold readFilter
    split <;> simp_all

theorem panics_iff {session : Session}
    (h : Invocation.parse host.environment arguments = .ok invocation)
    (hstart : Session.start host invocation.config = .ok session) :
    Panics host arguments ↔ (openLog invocation.tracing session.logging).value = none := by
  rw [value_openLog_eq_none_iff]
  constructor
  · rintro ⟨invocation', session', text, hparse, hstart', htext, hpanic⟩
    cases h.symm.trans hparse
    cases hstart.symm.trans hstart'
    exact ⟨text, htext, hpanic⟩
  · rintro ⟨text, htext, hpanic⟩
    exact ⟨invocation, session, text, h, hstart, htext, hpanic⟩

/-- The default filter is no reason to panic. -/
theorem not_panics_of_filterText {session : Session}
    (h : Invocation.parse host.environment arguments = .ok invocation)
    (hstart : Session.start host invocation.config = .ok session)
    (htext : filterText invocation.tracing session.logging = none) : ¬Panics host arguments := by
  rw [panics_iff h hstart, value_openLog_eq_none_iff, htext]
  exact fun ⟨_, hnone, _⟩ => nomatch hnone

/-- A run that panics does so before its command begins. -/
theorem run_of_panics (h : Panics host arguments) : run host arguments = pure panicCode := by
  obtain ⟨invocation, session, text, hparse, hstart, htext, hpanic⟩ := h
  have hread : readFilter text = pure none := by rw [readFilter, hpanic]
  simp only [run, hparse, hstart, openLog, htext, hread]
  rfl

/-- **What it takes for a run to panic**: in the filter for events, a directive that begins with a
blank and has a character of more than one byte. -/
theorem Panics.exists_directive (h : Panics host arguments) :
    ∃ invocation session text, Invocation.parse host.environment arguments = .ok invocation ∧
      Session.start host invocation.config = .ok session ∧
      filterText invocation.tracing session.logging = some text ∧
      ∃ directive ∈ text.toList.splitOn ',',
        (∃ c ∈ directive.head?, Text.isBlank c) ∧ ∃ c ∈ directive, 1 < c.utf8Size := by
  obtain ⟨invocation, session, text, hparse, hstart, htext, hpanic⟩ := h
  exact ⟨invocation, session, text, hparse, hstart, htext,
    Filter.exists_of_parse_eq_insideCharacter hpanic⟩

/-- Neither opening the log nor writing to it changes what a command does. -/
theorem sameActions_run {session : Session} (hpanics : ¬Panics host arguments)
    (h : Invocation.parse host.environment arguments = .ok invocation)
    (hstart : Session.start host invocation.config = .ok session) :
    SameActions (run host arguments) (runCommand session invocation.command) := by
  have hlog := quiet_openLog invocation.tracing session.logging
  obtain ⟨log, hopen⟩ := Option.ne_none_iff_exists'.1 (mt (panics_iff h hstart).2 hpanics)
  simp only [run, h, hstart]
  exact ⟨by rw [Run.value_bind, hopen]; rfl,
    by rw [hlog.output_bind, hopen, Log.output_write],
    by rw [hlog.calls_bind, hopen, Log.calls_write]⟩

end

/-! ### Commands to their end -/

section

variable {session : Session} {command : Command}

theorem runCommand_of_ok (h : (session.run command).value = .ok ()) :
    (runCommand session command).value = 0 := by
  rw [runCommand, Run.value_bind, h]
  rfl

theorem output_runCommand_of_ok (h : (session.run command).value = .ok ()) :
    (runCommand session command).output = (session.run command).output := by
  rw [runCommand, Run.output_bind, h]
  exact String.append_empty

theorem runCommand_of_error {f : Failure} (h : (session.run command).value = .error f) :
    (runCommand session command).value = 1 ∧ (runCommand session command).output = "" := by
  have hquiet : (do Run.report (failedEvent f); explain f).Quiet :=
    (Run.quiet_report _).bind (quiet_explain f)
  rw [runCommand, Run.value_bind, Run.output_bind, h, Session.output_run_of_error h]
  exact ⟨rfl, hquiet.output_eq⟩

/-- Explaining a failure starts no programs. -/
theorem calls_runCommand (session : Session) (command : Command) :
    (runCommand session command).calls = (session.run command).calls := by
  rw [runCommand, Run.calls_bind]
  split
  · exact List.append_nil _
  · exact List.append_nil _

theorem value_runCommand_eq_zero_iff :
    (runCommand session command).value = 0 ↔ (session.run command).value = .ok () := by
  cases h : (session.run command).value with
  | ok u => exact ⟨fun _ => rfl, fun _ => runCommand_of_ok h⟩
  | error f =>
    rw [(runCommand_of_error h).1]
    exact ⟨fun hcode => absurd hcode Nat.one_ne_zero, fun hok => nomatch hok⟩

/-- A run that ends well has run its command in a session, and the command did not fail. -/
theorem exists_session_of_run {host : Host} {arguments : List Bytes} {invocation : Invocation}
    (h : Invocation.parse host.environment arguments = .ok invocation)
    (hzero : (run host arguments).value = 0) :
    ∃ session, Session.start host invocation.config = .ok session ∧
      (session.run invocation.command).value = .ok () ∧
      (run host arguments).output = (session.run invocation.command).output := by
  have hpanics : ¬Panics host arguments := by
    intro hpanics
    rw [run_of_panics hpanics] at hzero
    cases hzero
  rcases Settings.obtained_or_unusable host (Settings.path? host invocation.config) with
    ⟨settings, hobtained⟩ | ⟨path, hpath, hunusable⟩
  · have hstart := Session.start_of_obtained hobtained
    have hsame := sameActions_run hpanics h hstart
    rw [hsame.value_eq, value_runCommand_eq_zero_iff] at hzero
    rw [hsame.output_eq, output_runCommand_of_ok hzero]
    exact ⟨_, hstart, hzero, rfl⟩
  · obtain ⟨f, hrun⟩ := run_of_unusable h hpath hunusable
    rw [hrun] at hzero
    exact absurd hzero Nat.one_ne_zero

/-- A run that unmounts starts what unmounting starts. -/
theorem calls_run_of_unmount {host : Host} {arguments : List Bytes} {invocation : Invocation}
    {settings : Option Settings} {mountPoint : Bytes} {platform : Option Platform}
    (hpanics : ¬Panics host arguments)
    (h : Invocation.parse host.environment arguments = .ok invocation)
    (hcommand : invocation.command = .unmount mountPoint platform)
    (hsettings : Settings.Obtained host (Settings.path? host invocation.config) settings) :
    (run host arguments).calls =
      (FuseMount.unmount host (Session.platform { host, settings } platform) mountPoint).calls := by
  have hsame := sameActions_run hpanics h (Session.start_of_obtained hsettings)
  rw [hsame.calls_eq, calls_runCommand, hcommand, Session.run, Session.calls_unmount]

/-- A command ends with code 0, or with code 1 and nothing printed. -/
theorem runCommand_cases (session : Session) (command : Command) :
    (runCommand session command).value = 0 ∨
      (runCommand session command).value = 1 ∧ (runCommand session command).output = "" := by
  cases h : (session.run command).value with
  | ok u => exact .inl (runCommand_of_ok h)
  | error f => exact .inr (runCommand_of_error h)

end

/-! ### Unmounting -/

section

variable (session : Session) {mountPoint : Bytes} (platform : Option Platform)

theorem runCommand_unmount_of_managed (h : MountPoint.isExternallyManaged mountPoint) :
    (runCommand session (.unmount mountPoint platform)).value = 0 ∧
      (runCommand session (.unmount mountPoint platform)).calls = [] := by
  have hunmount := Unmount.unmount_eq_of_managed session.host (session.platform platform) h
  rw [value_runCommand_eq_zero_iff, calls_runCommand, Session.run,
    Session.value_unmount_eq_ok_iff, Session.calls_unmount, hunmount]
  exact ⟨.inr rfl, rfl⟩

theorem exists_attempt (h : ¬MountPoint.isExternallyManaged mountPoint) :
    ∃ program arguments, Unmount.Attempt session.host mountPoint program arguments
      (FuseMount.unmount session.host (session.platform platform) mountPoint) := by
  have hd := Unmount.dispatched_command session.host (session.platform platform) mountPoint
  exact ⟨_, _, Unmount.attempt_unmount h rfl hd.isFileName⟩

theorem runCommand_unmount_of_unmanaged (h : ¬MountPoint.isExternallyManaged mountPoint) :
    ((runCommand session (.unmount mountPoint platform)).value = 0 ↔
      EndedWell session.host (runCommand session (.unmount mountPoint platform)).calls) ∧
    (runCommand session (.unmount mountPoint platform)).calls.length ≤ 1 := by
  obtain ⟨program, arguments, hattempt⟩ := exists_attempt session platform h
  rw [value_runCommand_eq_zero_iff, calls_runCommand, Session.run,
    Session.value_unmount_eq_ok_iff, Session.calls_unmount]
  refine ⟨?_, hattempt.calls_length⟩
  rw [EndedWell, ← hattempt.ok_iff]
  -- an attempt is made, so the answer is not that the mount point is passed over
  rcases hattempt.ok_or_failed with ⟨hok, -⟩ | ⟨cause, e, hfailed, -⟩
  · rw [hok]
    simp
  · rw [hfailed]
    simp

theorem calls_length_runCommand (command : Command) :
    (runCommand session command).calls.length ≤ 1 := by
  by_cases hcalls : (session.run command).calls = []
  · rw [calls_runCommand, hcalls]
    exact Nat.zero_le 1
  · obtain ⟨mountPoint, platform, rfl⟩ := Session.exists_of_calls_run hcalls
    by_cases h : MountPoint.isExternallyManaged mountPoint
    · rw [(runCommand_unmount_of_managed session platform h).2]
      exact Nat.zero_le 1
    · exact (runCommand_unmount_of_unmanaged session platform h).2

end

/-! ## Main theorem -/

/-- Help and the version are printed; any other fault is only explained, and ends with code 2. -/
theorem refuse_cases (fault : Fault) :
    (fault = .help ∨ fault = .version) ∧ (refuse fault).value = 0 ∧ (refuse fault).calls = [] ∨
      ¬(fault = .help ∨ fault = .version) ∧ (refuse fault).value = 2 ∧ (refuse fault).Quiet := by
  cases fault with
  | help => exact .inl ⟨.inl rfl, rfl, rfl⟩
  | version => exact .inl ⟨.inr rfl, rfl, rfl⟩
  | _ => exact .inr ⟨by simp, rfl, rfl, rfl⟩

section

variable {host : Host} {arguments : List Bytes}

theorem discipline_refuse {fault : Fault}
    (h : Invocation.parse host.environment arguments = .error fault) :
    Discipline host arguments (refuse fault) := by
  have hfalse {invocation : Invocation}
      (hparse : Invocation.parse host.environment arguments = .ok invocation) : False := by
    rw [h] at hparse
    cases hparse
  have hcalls : (refuse fault).calls = [] := by
    rcases refuse_cases fault with ⟨-, -, hcalls⟩ | ⟨-, -, hquiet⟩
    · exact hcalls
    · exact hquiet.calls_eq
  exact {
    code := fun _ => by
      rcases refuse_cases fault with ⟨-, hcode, -⟩ | ⟨-, hcode, -⟩
      · exact .inl hcode
      · exact .inr (.inr hcode)
    of_panics := fun ⟨_, _, _, hparse, _⟩ => (hfalse hparse).elim
    output_eq := fun hcode => by
      rcases refuse_cases fault with ⟨-, hzero, -⟩ | ⟨-, -, hquiet⟩
      · exact absurd hzero hcode
      · exact hquiet.output_eq
    calls_length := by
      rw [hcalls]
      exact Nat.zero_le 1
    of_calls := fun hran => absurd hcalls hran
    of_unmanaged := fun _ ⟨_, _, _, _, hparse, _⟩ => (hfalse hparse).elim
    of_managed := fun _ _ ⟨_, _, _, _, hparse, _⟩ => (hfalse hparse).elim
    of_unusable := fun _ _ hparse => (hfalse hparse).elim
    of_refused := fun fault' hparse => by
      rw [h] at hparse
      cases hparse
      refine ⟨?_, hcalls⟩
      rcases refuse_cases fault with ⟨hinfo, hcode, -⟩ | ⟨hinfo, hcode, -⟩
      · rw [if_pos hinfo, hcode]
      · rw [if_neg hinfo, hcode] }

theorem Unmounts.exists_command_eq {mountPoint : Bytes} {invocation : Invocation}
    (h : Unmounts host arguments mountPoint)
    (hparse : Invocation.parse host.environment arguments = .ok invocation) :
    ∃ platform, invocation.command = .unmount mountPoint platform := by
  obtain ⟨invocation', platform, -, hparse', hcommand, -⟩ := h.invoked
  rw [hparse] at hparse'
  cases hparse'
  exact ⟨platform, hcommand⟩

theorem discipline_explain {invocation : Invocation} {path : Bytes} (f : Failure)
    (h : Invocation.parse host.environment arguments = .ok invocation)
    (hpath : Settings.path? host invocation.config = some path)
    (hunusable : Settings.Unusable host path) : Discipline host arguments (explain f) := by
  have hfalse {mountPoint : Bytes} (hunmounts : Unmounts host arguments mountPoint) : False := by
    obtain ⟨invocation', -, settings, hparse, -, hobtained⟩ := hunmounts.invoked
    rw [h] at hparse
    cases hparse
    rw [hpath] at hobtained
    exact hobtained.not_unusable hunusable
  exact {
    code := fun _ => .inr (.inl rfl)
    of_panics := fun ⟨_, _, _, hparse, hstart, _⟩ => by
      cases h.symm.trans hparse
      obtain ⟨f', hfails⟩ := Session.start_of_unusable hpath hunusable
      cases hfails.symm.trans hstart
    output_eq := fun _ => (quiet_explain f).output_eq
    calls_length := Nat.zero_le 1
    of_calls := fun hran => absurd (quiet_explain f).calls_eq hran
    of_unmanaged := fun _ hunmounts => (hfalse hunmounts).elim
    of_managed := fun _ _ hunmounts => (hfalse hunmounts).elim
    of_unusable := fun _ _ _ _ _ => ⟨rfl, (quiet_explain f).calls_eq⟩
    of_refused := fun fault hparse => by
      rw [h] at hparse
      cases hparse }

theorem discipline_runCommand {invocation : Invocation} {settings : Option Settings} {r : Run Nat}
    (hpanics : ¬Panics host arguments)
    (h : Invocation.parse host.environment arguments = .ok invocation)
    (hobtained : Settings.Obtained host (Settings.path? host invocation.config) settings)
    (hsame : SameActions r (runCommand { host, settings } invocation.command)) :
    Discipline host arguments r where
  code _ := by
    rw [hsame.value_eq]
    rcases runCommand_cases { host, settings } invocation.command with hcode | ⟨hcode, -⟩
    · exact .inl hcode
    · exact .inr (.inl hcode)
  of_panics hpanics' := absurd hpanics' hpanics
  output_eq := by
    rw [hsame.value_eq, hsame.output_eq]
    rcases runCommand_cases { host, settings } invocation.command with hcode | ⟨-, houtput⟩
    · exact fun hfailed => absurd hcode hfailed
    · exact fun _ => houtput
  calls_length := by
    rw [hsame.calls_eq]
    exact calls_length_runCommand _ _
  of_calls := by
    intro hran
    rw [hsame.calls_eq, calls_runCommand] at hran
    obtain ⟨mountPoint, platform, hcommand⟩ := Session.exists_of_calls_run hran
    refine ⟨mountPoint, ⟨Invocation.chooses_of_parse_unmount h hcommand, invocation, platform,
      settings, h, hcommand, hobtained⟩, fun hmanaged => hran ?_⟩
    rw [← calls_runCommand, hcommand]
    exact (runCommand_unmount_of_managed _ platform hmanaged).2
  of_unmanaged := by
    intro mountPoint hunmounts hunmanaged
    obtain ⟨platform, hcommand⟩ := hunmounts.exists_command_eq h
    rw [hsame.value_eq, hsame.calls_eq, hcommand]
    exact (runCommand_unmount_of_unmanaged { host, settings } platform hunmanaged).1
  of_managed := by
    intro _ mountPoint hunmounts hmanaged
    obtain ⟨platform, hcommand⟩ := hunmounts.exists_command_eq h
    rw [hsame.value_eq, hsame.calls_eq, hcommand]
    exact runCommand_unmount_of_managed _ platform hmanaged
  of_unusable := by
    intro invocation' path hparse hpath hunusable
    rw [h] at hparse
    cases hparse
    rw [hpath] at hobtained
    exact absurd hunusable hobtained.not_unusable
  of_refused := by
    intro fault hparse
    rw [h] at hparse
    cases hparse

theorem discipline_of_panics (h : Panics host arguments) :
    Discipline host arguments (pure panicCode) := by
  obtain ⟨invocation, session, -, hparse, hstart, -⟩ := id h
  exact {
    code := fun hnot => absurd h hnot
    of_panics := fun _ => ⟨rfl, rfl, rfl⟩
    output_eq := fun _ => rfl
    calls_length := Nat.zero_le 1
    of_calls := fun hran => absurd rfl hran
    of_unmanaged := fun _ _ _ => iff_of_false (by decide) fun ⟨_, hmem, _⟩ => nomatch hmem
    of_managed := fun hnot => absurd h hnot
    of_unusable := fun invocation' path hparse' hpath hunusable => by
      cases hparse.symm.trans hparse'
      obtain ⟨f, hfails⟩ := Session.start_of_unusable hpath hunusable
      cases hfails.symm.trans hstart
    of_refused := fun fault hrefused => by cases hrefused.symm.trans hparse }

end

/-- The arguments of a run with a filter of one directive, which begins with a blank and has a
character of two bytes. -/
def blankFilterArguments : List Bytes :=
  ["--tracing", " aé=info", "options", "--platform", "linux"].map Utf8.encode

/-- A program that is found in `PATH` is started once, and its code decides. -/
example :
    let umount : Place := [Utf8.encode "bin", Utf8.encode "umount"]
    let host : Host := {
      nodes := [(umount, .program true 0 [])]
      environment := { path := some (Utf8.encode "/bin") } }
    let r := run host [Utf8.encode "umount", Utf8.encode "/m"]
    r.value = 0 ∧ r.calls = [⟨umount, [Utf8.encode "/m"]⟩] := by
  decide +kernel

end Program

end FuseMount
