import FuseMount.Proofs.CommandLine.Unmentioned
import FuseMount.Proofs.Program.DefaultFilter
import FuseMount.Proofs.Program.Discipline

/-!
# Which events a run shows

A run shows the events of its command that a filter lets through: the filter that is given, or that
of the section on logging in the settings, or the default one. A given filter leaves the section
without any say in this, and so has the format in any case.

A section without a filter is another matter. Its filter counts as the empty text, which does not
fall back to the default: it is a filter that lets nothing through. So a section that only chooses a
format hides every failure to unmount, which is what the default filter shows of the commands.

A filter that cannot be read to its end makes the run panic, and then there is no log.

Results:

* `Invocation.tracing_eq_none`: when no filter is given.
* `exists_effects_run_eq`: a run by the events of its command and the log.
* `logRules`: which events are shown, for any settings.
* `hidden_jsonUnmount`: a failure that choosing a format hides.
-/

namespace FuseMount

/-! ## Specification -/

namespace Session

/-- The session with something else said about logging, if there are settings. -/
def withLogging (session : Session) (logging : Option Logging) : Session :=
  { session with settings := session.settings.map fun s => { s with logging } }

/-- The settings choose no filter: they say nothing about logging, or at most the format. -/
def ChoosesNoFilter (session : Session) : Prop :=
  ∀ logging ∈ session.logging, logging.filter = ""

end Session

namespace Program

/-- Neither the arguments nor the environment give a filter. -/
structure GivesNoFilter (host : Host) (arguments : List Bytes) : Prop where
  environment_eq : host.environment.tracing = none
  not_mentions : ∀ word ∈ arguments, ¬CommandLine.Mentions "tracing" word

/-- The arguments make an invocation, and its session starts. -/
structure Reaches (host : Host) (arguments : List Bytes) (invocation : Invocation)
    (session : Session) : Prop where
  parse_eq : Invocation.parse host.environment arguments = .ok invocation
  start_eq : Session.start host invocation.config = .ok session

/-- The log of a command, if a filter is given or not. -/
def logOf (session : Session) (given : Option String) : Option Log :=
  (openLog given session.logging).value

/-- The filter of that log. -/
def filterOf (session : Session) (given : Option String) : Option Filter :=
  (logOf session given).map (·.filter)

/-- The events of a command that its log shows. -/
def shownEvents (session : Session) (given : Option String) (command : Command) : List Event :=
  match filterOf session given with
  | some filter => (runCommand session command).events.filter filter.passes
  | none => []

/-- Which events a run shows. -/
structure LogRules (host : Host) (arguments : List Bytes) (invocation : Invocation)
    (session : Session) : Prop where
  /-- After warnings, if any, the run does what the command does, and the log shows its events. -/
  effects_eq : ∀ log, logOf session invocation.tracing = some log →
    ∃ warnings : List String, (run host arguments).effects =
      warnings.map Effect.diagnostic ++
        (runCommand session invocation.command).effects.filterMap log.show?
  /-- There is a log unless the run panics. -/
  logOf_eq_none_iff : logOf session invocation.tracing = none ↔ Panics host arguments
  tracing_eq_none : GivesNoFilter host arguments → invocation.tracing = none
  /-- The format has no part in what is shown. -/
  of_format : ∀ logging format, session.logging = some logging →
    shownEvents (session.withLogging (some { logging with format })) invocation.tracing
      invocation.command = shownEvents session invocation.tracing invocation.command
  /-- A given filter alone decides, whatever the settings say about logging. -/
  of_given : ∀ text filter, invocation.tracing = some text → Filter.parse text = .ok filter →
    ∀ logging, filterOf (session.withLogging logging) (some text) = some filter ∧
      shownEvents (session.withLogging logging) (some text) invocation.command =
        (runCommand session invocation.command).events.filter filter.passes
  /-- Where no filter is given or chosen, the filter is the default one exactly if the settings say
  nothing about logging. -/
  filter_eq_iff : invocation.tracing = none → session.ChoosesNoFilter →
    (filterOf session none = some Log.defaultFilter ↔ session.logging = none)
  /-- No other filter could let the same events through. -/
  passes_eq_iff : invocation.tracing = none → session.ChoosesNoFilter →
    ((∃ filter, filterOf session none = some filter ∧
        ∀ e, filter.passes e = Log.defaultFilter.passes e) ↔ session.logging = none)
  /-- If they say something else, nothing is shown. -/
  shown_eq_nil : invocation.tracing = none → session.ChoosesNoFilter → session.logging ≠ none →
    shownEvents session none invocation.command = []
  /-- So the command shows something else than without the section exactly if it reports an
  error. -/
  shown_eq_iff : invocation.tracing = none → session.ChoosesNoFilter →
    (shownEvents session none invocation.command =
        shownEvents (session.withLogging none) none invocation.command ↔
      session.logging = none ∨ Unmount.errorEvents (runCommand session invocation.command) = [])

end Program

/-! ## Whether a filter is given -/

namespace Invocation

open CommandLine

/-- The other parameter says nothing about the filter. -/
theorem keeps_configParameter : configParameter.Keeps fun g : General => g.tracing = none := by
  intro bytes set htake g hg
  obtain ⟨path, -, rfl⟩ := map_eq_ok_iff.1 htake
  exact hg

theorem keepsBut_tracing : grammar.KeepsBut "tracing" fun g => g.tracing = none where
  operands_eq := rfl
  encode_ne_nil := by decide +kernel
  of_flag flag hflag := by
    simp only [grammar, List.mem_cons, List.not_mem_nil, or_false] at hflag
    obtain rfl | rfl | rfl | rfl := hflag
    · exact .inr keeps_configParameter
    · exact .inl ⟨rfl, rfl⟩
    · exact .inr trivial
    · exact .inr trivial

theorem kept_fallBack {holds : General → Prop} {s s' : Progress General} {p : Parameter General}
    {value : Option Bytes} (hs : s.Kept holds) (hp : p.Keeps holds)
    (h : fallBack s p value = .ok s') : s'.Kept holds := by
  unfold fallBack at h
  split at h
  · split at h
    · cases h
      exact hs
    · exact hs.give hp h
  · cases h
    exact hs

theorem kept_general {environment : Environment} {s s' : Progress General}
    (henvironment : environment.tracing = none) (hs : s.Kept fun g => g.tracing = none)
    (h : general environment s = .ok s') : s'.Kept fun g => g.tracing = none := by
  obtain ⟨settled, hresolve, h⟩ := bind_eq_ok_iff.1 h
  obtain ⟨t, hconfig, h⟩ := bind_eq_ok_iff.1 h
  rw [henvironment] at h
  cases h
  exact kept_fallBack (hs.resolve hresolve) keeps_configParameter hconfig

theorem tracing_eq_none {host : Host} {arguments : List Bytes} {invocation : Invocation}
    (hgiven : Program.GivesNoFilter host arguments)
    (h : parse host.environment arguments = .ok invocation) : invocation.tracing = none := by
  obtain ⟨s, word, own, reader, command, s', hscan, -, -, hgeneral, rfl⟩ := parse_eq_ok_iff.1 h
  have hstart : (grammar.start {}).Kept fun g => g.tracing = none := ⟨rfl, nofun, rfl⟩
  have hs := hstart.scan keepsBut_tracing hgiven.not_mentions hscan
  exact (kept_general hgiven.environment_eq hs hgeneral).value

end Invocation

/-! ## Logging and the commands -/

namespace Session

variable (session : Session) (logging : Option Logging)

/-- A session without settings does not get any by this. -/
theorem logging_withLogging_of_ne_none (h : session.logging ≠ none) :
    (session.withLogging logging).logging = logging := by
  obtain ⟨host, _ | settings⟩ := session
  · exact absurd rfl h
  · rfl

@[simp] theorem logging_withLogging_none : (session.withLogging none).logging = none := by
  obtain ⟨host, _ | settings⟩ := session <;> rfl

@[simp] theorem host_withLogging : (session.withLogging logging).host = session.host := rfl

@[simp] theorem platform_withLogging (given : Option Platform) :
    (session.withLogging logging).platform given = session.platform given := by
  obtain ⟨host, _ | settings⟩ := session <;> rfl

@[simp] theorem config_withLogging (flags : MountFlags) :
    (session.withLogging logging).config flags = session.config flags := by
  obtain ⟨host, _ | settings⟩ := session <;> rfl

/-- No command reads what is said about logging. -/
theorem run_withLogging (command : Command) :
    (session.withLogging logging).run command = session.run command := by
  cases command with
  | initFlags flags offered =>
    simp only [run, printInitFlags, platform_withLogging, config_withLogging]
  | options flags mountPoint =>
    simp only [run, printOptions, host_withLogging, platform_withLogging, config_withLogging]
  | unmount mountPoint platform =>
    simp only [run, unmount, host_withLogging, platform_withLogging]

end Session

namespace Program

theorem runCommand_withLogging (session : Session) (logging : Option Logging) (command : Command) :
    runCommand (session.withLogging logging) command = runCommand session command := by
  rw [runCommand, runCommand, session.run_withLogging]

/-! ## The filter of a log -/

section

variable {session : Session}

theorem effects_readFilter (text : String) :
    ∃ warnings : List String, (readFilter text).effects = warnings.map Effect.diagnostic := by
  unfold readFilter
  split
  · exact ⟨[], rfl⟩
  · exact ⟨[_], rfl⟩
  · exact ⟨[], rfl⟩

theorem effects_openLog (given : Option String) (logging : Option Logging) :
    ∃ warnings : List String,
      (openLog given logging).effects = warnings.map Effect.diagnostic := by
  unfold openLog
  split
  · obtain ⟨warnings, h⟩ := effects_readFilter ‹String›
    exact ⟨warnings, by rw [Run.effects_bind, h]; exact List.append_nil _⟩
  · exact ⟨[], rfl⟩

theorem filterOf_eq_of_filterText {given : Option String} {text : String}
    (h : filterText given session.logging = some text) :
    filterOf session given = (readFilter text).value := by
  rw [filterOf, logOf, openLog, h]
  simp only [Run.value_bind, Run.value_pure]
  cases (readFilter text).value with
  | none => rfl
  | some filter => rfl

theorem filterOf_of_none (h : session.logging = none) :
    filterOf session none = some Log.defaultFilter := by
  rw [filterOf, logOf, h]
  rfl

/-- The filter of a section that chooses none is the empty text. -/
theorem filterOf_of_choosesNoFilter (hchooses : session.ChoosesNoFilter)
    (h : session.logging ≠ none) : filterOf session none = some ⟨[]⟩ := by
  obtain ⟨logging, hlogging⟩ := Option.ne_none_iff_exists'.1 h
  have htext : filterText none session.logging = some "" := by
    rw [filterText, hlogging, ← hchooses logging hlogging]
    rfl
  rw [filterOf_eq_of_filterText htext, readFilter, Filter.parse_empty]
  rfl

/-- Choosing a format leaves the filter as it is. -/
theorem filterOf_withLogging {logging : Logging} (format : Option LogFormat)
    (h : session.logging = some logging) (given : Option String) :
    filterOf (session.withLogging (some { logging with format })) given =
      filterOf session given := by
  have hne : session.logging ≠ none := by simp [h]
  have hchosen := session.logging_withLogging_of_ne_none (some { logging with format }) hne
  obtain ⟨text, htext⟩ : ∃ text, filterText given session.logging = some text := by
    rw [filterText, h]
    cases given with
    | some text => exact ⟨text, rfl⟩
    | none => exact ⟨logging.filter, rfl⟩
  have htext' : filterText given (session.withLogging (some { logging with format })).logging =
      some text := by
    rw [hchosen, ← htext, h]
    rfl
  rw [filterOf_eq_of_filterText htext, filterOf_eq_of_filterText htext']

/-! ## What is shown -/

theorem shownEvents_of_filterOf {given : Option String} {filter : Filter}
    (h : filterOf session given = some filter) (command : Command) :
    shownEvents session given command =
      (runCommand session command).events.filter filter.passes := by
  rw [shownEvents, h]

theorem shownEvents_eq_errorEvents (h : session.logging = none) (command : Command) :
    shownEvents session none command = Unmount.errorEvents (runCommand session command) := by
  rw [shownEvents_of_filterOf (filterOf_of_none h), filter_passes_runCommand]

theorem shownEvents_eq_nil (hchooses : session.ChoosesNoFilter) (h : session.logging ≠ none)
    (command : Command) : shownEvents session none command = [] := by
  rw [shownEvents_of_filterOf (filterOf_of_choosesNoFilter hchooses h)]
  exact List.filter_eq_nil_iff.2 fun e _ => Filter.not_passes_nil e

end

theorem exists_effects_run_eq {host : Host} {arguments : List Bytes} {invocation : Invocation}
    {session : Session} (h : Reaches host arguments invocation session) {log : Log}
    (hlog : logOf session invocation.tracing = some log) :
    ∃ warnings : List String, (run host arguments).effects =
      warnings.map Effect.diagnostic ++
        (runCommand session invocation.command).effects.filterMap log.show? := by
  obtain ⟨warnings, hopen⟩ := effects_openLog invocation.tracing session.logging
  refine ⟨warnings, ?_⟩
  rw [← hopen]
  simp only [run, h.parse_eq, h.start_eq]
  rw [Run.effects_bind, show (openLog invocation.tracing session.logging).value = some log from hlog]
  rfl

/-! ## Main theorem -/

/-- **Which events a run shows.** A filter that is given decides alone. If none is given and the
settings choose none either, the default filter is in force exactly if the settings say nothing
about logging; if they say anything, also if it is only a format, no event is shown, so that every
failure to unmount is lost. -/
theorem logRules {host : Host} {arguments : List Bytes} {invocation : Invocation}
    {session : Session} (h : Reaches host arguments invocation session) :
    LogRules host arguments invocation session where
  effects_eq _ hlog := exists_effects_run_eq h hlog
  logOf_eq_none_iff := (panics_iff h.parse_eq h.start_eq).symm
  tracing_eq_none hgiven := Invocation.tracing_eq_none hgiven h.parse_eq
  of_format logging format hlogging := by
    rw [shownEvents, shownEvents, runCommand_withLogging, filterOf_withLogging format hlogging]
  of_given text filter htext hparse logging := by
    have hfilter : filterOf (session.withLogging logging) (some text) = some filter := by
      rw [filterOf_eq_of_filterText rfl, readFilter, hparse]
      rfl
    refine ⟨hfilter, ?_⟩
    rw [shownEvents_of_filterOf hfilter, runCommand_withLogging]
  filter_eq_iff _ hchooses := by
    refine ⟨fun hfilter => ?_, filterOf_of_none⟩
    by_contra hne
    rw [filterOf_of_choosesNoFilter hchooses hne] at hfilter
    cases hfilter
  passes_eq_iff _ hchooses := by
    refine ⟨?_, fun hnone => ⟨_, filterOf_of_none hnone, fun _ => rfl⟩⟩
    rintro ⟨filter, hfilter, hpasses⟩
    by_contra hne
    rw [filterOf_of_choosesNoFilter hchooses hne] at hfilter
    cases hfilter
    -- a failure to unmount tells the two filters apart
    have hfailed := hpasses (Unmount.failedEvent .externallyManaged)
    revert hfailed
    decide
  shown_eq_nil _ hchooses hne := shownEvents_eq_nil hchooses hne invocation.command
  shown_eq_iff _ hchooses := by
    rw [shownEvents_eq_errorEvents session.logging_withLogging_none, runCommand_withLogging]
    by_cases hnone : session.logging = none
    · rw [shownEvents_eq_errorEvents hnone]
      exact ⟨fun _ => .inl hnone, fun _ => rfl⟩
    · rw [shownEvents_eq_nil hchooses hnone]
      exact ⟨fun herrors => .inr herrors.symm, fun h => (h.resolve_left hnone).symm⟩

/-- A host whose settings choose a format for the log and nothing else, and where nothing can be
unmounted. -/
def jsonHost : Host where
  nodes :=
    [([Utf8.encode "c"],
        .file (Utf8.encode "\x7b\"tracing\": \x7b\"format\": \"json\"\x7d\x7d")),
      ([Utf8.encode "bin", Utf8.encode "umount"], .program true 5 (Utf8.encode "busy"))]
  environment := { path := some (Utf8.encode "bin") }

/-- The arguments that ask to unmount with these settings. -/
def jsonArguments : List Bytes :=
  ["-c", "c", "unmount", "/m", "--platform", "other"].map Utf8.encode

/-- What they ask for. -/
def jsonInvocation : Invocation where
  command := .unmount (Utf8.encode "/m") (some .other)
  config := some (Utf8.encode "c")

/-- The session of these settings. -/
def jsonSession : Session where
  host := jsonHost
  settings := some { logging := some { format := some .json } }

/-- The event for the failure to unmount. -/
def jsonFailure : Event :=
  Unmount.failedEvent
    (.failed (Utf8.encode "/m") (.other "umount exited with exit status: 5: busy"))

theorem reaches_json : Reaches jsonHost jsonArguments jsonInvocation jsonSession :=
  ⟨by decide +kernel, by decide +kernel⟩

theorem givesNoFilter_json : GivesNoFilter jsonHost jsonArguments := ⟨rfl, by decide +kernel⟩

theorem choosesNoFilter_json : jsonSession.ChoosesNoFilter := by
  rintro logging hlogging
  cases hlogging
  rfl

/-- The failure to unmount is not shown. Without the section that chooses the format it is. -/
theorem hidden_jsonUnmount :
    Reaches jsonHost jsonArguments jsonInvocation jsonSession ∧
      GivesNoFilter jsonHost jsonArguments ∧ jsonSession.ChoosesNoFilter ∧
      (∃ filter, filterOf jsonSession jsonInvocation.tracing = some filter ∧
        filter ≠ Log.defaultFilter) ∧
      shownEvents jsonSession jsonInvocation.tracing jsonInvocation.command = [] ∧
      shownEvents (jsonSession.withLogging none) jsonInvocation.tracing jsonInvocation.command =
        [jsonFailure] :=
  ⟨reaches_json, givesNoFilter_json, choosesNoFilter_json, ⟨⟨[]⟩, by decide +kernel, by decide⟩,
    by decide +kernel, by decide +kernel⟩

/-- The same arguments, and with a filter before them; then the failure is shown, whatever the
settings say about logging. -/
theorem logRules_jsonUnmount :
    let arguments := ["--tracing", "error"].map Utf8.encode ++ jsonArguments
    let invocation := { jsonInvocation with tracing := some "error" }
    (GivesNoFilter jsonHost jsonArguments ∧ jsonSession.ChoosesNoFilter ∧
        LogRules jsonHost jsonArguments jsonInvocation jsonSession) ∧
      LogRules jsonHost arguments invocation jsonSession ∧
      ∀ logging, shownEvents (jsonSession.withLogging logging) (some "error") invocation.command =
        [jsonFailure] := by
  intro arguments invocation
  have hgiven : Reaches jsonHost arguments invocation jsonSession :=
    ⟨by decide +kernel, by decide +kernel⟩
  have hparse : Filter.parse "error" = .ok ⟨[{ limit := some .error }]⟩ := by decide +kernel
  refine ⟨⟨givesNoFilter_json, choosesNoFilter_json, logRules reaches_json⟩, logRules hgiven,
    fun logging => ?_⟩
  rw [((logRules hgiven).of_given "error" _ rfl hparse logging).2]
  decide +kernel

end Program

end FuseMount
