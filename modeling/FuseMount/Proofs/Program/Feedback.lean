import FuseMount.Proofs.CommandLine.Override
import FuseMount.Proofs.Program.Discipline
import FuseMount.Proofs.Session.FlagSheet
import FuseMount.Proofs.Text.Encoding

/-!
# Feeding the printed flags back

A run that prints capability flags prints first a word that the option for an offer reads. Put into
the same command line as the offer, in place of the one that is there or as a new one, it makes the
program do the very same again.

Results:

* `Command.overrides_offered`: the option for an offer has nothing to do with the other arguments.
* `Invocation.parse_of_reoffered`: the invocation that the changed command line makes.
* `run_of_reoffered`: the run of the changed command line.
* `flagReport_run`: what such a run prints, and that it can be fed back.
-/

namespace FuseMount

/-! ## Specification -/

namespace Program

open CommandLine (Regiven)

/-- Arguments that print capability flags, and the same arguments with another offer. -/
def Reoffered (line : Bytes) (arguments arguments' : List Bytes) : Prop :=
  ∃ s front own own',
    Invocation.grammar.scan (Invocation.grammar.start {}) arguments =
        .ok (s, some ("init-flags", own)) ∧
      arguments = front ++ own ∧ arguments' = front ++ own' ∧ Regiven "offered" line own own'

/-- What a run that prints capability flags comes to. -/
structure FlagReport (host : Host) (arguments : List Bytes) (flags : InitFlags) (first : String)
    (names : List String) : Prop where
  value_eq : (run host arguments).value = 0
  /-- The flags are shown by a numeral and by names. -/
  sheet : Session.Sheet (run host arguments).output flags first names
  /-- The numeral can be offered on the same command line, -/
  exists_reoffered : ∃ arguments', Reoffered (Utf8.encode first) arguments arguments'
  /-- and then the run is the same. -/
  run_eq : ∀ arguments', Reoffered (Utf8.encode first) arguments arguments' →
    run host arguments' = run host arguments

end Program

/-! ## The option for an offer -/

namespace Command

open CommandLine

/-- The parameter for an offer. -/
def offeredParameter : Parameter (MountFlags × Option InitFlags) where
  shown := "--offered <OFFERED>"
  take bytes := (fun v s => (s.1, some v)) <$>
    readBy InitFlags.parse InitFlags.BadNumeral.message bytes

/-- None of the options about a mount is confused with the one for an offer. -/
theorem shown_ne_of_mem_mountFlags : ∀ flag ∈ mountFlags, flag.shown ≠ offeredParameter.shown ∧
    ∀ p, flag.action = .value p → p.shown ≠ offeredParameter.shown := by
  simp [mountFlags, platformFlag, Flag.withValue, Flag.switch, Flag.repeated, Flag.orShort,
    Flag.shown, offeredParameter]

theorem mem_flags_initFlagsGrammar {flag : Flag (MountFlags × Option InitFlags)}
    (h : flag ∈ initFlagsGrammar.flags) :
    (∃ mountFlag ∈ mountFlags, flag = mountFlag.within fun f => Prod.map f id) ∨
      flag.long = "offered" ∧ flag.short = none ∧ flag.action = .value offeredParameter ∨
        flag = .help := by
  simp only [initFlagsGrammar, mountGrammar, List.mem_append, List.mem_map, List.mem_cons,
    List.not_mem_nil, or_false] at h
  obtain ⟨mountFlag, hmem, rfl⟩ | rfl | rfl := h
  · exact .inl ⟨mountFlag, hmem, rfl⟩
  · exact .inr (.inl ⟨rfl, rfl, rfl⟩)
  · exact .inr (.inr rfl)

theorem overrides_offered (offered : InitFlags) :
    initFlagsGrammar.Overrides "offered" offeredParameter fun s => (s.1, some offered) where
  operands_eq := rfl
  commands_eq := rfl
  encode_ne_nil := by decide +kernel
  equalsSign_notMem := by decide +kernel
  find_eq := ⟨_, rfl, rfl⟩
  repeats_eq := rfl
  set_take bytes own htake a := by
    obtain ⟨v, -, rfl⟩ := map_eq_ok_iff.1 htake
    rfl
  of_switch flag hflag f haction := by
    obtain ⟨mountFlag, hmem, rfl⟩ | ⟨-, -, hvalue⟩ | rfl := mem_flags_initFlagsGrammar hflag
    · refine ⟨(shown_ne_of_mem_mountFlags mountFlag hmem).1, ?_⟩
      unfold Flag.within at haction
      cases hmount : mountFlag.action with
      | switch set =>
        simp only [hmount] at haction
        cases haction
        exact fun a => rfl
      | _ => simp [hmount] at haction
    · simp [hvalue] at haction
    · cases haction
  of_value flag hflag q haction := by
    obtain ⟨mountFlag, hmem, rfl⟩ | ⟨hlong, hshort, hvalue⟩ | rfl :=
      mem_flags_initFlagsGrammar hflag
    · unfold Flag.within at haction
      cases hmount : mountFlag.action with
      | value p =>
        simp only [hmount] at haction
        cases haction
        refine .inr ⟨(shown_ne_of_mem_mountFlags mountFlag hmem).2 p hmount, ?_⟩
        intro bytes f htake a
        obtain ⟨set, -, rfl⟩ := map_eq_ok_iff.1 htake
        rfl
      | _ => simp [hmount] at haction
    · rw [hvalue] at haction
      cases haction
      exact .inl ⟨hlong, hshort, rfl, rfl⟩
    · cases haction

/-- The printed word is taken for the set it stands for. -/
theorem take_paddedHex (flags : InitFlags) :
    offeredParameter.take (Utf8.encode flags.paddedHex) = .ok fun s => (s.1, some flags) := by
  have htext : readText (Utf8.encode flags.paddedHex) = .ok flags.paddedHex := by
    rw [readText, Utf8.decode?_encode]
  have hread : readBy InitFlags.parse InitFlags.BadNumeral.message
      (Utf8.encode flags.paddedHex) = .ok flags :=
    bind_eq_ok_iff.2 ⟨_, htext, by rw [flags.parse_paddedHex]; rfl⟩
  simp only [offeredParameter, hread]
  rfl

theorem ofBytes_paddedHex (flags : InitFlags) :
    Word.ofBytes (Utf8.encode flags.paddedHex) = .plain := by
  have hzero : String.utf8EncodeChar '0' = [0x30] := by decide
  rw [Utf8.encode, flags.toList_paddedHex, List.flatMap_cons, hzero]
  rfl

theorem readInitFlags_regiven {mount : MountFlags} {offered : Option InitFlags} {flags : InitFlags}
    {words words' : List Bytes}
    (hwords : Regiven "offered" (Utf8.encode flags.paddedHex) words words')
    (hread : readInitFlags words = .ok (.initFlags mount offered)) :
    readInitFlags words' = .ok (.initFlags mount (some flags)) := by
  obtain ⟨⟨mount', offered'⟩, hread, h⟩ := bind_eq_ok_iff.1 hread
  cases h
  have hread' := (overrides_offered flags).read (ofBytes_paddedHex flags) (take_paddedHex flags)
    hwords hread
  exact bind_eq_ok_iff.2 ⟨_, hread', rfl⟩

end Command

/-! ## The invocation -/

namespace Invocation

open CommandLine Program

theorem parse_of_reoffered {environment : Environment} {arguments arguments' : List Bytes}
    {invocation : Invocation} {mount : MountFlags} {offered : Option InitFlags} {flags : InitFlags}
    (h : parse environment arguments = .ok invocation)
    (hcommand : invocation.command = .initFlags mount offered)
    (hwords : Reoffered (Utf8.encode flags.paddedHex) arguments arguments') :
    parse environment arguments' =
      .ok { invocation with command := .initFlags mount (some flags) } := by
  obtain ⟨s, front, own, own', hscan, rfl, rfl, hregiven⟩ := hwords
  have hscan' : grammar.scan (grammar.start {}) (front ++ own') =
      .ok (s, some ("init-flags", own')) := by
    obtain ⟨front', heq, hfront⟩ := Grammar.exists_append_of_scan hscan
    rw [List.append_cancel_right heq]
    exact hfront own'
  obtain ⟨s₁, word, own₁, reader, command, s', hscan₁, hlookup, hread, hgeneral, rfl⟩ :=
    parse_eq_ok_iff.1 h
  rw [hscan] at hscan₁
  cases hscan₁
  cases hlookup
  cases hcommand
  exact parse_eq_ok_iff.2 ⟨s, _, own', _, _, s', hscan', rfl,
    Command.readInitFlags_regiven hregiven hread, hgeneral, rfl⟩

/-- One word alone chooses the command that prints flags. -/
theorem exists_own_of_parse {environment : Environment} {arguments : List Bytes}
    {invocation : Invocation} {mount : MountFlags} {offered : Option InitFlags}
    (h : parse environment arguments = .ok invocation)
    (hcommand : invocation.command = .initFlags mount offered) :
    ∃ s own, grammar.scan (grammar.start {}) arguments = .ok (s, some ("init-flags", own)) ∧
      Command.readInitFlags own = .ok (.initFlags mount offered) := by
  obtain ⟨s, word, own, reader, command, s', hscan, hlookup, hread, -, rfl⟩ := parse_eq_ok_iff.1 h
  obtain rfl : command = .initFlags mount offered := hcommand
  have hoptions : Command.readOptions own ≠ .ok (.initFlags mount offered) := by
    intro hread
    obtain ⟨_, -, hread⟩ := bind_eq_ok_iff.1 hread
    cases hread
  have hunmount : Command.readUnmount own ≠ .ok (.initFlags mount offered) := by
    intro hread
    obtain ⟨_, -, hread⟩ := bind_eq_ok_iff.1 hread
    cases hread
  obtain ⟨before, after, hnamed, -⟩ := List.lookup_eq_some_iff.1 hlookup
  have hmem : (word, reader) ∈ Command.named := hnamed ▸ List.mem_append_cons_self
  simp only [Command.named, List.mem_cons, Prod.mk.injEq, List.not_mem_nil, or_false] at hmem
  rcases hmem with ⟨rfl, rfl⟩ | ⟨-, rfl⟩ | ⟨-, rfl⟩ | ⟨-, rfl⟩ | ⟨-, rfl⟩
  · exact ⟨s, own, hscan, hread⟩
  · exact absurd hread hoptions
  · exact absurd hread hoptions
  · exact absurd hread hunmount
  · exact absurd hread hunmount

theorem exists_reoffered (line : Bytes) {environment : Environment} {arguments : List Bytes}
    {invocation : Invocation} {mount : MountFlags} {offered : Option InitFlags}
    (h : parse environment arguments = .ok invocation)
    (hcommand : invocation.command = .initFlags mount offered) :
    ∃ arguments', Reoffered line arguments arguments' := by
  obtain ⟨s, own, hscan, hread⟩ := exists_own_of_parse h hcommand
  obtain ⟨front, rfl, -⟩ := Grammar.exists_append_of_scan hscan
  obtain ⟨value, hvalue, -⟩ := bind_eq_ok_iff.1 hread
  -- That the option is given in one way only does not depend on the value it gets.
  obtain ⟨own', hown⟩ := (Command.overrides_offered ∅).exists_regiven line hvalue
  exact ⟨_, s, front, own, own', hscan, rfl, rfl, hown⟩

end Invocation

/-! ## The run -/

namespace Program

variable {host : Host} {arguments : List Bytes} {invocation : Invocation} {session : Session}
  {mount : MountFlags} {offered : Option InitFlags}

/-- Offering what is left of the flags changes nothing. -/
theorem run_of_reoffered {arguments' : List Bytes}
    (h : Invocation.parse host.environment arguments = .ok invocation)
    (hcommand : invocation.command = .initFlags mount offered)
    (hstart : Session.start host invocation.config = .ok session)
    (hwords : Reoffered (Utf8.encode (session.agreed mount offered).paddedHex) arguments
      arguments') : run host arguments' = run host arguments := by
  have hsession : session.run (.initFlags mount (some (session.agreed mount offered))) =
      session.run invocation.command := by
    rw [hcommand]
    exact session.printInitFlags_agreed mount offered
  simp only [run, h, Invocation.parse_of_reoffered h hcommand hwords, hstart, runCommand,
    hsession]

/-- **The printed flags can be read back and fed back.** Whatever the settings, the arguments about
the mount and the offer are, the first line is a numeral for the flags that are left, and the other
lines name each of them and no other flag. The numeral can be offered on the same command line, and
then the program does the same again. This holds of every run that does not panic over its filter
for events before it prints anything. -/
theorem flagReport_run (hpanics : ¬Panics host arguments)
    (h : Invocation.parse host.environment arguments = .ok invocation)
    (hcommand : invocation.command = .initFlags mount offered)
    (hstart : Session.start host invocation.config = .ok session) :
    ∃ first names,
      FlagReport host arguments (session.agreed mount offered) first names := by
  have hsame := sameActions_run hpanics h hstart
  have hvalue : (session.run invocation.command).value = .ok () := by
    rw [hcommand]
    exact session.value_printInitFlags mount offered
  have houtput : (run host arguments).output =
      Session.flagsText (session.agreed mount offered) := by
    rw [hsame.output_eq, output_runCommand_of_ok hvalue, hcommand]
    exact session.output_printInitFlags mount offered
  exact ⟨_, _, {
    value_eq := hsame.value_eq.trans (runCommand_of_ok hvalue)
    sheet := houtput ▸ Session.sheet_flagsText (session.known_agreed mount offered)
    exists_reoffered := Invocation.exists_reoffered _ h hcommand
    run_eq := fun arguments' hwords => run_of_reoffered h hcommand hstart hwords }⟩

/-- The arguments of a run that prints the flags of a mount after an offer. -/
def offerArguments : List Bytes :=
  ["init-flags", "--platform", "linux", "--offered", "0x400020"].map Utf8.encode

theorem flagReport_run_offerArguments :
    ∃ first names, FlagReport {} offerArguments ⟨0x400020⟩ first names := by
  have hparse : Invocation.parse {} offerArguments =
      .ok { command := .initFlags { platform := some .linux } (some ⟨0x400020⟩) } := by
    decide +kernel
  have hagreed : Session.agreed { host := {} } { platform := some .linux } (some ⟨0x400020⟩) =
      ⟨0x400020⟩ := by decide +kernel
  have hstart : Session.start {} none = .ok { host := {} } := rfl
  have hpanics : ¬Panics {} offerArguments := not_panics_of_filterText hparse hstart rfl
  exact hagreed ▸ flagReport_run hpanics hparse rfl hstart

end Program

end FuseMount
