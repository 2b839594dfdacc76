import FuseMount.Proofs.Options.Argument
import FuseMount.Proofs.Options.Emptiness
import FuseMount.Proofs.Program.Discipline
import FuseMount.Proofs.Text.Encoding

/-!
# The line that starts a mount helper

A helper takes the options as one argument, and nothing is checked about it before the line is
printed. It is never empty all the same: the platforms that have helpers are the ones on which every
configuration means an option with a name.

Results:

* `helperCandidates_eq_nil_iff`: the platforms without helpers.
* `printsHelperLine_of_ok`: what the command prints if it succeeds.
* `options_argument_ne_empty`: the same of the whole program, and the platforms one by one.
-/

namespace FuseMount

/-! ## Specification -/

/-- What is printed is the line that starts a helper with options and a mount point, and its
argument for the options is not empty. -/
structure Session.PrintsHelperLine (session : Session) (flags : MountFlags) (mountPoint : Bytes)
    (output : String) : Prop where
  /-- The options are those on a platform that has helpers. -/
  candidates_ne_nil : helperCandidates (session.platform flags.platform)
    (session.config flags).implementation ≠ []
  /-- The second argument is there and not empty. -/
  argument_ne_nil : ∃ argument,
    (helperArguments (session.builtOptions flags) mountPoint)[1]? = some argument ∧ argument ≠ []
  /-- The line has the helper that was found and all the arguments. -/
  output_eq : ∃ helper, session.host.findHelper (session.platform flags.platform)
      (session.config flags).implementation = some helper ∧
    output = helper ++ " -o " ++ (session.builtOptions flags).render ++ " -- " ++
      Utf8.lossy mountPoint ++ "\n"

/-! ## Platforms with helpers -/

theorem helperCandidates_eq_nil_iff (platform : Platform) (implementation : Implementation) :
    helperCandidates platform implementation = [] ↔ platform = .other := by
  cases platform <;> cases implementation <;> simp [helperCandidates]

/-! ## The command -/

namespace Session

/-- Only the mount point can look different when it is printed. -/
theorem helperLine_eq (helper : String) (options : Options) (mountPoint : Bytes) :
    helperLine helper options mountPoint =
      helper ++ " -o " ++ options.render ++ " -- " ++ Utf8.lossy mountPoint := by
  simp only [helperLine, helperArguments, List.map_cons, List.map_nil, Utf8.lossy_encode,
    String.intercalate_cons_cons, String.intercalate_singleton]
  simp only [← String.toList_inj, String.toList_append, List.append_assoc]
  rfl

variable {session : Session} {flags : MountFlags} {mountPoint : Bytes}

theorem exists_helper_of_ok
    (h : (session.run (.options flags (some mountPoint))).value = .ok ()) :
    ∃ helper, session.host.findHelper (session.platform flags.platform)
        (session.config flags).implementation = some helper ∧
      (session.run (.options flags (some mountPoint))).output =
        helperLine helper (session.builtOptions flags) mountPoint ++ "\n" := by
  rw [run, printOptions, (Run.quiet_report _).output_bind]
  rw [run, printOptions, Run.value_bind] at h
  split at h
  · cases h
  · rename_i helper hfind
    exact ⟨helper, hfind, Run.output_print _⟩

theorem printsHelperLine_of_ok
    (h : (session.run (.options flags (some mountPoint))).value = .ok ()) :
    session.PrintsHelperLine flags mountPoint
      (session.run (.options flags (some mountPoint))).output := by
  obtain ⟨helper, hfind, houtput⟩ := exists_helper_of_ok h
  have hcandidates : helperCandidates (session.platform flags.platform)
      (session.config flags).implementation ≠ [] :=
    List.ne_nil_of_mem (Unmount.mem_helperCandidates_of_findHelper hfind)
  have hrender : (session.builtOptions flags).render ≠ "" :=
    Options.render_mountOptions_ne_empty_of_ne_other _
      (mt (helperCandidates_eq_nil_iff _ _).2 hcandidates)
  exact {
    candidates_ne_nil := hcandidates
    argument_ne_nil := ⟨_, rfl, Utf8.encode_ne_nil hrender⟩
    output_eq := ⟨helper, hfind, by rw [houtput, helperLine_eq]⟩ }

end Session

/-! ## Main theorem -/

namespace Program

/-- **A helper is given options.** On Linux every configuration has a name of the file system, and
on Darwin it keeps some files out, so there is always a text; anywhere else there is none only if
four fields and the caller's own options say nothing. As there are no helpers anywhere else, a run
that prints the line of a helper prints it with options. -/
theorem options_argument_ne_empty :
    (∀ c : Config,
      ((c.mountOptions .linux).contains "fsname" ∧ (c.mountOptions .linux).render ≠ "") ∧
      ((c.mountOptions .darwin).contains "noappledouble" ∧
        (c.mountOptions .darwin).render ≠ "") ∧
      ((c.mountOptions .other).render = "" ↔
        c.disableDefaultPermissions ∧ ¬c.readOnly ∧ c.fsName = "" ∧ c.subtype = "" ∧
          (c.options = ∅ ∨ c.options = TextMap.ofList [("", "")]))) ∧
    ∀ (host : Host) (arguments : List Bytes) (invocation : Invocation) (flags : MountFlags)
      (mountPoint : Bytes),
      Invocation.parse host.environment arguments = .ok invocation →
      invocation.command = .options flags (some mountPoint) →
      (run host arguments).value = 0 →
      ∃ session, Session.start host invocation.config = .ok session ∧
        session.PrintsHelperLine flags mountPoint (run host arguments).output := by
  constructor
  · intro c
    have hfsName := Options.isSome_impliedValue?_fsName c
    have hnoAppleDouble := Options.isSome_impliedValue?_noAppleDouble c
    exact ⟨⟨(Options.contains_mountOptions c .linux "fsname").2 (.inr hfsName),
        Options.render_mountOptions_ne_empty_of_ne_other c (by decide)⟩,
      ⟨(Options.contains_mountOptions c .darwin "noappledouble").2 (.inr hnoAppleDouble),
        Options.render_mountOptions_ne_empty_of_ne_other c (by decide)⟩,
      Options.render_mountOptions_other_eq_empty_iff c⟩
  · intro host arguments invocation flags mountPoint hparse hcommand hzero
    obtain ⟨session, hstart, hok, houtput⟩ := exists_session_of_run hparse hzero
    rw [hcommand] at hok houtput
    rw [houtput]
    exact ⟨session, hstart, Session.printsHelperLine_of_ok hok⟩

/-- A configuration that says nothing on its own, with an empty name from the caller, and the name of
the file system without a value. -/
theorem options_argument_ne_empty_bareNames :
    let host : Host := {
      nodes := [([Utf8.encode "bin", Utf8.encode "fusermount3"], .program true 0 [])]
      environment := { path := some (Utf8.encode "/bin") } }
    let arguments := ["options", "--disable-default-permissions", "--option", "=",
      "--option=fsname=", "--path", "/m"].map Utf8.encode
    let flags : MountFlags := {
      disableDefaultPermissions := true
      options := [("", ""), ("fsname", "")] }
    Invocation.parse host.environment arguments =
        .ok { command := .options flags (some (Utf8.encode "/m")) } ∧
      (run host arguments).value = 0 ∧
      (run host arguments).output = "fusermount3 -o ,fsname -- /m\n" ∧
      ∃ session, Session.start host none = .ok session ∧
        session.PrintsHelperLine flags (Utf8.encode "/m") (run host arguments).output := by
  intro host arguments flags
  have hparse : Invocation.parse host.environment arguments =
      .ok { command := .options flags (some (Utf8.encode "/m")) } := by
    decide +kernel
  have hrun : (run host arguments).value = 0 ∧
      (run host arguments).output = "fusermount3 -o ,fsname -- /m\n" := by
    decide +kernel
  obtain ⟨hzero, houtput⟩ := hrun
  exact ⟨hparse, hzero, houtput, options_argument_ne_empty.2 host arguments _ flags
    (Utf8.encode "/m") hparse rfl hzero⟩

end Program

end FuseMount
