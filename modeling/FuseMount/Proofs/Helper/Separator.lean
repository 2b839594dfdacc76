import FuseMount.Helper
import FuseMount.Proofs.Options.Emptiness
import FuseMount.Proofs.Options.Refinement

/-!
# The separator before the options of a direct mount

The data that the kernel is given to mount an open descriptor should have a comma and the options at
its end if the options have a text, and nothing if they have none. What is looked at, though, is
whether there are options. A single empty name without a value is an option without a text, so with
it the data ends in a comma. With any other options the data is as it should be.

Results:

* `directMountData_of_ne`: the data without the exception.
* `directMountData_mountOptions_of_ne_other`: where a configuration never leads to the exception.
* `directMountData_separator`: in which case the data is as it should be.
* `not_separated_emptyName`: how the exception comes about.
-/

namespace FuseMount

open Options

/-! ## Specification -/

section

variable (fd : Int32) (uid gid : UInt32) (o : Options)

/-- What the data says about the descriptor, the mode of a directory, and the owner. -/
def ownText : String :=
  "fd=" ++ fd.toInt.repr ++ ",rootmode=40000,user_id=" ++ uid.toNat.repr ++
    ",group_id=" ++ gid.toNat.repr

/-- The data as it should be: the options come after a comma if they have a text. -/
def separatedData : String :=
  ownText fd uid gid ++ if o.render = "" then "" else "," ++ o.render

end

/-! ## The text and the entries -/

section

variable {fd : Int32} {uid gid : UInt32} {o : Options}

theorem directMountData_eq_ownText_append :
    directMountData fd uid gid o = ownText fd uid gid ++ if o.isEmpty then "" else "," ++ o.render :=
  rfl

theorem directMountData_of_ne (h : o ≠ TextMap.ofList [("", "")]) :
    directMountData fd uid gid o = separatedData fd uid gid o := by
  have hempty : o.isEmpty ↔ o.render = "" := isEmpty_iff_render_iff.2 h
  rw [directMountData_eq_ownText_append, separatedData]
  by_cases hr : o.render = ""
  · rw [if_pos (hempty.2 hr), if_pos hr]
  · rw [if_neg fun he => hr (hempty.1 he), if_neg hr]

/-- The options of a configuration are never the exception on Linux and Darwin. -/
theorem directMountData_mountOptions_of_ne_other (c : Config) {p : Platform} (h : p ≠ .other) :
    directMountData fd uid gid (c.mountOptions p) = separatedData fd uid gid (c.mountOptions p) :=
  directMountData_of_ne fun ho => render_mountOptions_ne_empty_of_ne_other c h
    ((render_eq_empty_iff _).2 (.inr ho))

theorem separatedData_emptyName :
    separatedData fd uid gid (TextMap.ofList [("", "")]) = ownText fd uid gid := by
  rw [separatedData, if_pos (by decide +kernel), String.append_empty]

theorem directMountData_emptyName :
    directMountData fd uid gid (TextMap.ofList [("", "")]) = ownText fd uid gid ++ "," := by
  rw [directMountData_eq_ownText_append, if_neg (by decide +kernel)]
  exact congrArg (ownText fd uid gid ++ ·) (by decide +kernel)

/-- Where there should be a comma, something should come after it. -/
theorem separatedData_ne_ownText_comma : separatedData fd uid gid o ≠ ownText fd uid gid ++ "," := by
  intro h
  rw [separatedData, String.append_right_inj] at h
  split_ifs at h with hr
  · exact absurd h (by decide)
  · exact hr ((String.append_right_inj ",").1 (h.trans String.append_empty.symm))

theorem directMountData_eq_separatedData_iff :
    directMountData fd uid gid o = separatedData fd uid gid o ↔ o ≠ TextMap.ofList [("", "")] := by
  refine ⟨?_, directMountData_of_ne⟩
  rintro h rfl
  exact separatedData_ne_ownText_comma (h.symm.trans directMountData_emptyName)

theorem directMountData_eq_ownText_comma_iff :
    directMountData fd uid gid o = ownText fd uid gid ++ "," ↔ o = TextMap.ofList [("", "")] := by
  constructor
  · intro h
    by_contra hne
    exact separatedData_ne_ownText_comma ((directMountData_of_ne hne).symm.trans h)
  · rintro rfl
    exact directMountData_emptyName

end

/-! ## Main theorem -/

/-- **When the separator is right.** The data is as it should be, there are no options exactly if
they have no text, and no comma comes last with nothing after it: all of this holds with any options
but a single empty name without a value, and none of it with that one. -/
theorem directMountData_separator (fd : Int32) (uid gid : UInt32) (o : Options) :
    directMountData fd uid gid o =
        separatedData fd uid gid o ++ (if o = TextMap.ofList [("", "")] then "," else "") ∧
      (directMountData fd uid gid o = separatedData fd uid gid o ↔
        o ≠ TextMap.ofList [("", "")]) ∧
      ((o.isEmpty ↔ o.render = "") ↔ o ≠ TextMap.ofList [("", "")]) ∧
      (directMountData fd uid gid o ≠ ownText fd uid gid ++ "," ↔
        o ≠ TextMap.ofList [("", "")]) := by
  refine ⟨?_, directMountData_eq_separatedData_iff, isEmpty_iff_render_iff,
    not_congr directMountData_eq_ownText_comma_iff⟩
  split_ifs with h
  · rw [h, directMountData_emptyName, separatedData_emptyName]
  · rw [directMountData_of_ne h, String.append_empty]

/-- An equals sign alone is read as a single empty name without a value, which can also be set. The
comma comes last then. -/
theorem not_separated_emptyName :
    after [.read "="] = after [.set "" ""] ∧
      ¬(after [.read "="]).isEmpty ∧ (after [.read "="]).render = "" ∧
      directMountData 5 1000 100 (after [.read "="]) =
        "fd=5,rootmode=40000,user_id=1000,group_id=100," ∧
      directMountData 5 1000 100 (after [.read "="]) ≠
        separatedData 5 1000 100 (after [.read "="]) := by
  decide +kernel

end FuseMount
