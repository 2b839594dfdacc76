import FuseMount.Helper
import FuseMount.Proofs.InitFlags.Requested

/-!
# Which fields have an influence

The options that follow from a configuration depend on a few of its fields, and the flags that it
asks for on other ones; some fields count on one platform only, or only while another field is set.
Configurations that agree on these fields cannot be told apart by the options, or by the flags. For
flags nothing less would do, since every switch has a bit of its own.

Results:

* `mountOptions_congr`: the fields that the options depend on.
* `initFlags_eq_iff`: the flags are equal exactly if the configurations agree on theirs.
* `noninterference`: what else is the same then, and the fields that have no influence.
-/

namespace FuseMount.Config

/-! ## Specification -/

section

variable (p : Platform) (c d : Config)

/-- Two configurations agree on the fields that options depend on. -/
structure OptionsAgree : Prop where
  disableDefaultPermissions : c.disableDefaultPermissions = d.disableDefaultPermissions
  fsName : c.fsName = d.fsName
  subtype : c.subtype = d.subtype
  readOnly : c.readOnly = d.readOnly
  options : c.options = d.options
  enableVnodeCaching : p = .darwin → c.enableVnodeCaching = d.enableVnodeCaching
  volumeName : p = .darwin → c.volumeName = d.volumeName

/-- Two configurations agree on the fields that flags depend on. -/
structure FlagsAgree : Prop where
  enableAsyncReads : c.enableAsyncReads = d.enableAsyncReads
  enableSymlinkCaching : c.enableSymlinkCaching = d.enableSymlinkCaching
  enableNoOpenSupport : c.enableNoOpenSupport = d.enableNoOpenSupport
  enableNoOpendirSupport : c.enableNoOpendirSupport = d.enableNoOpendirSupport
  enableParallelDirOps : c.enableParallelDirOps = d.enableParallelDirOps
  enableAtomicTrunc : c.enableAtomicTrunc = d.enableAtomicTrunc
  enableReaddirplus : c.enableReaddirplus = d.enableReaddirplus
  disableWritebackCaching : p = .linux → c.disableWritebackCaching = d.disableWritebackCaching
  enableAutoReaddirplus :
    c.enableReaddirplus → c.enableAutoReaddirplus = d.enableAutoReaddirplus

end

variable {p : Platform} {c d : Config}

/-! ## Options -/

theorem mountOptions_congr (h : OptionsAgree p c d) : c.mountOptions p = d.mountOptions p := by
  unfold mountOptions impliedOptions fsNameOn
  rw [h.disableDefaultPermissions, h.fsName, h.subtype, h.readOnly, h.options]
  by_cases hp : p = .darwin
  · rw [h.enableVnodeCaching hp, h.volumeName hp]
  · rw [if_neg hp, if_neg hp]

/-! ## Flags -/

theorem FlagsAgree.wants_iff (h : FlagsAgree p c d) (i : Nat) : c.Wants p i ↔ d.Wants p i := by
  obtain ⟨_, _, _, _, _, _, _, hwriteback, hauto⟩ := h
  unfold Wants
  split <;> simp_all

theorem FlagsAgree.of_wants_iff (h : ∀ i, c.Wants p i ↔ d.Wants p i) : FlagsAgree p c d where
  enableAsyncReads := Bool.eq_iff_iff.2 (h 0)
  enableSymlinkCaching := Bool.eq_iff_iff.2 (h 23)
  enableNoOpenSupport := Bool.eq_iff_iff.2 (h 17)
  enableNoOpendirSupport := Bool.eq_iff_iff.2 (h 24)
  enableParallelDirOps := Bool.eq_iff_iff.2 (h 18)
  enableAtomicTrunc := Bool.eq_iff_iff.2 (h 3)
  enableReaddirplus := Bool.eq_iff_iff.2 (h 13)
  disableWritebackCaching hp := by simpa [Wants, hp] using h 16
  enableAutoReaddirplus hon := by
    have hon' : d.enableReaddirplus := (h 13).1 hon
    simpa [Wants, hon, hon'] using h 14

/-- Flags are equal exactly if the fields behind them are. -/
theorem initFlags_eq_iff : c.initFlags p = d.initFlags p ↔ FlagsAgree p c d := by
  constructor
  · intro h
    refine .of_wants_iff fun i => ?_
    rw [← InitFlags.has_initFlags_iff, h, InitFlags.has_initFlags_iff]
  · intro h
    refine InitFlags.eq_of_has_iff fun i => ?_
    rw [InitFlags.has_initFlags_iff, InitFlags.has_initFlags_iff, h.wants_iff]

/-! ## Main theorem -/

/-- **Fields without influence do not show.** Configurations that agree on the fields behind the
options have the same options on a platform, and so the same text, the same arguments for a helper
and the same data for the kernel. They ask for the same flags exactly if they agree on the fields
behind the flags, and then the same flags are left after every offer. `useVectoredRead` and
`implementation` show in neither, and options do not show in the flags. -/
theorem noninterference (p : Platform) (c d : Config) :
    (OptionsAgree p c d →
      c.mountOptions p = d.mountOptions p ∧
      (c.mountOptions p).render = (d.mountOptions p).render ∧
      (∀ mountPoint, helperArguments (c.mountOptions p) mountPoint =
        helperArguments (d.mountOptions p) mountPoint) ∧
      ∀ fd uid gid, directMountData fd uid gid (c.mountOptions p) =
        directMountData fd uid gid (d.mountOptions p)) ∧
    (FlagsAgree p c d ↔ c.initFlags p = d.initFlags p) ∧
    (FlagsAgree p c d → ∀ offered,
      InitFlags.negotiate (c.initFlags p) offered = InitFlags.negotiate (d.initFlags p) offered) ∧
    (∀ useVectoredRead implementation,
      let c' := { c with useVectoredRead, implementation }
      c'.mountOptions p = c.mountOptions p ∧ c'.initFlags p = c.initFlags p) ∧
    ∀ options, { c with options }.initFlags p = c.initFlags p := by
  refine ⟨fun h => ?_, initFlags_eq_iff.symm, fun h offered => ?_, fun _ _ => ⟨?_, ?_⟩, fun _ => ?_⟩
  · rw [mountOptions_congr h]
    exact ⟨rfl, rfl, fun _ => rfl, fun _ _ _ => rfl⟩
  · rw [initFlags_eq_iff.2 h]
  · exact mountOptions_congr ⟨rfl, rfl, rfl, rfl, rfl, fun _ => rfl, fun _ => rfl⟩
  · exact initFlags_eq_iff.2 ⟨rfl, rfl, rfl, rfl, rfl, rfl, rfl, fun _ => rfl, fun _ => rfl⟩
  · exact initFlags_eq_iff.2 ⟨rfl, rfl, rfl, rfl, rfl, rfl, rfl, fun _ => rfl, fun _ => rfl⟩

/-- What is set for Darwin only has no influence elsewhere, and what the kernel may choose has none
where attributes are not listed. -/
theorem noninterference_otherPlatform :
    let c : Config := { fsName := "data", enableAsyncReads := true }
    let d : Config :=
      { c with enableVnodeCaching := true, volumeName := "Data", disableWritebackCaching := true,
               enableAutoReaddirplus := true, useVectoredRead := true, implementation := .macFuse }
    (OptionsAgree .linux c d ∧ c.mountOptions .linux = d.mountOptions .linux) ∧
      (FlagsAgree .other c d ∧ c.initFlags .other = d.initFlags .other) ∧
      ¬FlagsAgree .linux c d ∧ c.initFlags .linux ≠ d.initFlags .linux := by
  intro c d
  have hoptions : OptionsAgree .linux c d := ⟨rfl, rfl, rfl, rfl, rfl, nofun, nofun⟩
  have hflags : FlagsAgree .other c d := ⟨rfl, rfl, rfl, rfl, rfl, rfl, rfl, nofun, nofun⟩
  have hdiffer : ¬FlagsAgree .linux c d := fun h => nomatch h.disableWritebackCaching rfl
  exact ⟨⟨hoptions, ((noninterference .linux c d).1 hoptions).1⟩,
    ⟨hflags, (noninterference .other c d).2.1.1 hflags⟩,
    hdiffer, mt (noninterference .linux c d).2.1.2 hdiffer⟩

end FuseMount.Config
