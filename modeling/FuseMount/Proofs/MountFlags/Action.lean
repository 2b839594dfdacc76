import FuseMount.MountFlags
import FuseMount.Proofs.TextMap.Lookup
import Mathlib.Algebra.Group.Defs

/-!
# Flags in layers

Flags may be put on top of a configuration in two layers. Both together are as good as one layer
that has the arguments of both, the upper ones after the lower ones: a text or an implementation is
the upper layer's where that gives one, a switch is on if either layer turns it on, and options come
one after the other. So flags are a monoid, which acts on configurations.

Results:

* `ext_of_switches`: a configuration is its switches, its texts, its implementation and its options.
* `field_apply`, `flag_mul`: switches under flags, and flags for switches in two layers.
* `apply_apply`: two layers are one.
* `apply_action`: this and what else flags do to every configuration, and leave alone.
-/

namespace FuseMount.MountFlags

/-! ## Specification -/

/-- The arguments of two layers, the second one of which is the upper one. -/
def andThen (a b : MountFlags) : MountFlags where
  platform := b.platform.or a.platform
  fsName := b.fsName.or a.fsName
  subtype := b.subtype.or a.subtype
  readOnly := a.readOnly || b.readOnly
  volumeName := b.volumeName.or a.volumeName
  implementation := b.implementation.or a.implementation
  disableDefaultPermissions := a.disableDefaultPermissions || b.disableDefaultPermissions
  disableWritebackCaching := a.disableWritebackCaching || b.disableWritebackCaching
  enableVnodeCaching := a.enableVnodeCaching || b.enableVnodeCaching
  enableSymlinkCaching := a.enableSymlinkCaching || b.enableSymlinkCaching
  enableNoOpenSupport := a.enableNoOpenSupport || b.enableNoOpenSupport
  enableNoOpendirSupport := a.enableNoOpendirSupport || b.enableNoOpendirSupport
  enableAsyncReads := a.enableAsyncReads || b.enableAsyncReads
  enableParallelDirOps := a.enableParallelDirOps || b.enableParallelDirOps
  enableAtomicTrunc := a.enableAtomicTrunc || b.enableAtomicTrunc
  enableReaddirplus := a.enableReaddirplus || b.enableReaddirplus
  enableAutoReaddirplus := a.enableAutoReaddirplus || b.enableAutoReaddirplus
  options := a.options ++ b.options

/-- A switch of a configuration, with the flag that turns it on. -/
structure Switch where
  field : Config → Bool
  flag : MountFlags → Bool

/-- The switches of a configuration. No flag turns `useVectoredRead` on. -/
def switches : List Switch :=
  [⟨(·.readOnly), (·.readOnly)⟩,
    ⟨(·.disableWritebackCaching), (·.disableWritebackCaching)⟩,
    ⟨(·.enableVnodeCaching), (·.enableVnodeCaching)⟩,
    ⟨(·.enableSymlinkCaching), (·.enableSymlinkCaching)⟩,
    ⟨(·.enableNoOpenSupport), (·.enableNoOpenSupport)⟩,
    ⟨(·.enableNoOpendirSupport), (·.enableNoOpendirSupport)⟩,
    ⟨(·.disableDefaultPermissions), (·.disableDefaultPermissions)⟩,
    ⟨(·.useVectoredRead), fun _ => false⟩,
    ⟨(·.enableAsyncReads), (·.enableAsyncReads)⟩,
    ⟨(·.enableParallelDirOps), (·.enableParallelDirOps)⟩,
    ⟨(·.enableAtomicTrunc), (·.enableAtomicTrunc)⟩,
    ⟨(·.enableReaddirplus), (·.enableReaddirplus)⟩,
    ⟨(·.enableAutoReaddirplus), (·.enableAutoReaddirplus)⟩]

/-! ## Layers of flags -/

/-- In `a * b` the layer `b` is on top. Layers may be put together in any grouping, and one without
arguments makes no difference. -/
instance : Monoid MountFlags where
  mul := andThen
  one := {}
  mul_assoc a b c := by
    change (a.andThen b).andThen c = a.andThen (b.andThen c)
    simp only [andThen, Option.or_assoc, Bool.or_assoc, List.append_assoc]
  one_mul a := by
    change andThen {} a = a
    simp only [andThen, Option.or_none, Bool.false_or, List.nil_append]
  mul_one a := by
    change andThen a {} = a
    simp only [andThen, Option.none_or, Bool.or_false, List.append_nil]

section

variable {s : Switch}

theorem flag_mul (hs : s ∈ switches) (a b : MountFlags) :
    s.flag (a * b) = (s.flag a || s.flag b) := by
  revert s
  simp only [switches, List.forall_mem_cons, List.not_mem_nil, false_implies, implies_true,
    and_true]
  exact ⟨rfl, rfl, rfl, rfl, rfl, rfl, rfl, rfl, rfl, rfl, rfl, rfl, rfl⟩

/-- Flags only ever turn switches on. -/
theorem field_apply (hs : s ∈ switches) (a : MountFlags) (c : Config) :
    s.field (a.apply c) = (s.field c || s.flag a) := by
  revert s
  simp only [switches, List.forall_mem_cons, List.not_mem_nil, false_implies, implies_true,
    and_true]
  -- `useVectoredRead` is the one that no flag reaches
  exact ⟨rfl, rfl, rfl, rfl, rfl, rfl, rfl, (Bool.or_false _).symm, rfl, rfl, rfl, rfl, rfl⟩

end

/-- A configuration has no other fields. -/
theorem ext_of_switches {c d : Config} (hswitches : ∀ s ∈ switches, s.field c = s.field d)
    (hfsName : c.fsName = d.fsName) (hsubtype : c.subtype = d.subtype)
    (hvolumeName : c.volumeName = d.volumeName)
    (himplementation : c.implementation = d.implementation) (hoptions : c.options = d.options) :
    c = d := by
  simp only [switches, List.forall_mem_cons, List.not_mem_nil, false_implies, implies_true,
    and_true] at hswitches
  cases c
  cases d
  simp_all

/-! ## Configurations under flags -/

section

variable (a b : MountFlags) (c : Config)

/-- Two layers, one on top of the other, are one. -/
theorem apply_apply : b.apply (a.apply c) = (a * b).apply c := by
  refine ext_of_switches (fun _ hs => ?_) ?_ ?_ ?_ ?_ (TextMap.insertAll_append _ _ _).symm
  · rw [field_apply hs, field_apply hs, field_apply hs, flag_mul hs, Bool.or_assoc]
  all_goals exact Option.getD_or.symm

theorem one_apply : (1 : MountFlags).apply c = c := by
  have hoff : ∀ s ∈ switches, s.flag 1 = false := by decide
  refine ext_of_switches (fun s hs => ?_) rfl rfl rfl rfl rfl
  rw [field_apply hs, hoff s hs, Bool.or_false]

/-- Of the options in a layer only what they make of the configuration's own ones counts. -/
theorem apply_congr {l l' : List (String × String)}
    (h : c.options.insertAll l = c.options.insertAll l') :
    apply { a with options := l } c = apply { a with options := l' } c := by
  simp only [apply, h]

theorem mul_self : a * a = { a with options := a.options ++ a.options } := by
  change a.andThen a = _
  simp only [andThen, Option.or_self, Bool.or_self]

/-- A layer on top of itself makes no difference. -/
theorem apply_self : a.apply (a.apply c) = a.apply c := by
  have htwice : c.options.insertAll (a.options ++ a.options) = c.options.insertAll a.options := by
    rw [TextMap.insertAll_append, TextMap.insertAll_insertAll_self]
  rw [apply_apply, mul_self]
  exact apply_congr a c htwice

/-- Options with other names keep the values that the configuration gives them. -/
theorem get?_options_apply {k : String} (hk : k ∉ a.options.map Prod.fst) :
    (a.apply c).options.get? k = c.options.get? k := by
  rw [apply, TextMap.get?_insertAll, TextMap.lastValue?_eq_none hk]
  rfl

end

/-! ## Main theorem -/

/-- **Flags act on configurations.** Two layers of flags are one that has the arguments of both, no
arguments change nothing, and the same arguments twice are as good as once. Neighbouring options
with different names may change places. `useVectoredRead` and the options that the arguments do not
name stay as they are, and no switch is turned off. -/
theorem apply_action (a b : MountFlags) (c : Config) :
    b.apply (a.apply c) = (a * b).apply c ∧
      apply {} c = c ∧
      a.apply (a.apply c) = a.apply c ∧
      (∀ before after e e', e.1 ≠ e'.1 →
        apply { a with options := before ++ e :: e' :: after } c =
          apply { a with options := before ++ e' :: e :: after } c) ∧
      (a.apply c).useVectoredRead = c.useVectoredRead ∧
      (∀ k ∉ a.options.map Prod.fst, (a.apply c).options.get? k = c.options.get? k) ∧
      ∀ s ∈ switches, s.field c → s.field (a.apply c) := by
  refine ⟨apply_apply a b c, one_apply c, apply_self a c, fun before after e e' hne => ?_, rfl,
    fun k hk => get?_options_apply a c hk, fun s hs hon => ?_⟩
  · exact apply_congr a c (c.options.insertAll_swap before after hne)
  · rw [field_apply hs, hon, Bool.true_or]

/-- Of two options with one name the later one counts, so these may not change places. -/
example : apply { options := [("uid", "0"), ("uid", "1")] } {} ≠
    apply { options := [("uid", "1"), ("uid", "0")] } {} := by
  decide

end FuseMount.MountFlags
