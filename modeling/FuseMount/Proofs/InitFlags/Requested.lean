import FuseMount.Proofs.InitFlags.Names

/-!
# The flags that a configuration asks for

Which bits are set in the word that a configuration asks for, place by place. Each switch has a bit
of its own; that of `enableAutoReaddirplus` is set only together with that of `enableReaddirplus`.

Results:

* `has_initFlags_iff`: the bits of the word are those that the fields want (`Config.Wants`).
-/

namespace FuseMount

/-! ## Specification -/

/-- The fields of a configuration want the bit at a place. -/
def Config.Wants (c : Config) (p : Platform) : Nat → Prop
  | 0 => c.enableAsyncReads
  | 3 => c.enableAtomicTrunc
  | 5 => True
  | 13 => c.enableReaddirplus
  | 14 => c.enableReaddirplus ∧ c.enableAutoReaddirplus
  | 16 => p = .linux ∧ ¬c.disableWritebackCaching
  | 17 => c.enableNoOpenSupport
  | 18 => c.enableParallelDirOps
  | 22 => True
  | 23 => c.enableSymlinkCaching
  | 24 => c.enableNoOpendirSupport
  | _ => False

namespace InitFlags

/-! ## Bits -/

@[simp] theorem has_onlyIf {wanted : Bool} {flags : InitFlags} {i : Nat} :
    (flags.onlyIf wanted).Has i ↔ wanted ∧ flags.Has i := by
  cases wanted <;> simp [onlyIf]

theorem has_bit {n : UInt32} (hn : n < 32) {i : Nat} : (bit n).Has i ↔ i = n.toNat := by
  have h := has_bit_iff ⟨n.toNat, hn⟩ i
  rwa [UInt32.ofNat_toNat] at h

/-- A bit is set exactly if the fields want it. -/
theorem has_initFlags_iff (c : Config) (p : Platform) (i : Nat) :
    (c.initFlags p).Has i ↔ c.Wants p i := by
  simp (disch := decide) only [Config.initFlags, has_or, has_onlyIf, asyncRead, atomicTrunc,
    bigWrites, doReaddirplus, readdirplusAuto, writebackCache, noOpenSupport, parallelDirops,
    maxPages, cacheSymlinks, noOpendirSupport, has_bit, UInt32.reduceToNat]
  unfold Config.Wants
  split <;> simp_all

end InitFlags

end FuseMount
