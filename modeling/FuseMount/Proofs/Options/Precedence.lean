import FuseMount.Proofs.TextMap.Lookup
import FuseMount.Session

/-!
# Which layer decides an option

An option may be set by an argument, in the settings, and by what follows from the other fields of
the configuration; these in turn come from flags, the settings or the defaults. Here the layers are
written down name by name and field by field, and what is printed is shown to follow them.

Results:

* `get?_mountOptions`: the options of a configuration are the caller's own, and else those that
  follow from its fields (`Config.impliedValue?`).
* `config_eq_layered`: the configuration of a session is made field by field from the flags, the
  settings and the defaults.
* `run_options_precedence`: the options that are printed.
-/

namespace FuseMount

open TextMap (lastValue?)

/-! ## Specification -/

/-- The value that the fields of a configuration give an option, by its name. -/
def Config.impliedValue? (c : Config) (p : Platform) : String → Option String
  | "default_permissions" => if c.disableDefaultPermissions then none else some ""
  | "fsname" =>
    if c.fsName ≠ "" then some c.fsName
    else if p = .linux then some "some_fuse_file_system" else none
  | "subtype" => if c.subtype ≠ "" then some c.subtype else none
  | "ro" => if c.readOnly then some "" else none
  | "novncache" => if p = .darwin ∧ ¬c.enableVnodeCaching then some "" else none
  | "volname" => if p = .darwin ∧ c.volumeName ≠ "" then some c.volumeName else none
  | "noappledouble" => if p = .darwin then some "" else none
  | _ => none

namespace Session

/-- The mount's configuration in the settings, if there is one. -/
def mount? (session : Session) : Option Config :=
  session.settings.bind (·.mount)

/-- A field that a flag replaces: the flag, else the field in the settings, else the default. -/
def chosen {α : Type} (session : Session) (flag : Option α) (field : Config → α)
    (default : α) : α :=
  (flag <|> session.mount?.map field).getD default

/-- A field that a flag switches on: it is on if the flag or the settings say so. -/
def switched (session : Session) (flag : Bool) (field : Config → Bool) : Bool :=
  flag || session.mount?.any field

/-- The value of an option in the settings. -/
def ownOption? (session : Session) (k : String) : Option String :=
  session.mount?.bind fun c => c.options.get? k

/-- The configuration field by field. Flags do not reach `useVectoredRead`. -/
def layered (session : Session) (flags : MountFlags) : Config where
  fsName := session.chosen flags.fsName (·.fsName) ""
  readOnly := session.switched flags.readOnly (·.readOnly)
  disableWritebackCaching :=
    session.switched flags.disableWritebackCaching (·.disableWritebackCaching)
  enableVnodeCaching := session.switched flags.enableVnodeCaching (·.enableVnodeCaching)
  enableSymlinkCaching := session.switched flags.enableSymlinkCaching (·.enableSymlinkCaching)
  enableNoOpenSupport := session.switched flags.enableNoOpenSupport (·.enableNoOpenSupport)
  enableNoOpendirSupport := session.switched flags.enableNoOpendirSupport (·.enableNoOpendirSupport)
  disableDefaultPermissions :=
    session.switched flags.disableDefaultPermissions (·.disableDefaultPermissions)
  useVectoredRead := session.switched false (·.useVectoredRead)
  volumeName := session.chosen flags.volumeName (·.volumeName) ""
  implementation := session.chosen flags.implementation (·.implementation) .fuseT
  options := (session.chosen none (·.options) ∅).insertAll flags.options
  subtype := session.chosen flags.subtype (·.subtype) ""
  enableAsyncReads := session.switched flags.enableAsyncReads (·.enableAsyncReads)
  enableParallelDirOps := session.switched flags.enableParallelDirOps (·.enableParallelDirOps)
  enableAtomicTrunc := session.switched flags.enableAtomicTrunc (·.enableAtomicTrunc)
  enableReaddirplus := session.switched flags.enableReaddirplus (·.enableReaddirplus)
  enableAutoReaddirplus := session.switched flags.enableAutoReaddirplus (·.enableAutoReaddirplus)

end Session

/-! ## The options of a configuration -/

namespace Config

theorem lastValue?_flagIf (k name : String) (wanted : Bool) :
    lastValue? k (flagIf wanted name) = if k = name ∧ wanted then some "" else none := by
  cases wanted with
  | false => rw [if_neg (by simp)]; rfl
  | true => rw [flagIf, if_pos rfl, TextMap.lastValue?_singleton]; simp

theorem lastValue?_valueIf (k name value : String) :
    lastValue? k (valueIf value name) = if k = name ∧ value ≠ "" then some value else none := by
  by_cases hv : value = ""
  · rw [if_neg (by tauto), hv]
    rfl
  · rw [valueIf, if_neg (by simpa using hv), TextMap.lastValue?_singleton]
    simp [hv]

theorem lastValue?_fsName (c : Config) (p : Platform) (k : String) :
    lastValue? k (valueIf (c.fsNameOn p) "fsname") =
      if k = "fsname" then c.impliedValue? p "fsname" else none := by
  rw [lastValue?_valueIf]
  unfold fsNameOn impliedValue? fallbackFsName
  by_cases hfs : c.fsName = "" <;> by_cases hp : p = .linux <;> simp [hfs, hp]

/-- The options that follow from the fields, name by name. -/
theorem lastValue?_impliedOptions (c : Config) (p : Platform) (k : String) :
    lastValue? k (c.impliedOptions p) = c.impliedValue? p k := by
  unfold impliedOptions
  simp only [TextMap.lastValue?_append, lastValue?_fsName, lastValue?_flagIf,
    lastValue?_valueIf _ "subtype"]
  by_cases hp : p = .darwin
  · simp only [if_pos hp, TextMap.lastValue?_append, lastValue?_flagIf, lastValue?_valueIf]
    fun_cases impliedValue? c p k <;> simp_all [impliedValue?]
  · simp only [if_neg hp, TextMap.lastValue?_nil]
    fun_cases impliedValue? c p k <;> simp_all [impliedValue?]

/-- The caller's own options win over those that follow from the fields. -/
theorem get?_mountOptions (c : Config) (p : Platform) (k : String) :
    (c.mountOptions p).get? k = (c.options.get? k <|> c.impliedValue? p k) := by
  rw [mountOptions, TextMap.get?_insertAll, TextMap.lastValue?_entries, TextMap.get?_ofList,
    lastValue?_impliedOptions]

end Config

/-! ## The configuration of a session -/

namespace Session

theorem getD_eq_chosen {α : Type} (session : Session) (flag : Option α) (field : Config → α)
    {default : α} (h : field {} = default) :
    flag.getD (field session.baseConfig) = session.chosen flag field default := by
  subst h
  unfold chosen baseConfig mount?
  cases flag with
  | some a => rfl
  | none => cases session.settings.bind (·.mount) <;> rfl

theorem or_eq_switched (session : Session) (flag : Bool) {field : Config → Bool}
    (h : field {} = false) : (field session.baseConfig || flag) = session.switched flag field := by
  unfold switched baseConfig mount?
  rw [Bool.or_comm]
  cases session.settings.bind (·.mount) with
  | some c => rfl
  | none => exact congrArg (flag || ·) h

theorem options_baseConfig (session : Session) :
    session.baseConfig.options = session.chosen none (·.options) ∅ := by
  unfold chosen baseConfig mount?
  cases session.settings.bind (·.mount) <;> rfl

/-- Every field comes from the layer that decides it. -/
theorem config_eq_layered (session : Session) (flags : MountFlags) :
    session.config flags = session.layered flags := by
  have text := session.getD_eq_chosen (α := String)
  have switch := session.or_eq_switched
  unfold config MountFlags.apply layered
  rw [Config.mk.injEq, options_baseConfig]
  refine ⟨text _ (·.fsName) rfl, switch _ rfl, switch _ rfl, switch _ rfl, switch _ rfl,
    switch _ rfl, switch _ rfl, switch _ rfl, ?_, text _ (·.volumeName) rfl,
    session.getD_eq_chosen _ (·.implementation) rfl, rfl, text _ (·.subtype) rfl, switch _ rfl,
    switch _ rfl, switch _ rfl, switch _ rfl, switch _ rfl⟩
  exact (Bool.or_false _).symm.trans (switch false rfl)

theorem get?_options_layered (session : Session) (flags : MountFlags) (k : String) :
    (session.layered flags).options.get? k =
      (lastValue? k flags.options <|> session.ownOption? k) := by
  rw [layered, TextMap.get?_insertAll]
  unfold chosen ownOption?
  cases session.mount? <;> rfl

/-! ## Main theorem -/

/-- **Precedence of options.** The options that are printed give a name the value in the last
argument with that name; else the value that the settings give it; else the value that follows from
the fields, on the platform of the flags, or of the settings, or of the host. -/
theorem run_options_precedence (session : Session) (flags : MountFlags) :
    ∃! m : Options,
      (∀ k, m.get? k =
        (lastValue? k flags.options <|> session.ownOption? k <|>
          (session.layered flags).impliedValue?
            ((flags.platform <|> session.settings.bind (·.platform)).getD .host) k)) ∧
      (session.run (.options flags none)).value = .ok () ∧
      (session.run (.options flags none)).output = m.render ++ "\n" := by
  have hget : ∀ k, ((session.layered flags).mountOptions (session.platform flags.platform)).get? k =
      (lastValue? k flags.options <|> session.ownOption? k <|>
        (session.layered flags).impliedValue? (session.platform flags.platform) k) := by
    intro k
    rw [Config.get?_mountOptions, get?_options_layered]
    cases lastValue? k flags.options <;> rfl
  refine ⟨(session.layered flags).mountOptions (session.platform flags.platform),
    ⟨hget, rfl, ?_⟩, fun m hm => ?_⟩
  · rw [← config_eq_layered]
    rfl
  · exact TextMap.ext_get? fun k => (hm.1 k).trans (hget k).symm

end Session

end FuseMount
