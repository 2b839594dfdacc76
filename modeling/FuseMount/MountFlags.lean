import FuseMount.Config

/-!
# Flags on top of a configuration

What the arguments of a command say about a mount. `MountFlags.apply` puts them on top of a
configuration: a text or an implementation that is given replaces that of the configuration, a
switch that is given is on, and options are added to the configuration's own, of which they win.
-/

namespace FuseMount

/-- What arguments say about a mount. -/
structure MountFlags where
  /-- The platform whose conventions are used. -/
  platform : Option Platform := none
  /-- The name of the file system. -/
  fsName : Option String := none
  /-- The type of the file system. -/
  subtype : Option String := none
  /-- Mount read only. -/
  readOnly : Bool := false
  /-- The name of the volume. -/
  volumeName : Option String := none
  /-- The FUSE implementation. -/
  implementation : Option Implementation := none
  disableDefaultPermissions : Bool := false
  disableWritebackCaching : Bool := false
  enableVnodeCaching : Bool := false
  enableSymlinkCaching : Bool := false
  enableNoOpenSupport : Bool := false
  enableNoOpendirSupport : Bool := false
  enableAsyncReads : Bool := false
  enableParallelDirOps : Bool := false
  enableAtomicTrunc : Bool := false
  enableReaddirplus : Bool := false
  enableAutoReaddirplus : Bool := false
  /-- Options for the mount helper, in the order in which they are given. -/
  options : List (String × String) := []
  deriving DecidableEq, Repr

namespace MountFlags

/-- A configuration with the flags on top of it. -/
def apply (flags : MountFlags) (c : Config) : Config :=
  { c with
    fsName := flags.fsName.getD c.fsName
    subtype := flags.subtype.getD c.subtype
    volumeName := flags.volumeName.getD c.volumeName
    implementation := flags.implementation.getD c.implementation
    readOnly := c.readOnly || flags.readOnly
    disableDefaultPermissions := c.disableDefaultPermissions || flags.disableDefaultPermissions
    disableWritebackCaching := c.disableWritebackCaching || flags.disableWritebackCaching
    enableVnodeCaching := c.enableVnodeCaching || flags.enableVnodeCaching
    enableSymlinkCaching := c.enableSymlinkCaching || flags.enableSymlinkCaching
    enableNoOpenSupport := c.enableNoOpenSupport || flags.enableNoOpenSupport
    enableNoOpendirSupport := c.enableNoOpendirSupport || flags.enableNoOpendirSupport
    enableAsyncReads := c.enableAsyncReads || flags.enableAsyncReads
    enableParallelDirOps := c.enableParallelDirOps || flags.enableParallelDirOps
    enableAtomicTrunc := c.enableAtomicTrunc || flags.enableAtomicTrunc
    enableReaddirplus := c.enableReaddirplus || flags.enableReaddirplus
    enableAutoReaddirplus := c.enableAutoReaddirplus || flags.enableAutoReaddirplus
    options := c.options.insertAll flags.options }

/-! ## Single options -/

/-- The text of an option is empty. -/
structure EmptyOption where
  deriving DecidableEq, Repr

/-- The wording for an option without text. -/
def EmptyOption.message (_ : EmptyOption) : String := "expected key or key=value"

/-- The option that a text spells: a name, and after the first equals sign a value. Every other
character stands for itself. -/
def parseOption (s : String) : Except EmptyOption (String × String) :=
  if s.isEmpty then .error ⟨⟩
  else
    let name := s.toList.takeWhile (· ≠ '=')
    let value := (s.toList.dropWhile (· ≠ '=')).drop 1
    .ok (String.ofList name, String.ofList value)

end MountFlags

end FuseMount
