import FuseMount.Options.Basic
import FuseMount.Platform

/-!
# Mount configurations

What a user decides about a mount. `FuseMount.Config.Codec` gives the JSON form,
`FuseMount.Options.Derived` and `FuseMount.InitFlags` what follows for the mount helper and for the
kernel.
-/

namespace FuseMount

/-- A mount's configuration. -/
structure Config where
  /-- The name of the file system, as tools display it. -/
  fsName : String := ""
  /-- Mount read only. -/
  readOnly : Bool := false
  /-- Forward each write to the file system before the caller's call returns. Linux only: Darwin
  always does. -/
  disableWritebackCaching : Bool := false
  /-- Keep the kernel's cache of directory entries. Darwin only. -/
  enableVnodeCaching : Bool := false
  /-- Cache the targets of symbolic links. Linux only. -/
  enableSymlinkCaching : Bool := false
  /-- Let the file system do without calls that open files. Linux only. -/
  enableNoOpenSupport : Bool := false
  /-- Let the file system do without calls that open directories. Linux only. -/
  enableNoOpendirSupport : Bool := false
  /-- Leave all permission checks to the file system. -/
  disableDefaultPermissions : Bool := false
  /-- Return read data as slices. This concerns the server of the file system alone. -/
  useVectoredRead : Bool := false
  /-- The name of the volume in the Finder. Darwin only. -/
  volumeName : String := ""
  /-- The FUSE implementation. Darwin only. -/
  implementation : Implementation := .fuseT
  /-- Further options for the mount helper, which win over those that follow from the other fields.
  -/
  options : Options := ∅
  /-- The file system type that is shown after `fuse.`. -/
  subtype : String := ""
  /-- Allow several reads at a time. -/
  enableAsyncReads : Bool := false
  /-- Allow lookups in a directory at the same time. -/
  enableParallelDirOps : Bool := false
  /-- Truncate a file while it is opened. -/
  enableAtomicTrunc : Bool := false
  /-- List directories together with the attributes of their entries. -/
  enableReaddirplus : Bool := false
  /-- Let the kernel choose whether the attributes are listed. Of effect only together with
  `enableReaddirplus`. -/
  enableAutoReaddirplus : Bool := false
  deriving DecidableEq

instance : Inhabited Config := ⟨{}⟩

end FuseMount
