import FuseMount.Host
import FuseMount.Options.Derived

/-!
# Mounting

The helper programs that mount a file system, what they are given, and what the kernel is given when
a file system is mounted without a helper.
-/

namespace FuseMount

/-! ## Helpers -/

/-- The helpers that may mount a file system on a platform, the preferred one first. -/
def helperCandidates : Platform → Implementation → List String
  | .linux, _ => ["fusermount3", "fusermount"]
  | .darwin, .macFuse =>
    ["/Library/Filesystems/macfuse.fs/Contents/Resources/mount_macfuse",
      "/Library/Filesystems/osxfuse.fs/Contents/Resources/mount_osxfuse"]
  | .darwin, .fuseT =>
    ["/usr/local/bin/go-nfsv4", "/Library/Application Support/fuse-t/bin/go-nfsv4"]
  | .other, _ => []

/-- Whether a helper is there: at its path if that is absolute, and else in a directory of `PATH`.
-/
def Host.hasHelper (host : Host) (helper : String) : Bool :=
  let path := Utf8.encode helper
  if Path.isAbsolute path then host.isFile path else host.findInPath path

/-- The first helper that is there. -/
def Host.findHelper (host : Host) (platform : Platform) (implementation : Implementation) :
    Option String :=
  (helperCandidates platform implementation).find? host.hasHelper

/-- The arguments of a helper. The two dashes keep the mount point from being taken for an option.
-/
def helperArguments (options : Options) (mountPoint : Bytes) : List Bytes :=
  [Utf8.encode "-o", Utf8.encode options.render, Utf8.encode "--", mountPoint]

/-! ## Mounting without a helper -/

/-- The data that the kernel is given on Linux to mount an open `/dev/fuse` descriptor. -/
def directMountData (fd : Int32) (uid gid : UInt32) (options : Options) : String :=
  "fd=" ++ fd.toInt.repr ++ ",rootmode=40000,user_id=" ++ uid.toNat.repr ++
    ",group_id=" ++ gid.toNat.repr ++
    if options.isEmpty then "" else "," ++ options.render

/-- The flags that the kernel is given on Linux: set-user-ID bits (2) and devices (4) are without
effect, and the mount is read only (1) if the configuration says so. -/
def directMountFlags (config : Config) : UInt64 :=
  4 ||| 2 ||| if config.readOnly then 1 else 0

end FuseMount
