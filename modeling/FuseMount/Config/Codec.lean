import FuseMount.Config
import FuseMount.Json.Codec

/-!
# Configurations as JSON

The JSON form of a mount's configuration: a record with the fields of `Config.record`, in this
order. Fields that hold what they hold by default are left out, but for the implementation, which is
always written.
-/

namespace FuseMount

/-- Platforms, by their names. -/
def Platform.codec : Json.Codec Platform :=
  .variant Platform.all Platform.name

/-- Implementations, by their names. -/
def Implementation.codec : Json.Codec Implementation :=
  .variant Implementation.all Implementation.name

namespace Config

open Json (RecordField)

/-- A field with a text, which is left out if it is empty. -/
def textField (name : String) (get : Config → String) (set : String → Config → Config) :
    RecordField Config :=
  .make name .text get set String.isEmpty

/-- A field with a switch, which is left out if it is off. -/
def toggleField (name : String) (get : Config → Bool) (set : Bool → Config → Config) :
    RecordField Config :=
  .make name .toggle get set not

/-- The fields of a configuration. -/
def fields : List (RecordField Config) :=
  [textField "fs_name" (·.fsName) fun v c => { c with fsName := v },
    toggleField "read_only" (·.readOnly) fun v c => { c with readOnly := v },
    toggleField "disable_writeback_caching" (·.disableWritebackCaching)
      fun v c => { c with disableWritebackCaching := v },
    toggleField "enable_vnode_caching" (·.enableVnodeCaching)
      fun v c => { c with enableVnodeCaching := v },
    toggleField "enable_symlink_caching" (·.enableSymlinkCaching)
      fun v c => { c with enableSymlinkCaching := v },
    toggleField "enable_no_open_support" (·.enableNoOpenSupport)
      fun v c => { c with enableNoOpenSupport := v },
    toggleField "enable_no_opendir_support" (·.enableNoOpendirSupport)
      fun v c => { c with enableNoOpendirSupport := v },
    toggleField "disable_default_permissions" (·.disableDefaultPermissions)
      fun v c => { c with disableDefaultPermissions := v },
    toggleField "use_vectored_read" (·.useVectoredRead) fun v c => { c with useVectoredRead := v },
    textField "volume_name" (·.volumeName) fun v c => { c with volumeName := v },
    .make "implementation" Implementation.codec (·.implementation)
      (fun v c => { c with implementation := v }) fun _ => false,
    .make "options" .textMap (·.options) (fun v c => { c with options := v }) TextMap.isEmpty,
    textField "subtype" (·.subtype) fun v c => { c with subtype := v },
    toggleField "enable_async_reads" (·.enableAsyncReads)
      fun v c => { c with enableAsyncReads := v },
    toggleField "enable_parallel_dir_ops" (·.enableParallelDirOps)
      fun v c => { c with enableParallelDirOps := v },
    toggleField "enable_atomic_trunc" (·.enableAtomicTrunc)
      fun v c => { c with enableAtomicTrunc := v },
    toggleField "enable_readdirplus" (·.enableReaddirplus)
      fun v c => { c with enableReaddirplus := v },
    toggleField "enable_auto_readdirplus" (·.enableAutoReaddirplus)
      fun v c => { c with enableAutoReaddirplus := v }]

/-- Configurations as a record type. -/
def record : Json.Record Config := ⟨"Config", fields, {}⟩

/-- The codec of configurations. -/
def codec : Json.Codec Config := record.codec

/-- The configuration that a document holds. -/
def decode (document : String) : Except Json.Fault Config :=
  codec.decoder.decode document

/-- A configuration as a document. -/
def encode (config : Config) : String :=
  (codec.toJson config).render

end Config

end FuseMount
