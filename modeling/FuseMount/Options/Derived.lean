import FuseMount.Config

/-!
# The options of a configuration

`Config.mountOptions` gives the options that a configuration means on a platform: the ones which
follow from its fields, overridden by the caller's own.
-/

namespace FuseMount

/-- The name of a file system on Linux whose configuration gives none. Some init systems unmount
file systems without a name. -/
def fallbackFsName : String := "some_fuse_file_system"

namespace Config

/-- A bare flag, if it is wanted. -/
def flagIf (wanted : Bool) (name : String) : List (String × String) :=
  if wanted then [(name, "")] else []

/-- An option with a value, if there is one. -/
def valueIf (value name : String) : List (String × String) :=
  if value.isEmpty then [] else [(name, value)]

/-- The name of the file system on a platform. -/
def fsNameOn (config : Config) (platform : Platform) : String :=
  if config.fsName.isEmpty && platform == .linux then fallbackFsName else config.fsName

/-- The options that follow from the fields of a configuration, each name at most once. Darwin's
kernel extension ignores the expiry of cached entries, so the cache is off there unless it is asked
for; files such as `.DS_Store` are kept out. -/
def impliedOptions (config : Config) (platform : Platform) : List (String × String) :=
  flagIf (!config.disableDefaultPermissions) "default_permissions" ++
    valueIf (config.fsNameOn platform) "fsname" ++
    valueIf config.subtype "subtype" ++
    flagIf config.readOnly "ro" ++
    if platform = .darwin then
      flagIf (!config.enableVnodeCaching) "novncache" ++
        valueIf config.volumeName "volname" ++
        flagIf true "noappledouble"
    else []

/-- The options that a configuration means on a platform. The caller's options win. -/
def mountOptions (config : Config) (platform : Platform) : Options :=
  (TextMap.ofList (config.impliedOptions platform)).insertAll config.options.entries

end Config

end FuseMount
