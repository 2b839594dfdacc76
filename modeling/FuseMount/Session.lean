import FuseMount.CommandLine.Command
import FuseMount.Failure
import FuseMount.Helper
import FuseMount.Settings
import FuseMount.Unmount

/-!
# Sessions

A session is what commands run in: the host and the settings of the command line.

* `Session.start` reads the settings. A file that is missing is as good as none.
* `Session.run` runs a command. Arguments go before settings, and settings before the defaults.
-/

namespace FuseMount

/-- What commands run in. -/
structure Session where
  /-- The system. -/
  host : Host
  /-- The settings, if there is a file with settings. -/
  settings : Option Settings := none
  deriving DecidableEq

/-! ## Reading the settings -/

namespace Settings

/-- Where the settings are if no path is given, from the user's own directory. -/
def usualPath : Bytes := Utf8.encode ".config/mountkit/config.json"

/-- The path of the settings: the given one, or else the usual one if the user's own directory is
known. -/
def path? (host : Host) (given : Option Bytes) : Option Bytes :=
  given <|> host.environment.home.map fun home => Host.join home usualPath

/-- The failure of a step on the way from a file to settings. -/
def failure (path : Bytes) (step cause : String) : Failure :=
  ((Failure.ofMessage cause).under step).note "path" (Utf8.lossy path)

/-- The settings in a file; none if the file is missing. -/
def load (host : Host) (path : Bytes) : Except Failure (Option Settings) :=
  match host.read path with
  | .error .notFound => .ok none
  | .error e => .error (failure path "failed to read the config file" e.message)
  | .ok document =>
    match decode document with
    | .ok settings => .ok (some settings)
    | .error e => .error (failure path "failed to deserialize the config" e.message)

end Settings

namespace Session

/-- The session on a host, with the settings at a path or at the usual place. -/
def start (host : Host) (path : Option Bytes) : Except Failure Session :=
  match Settings.path? host path with
  | none => .ok { host }
  | some path => do return { host, settings := ← Settings.load host path }

/-! ## What a command works with -/

/-- The platform: the given one, or that of the settings, or the host's. -/
def platform (session : Session) (given : Option Platform) : Platform :=
  (given <|> session.settings.bind (·.platform)).getD Platform.host

/-- What the settings say about logging. -/
def logging (session : Session) : Option Logging :=
  session.settings.bind (·.logging)

/-- The mount's configuration in the settings. -/
def baseConfig (session : Session) : Config :=
  (session.settings.bind (·.mount)).getD {}

/-- The mount's configuration with flags on top of it. -/
def config (session : Session) (flags : MountFlags) : Config :=
  flags.apply session.baseConfig

/-! ## Commands -/

/-- The event that reports how many options there are. -/
def builtEvent (platform : Platform) (options : Options) : Event where
  level := .debug
  target := "mountkit::options"
  message := "built the options"
  fields := [("platform", .text platform.name), ("count", .number options.size)]

/-- The line that starts a mount helper. -/
def helperLine (helper : String) (options : Options) (mountPoint : Bytes) : String :=
  String.intercalate " " (helper :: (helperArguments options mountPoint).map Utf8.lossy)

/-- Prints the options of a mount, or the line that starts its helper. -/
def printOptions (session : Session) (flags : MountFlags) (mountPoint : Option Bytes) :
    Run (Except Failure Unit) := do
  let platform := session.platform flags.platform
  let config := session.config flags
  let options := config.mountOptions platform
  Run.report (builtEvent platform options)
  match mountPoint with
  | none => do
    Run.print (options.render ++ "\n")
    return .ok ()
  | some mountPoint =>
    match session.host.findHelper platform config.implementation with
    | none =>
      return .error
        ((Failure.ofMessage "failed to find a mount helper").note "platform" platform.name)
    | some helper => do
      Run.print (helperLine helper options mountPoint ++ "\n")
      return .ok ()

/-- The line for the name of a flag. -/
def flagLine (name : String) : String :=
  if name = "max_pages" then name ++ " = " ++ InitFlags.maxPagesValue.repr ++ "\n" else name ++ "\n"

/-- The text for a set of flags: the word, and the name of each flag in it. -/
def flagsText (flags : InitFlags) : String :=
  flags.paddedHex ++ "\n" ++ String.join (flags.names.map flagLine)

/-- Prints the capability flags of a mount, or what is left of them after an offer. -/
def printInitFlags (session : Session) (flags : MountFlags) (offered : Option InitFlags) :
    Run (Except Failure Unit) := do
  let requested := (session.config flags).initFlags (session.platform flags.platform)
  let agreed ← match offered with
    | some offered => InitFlags.negotiate requested offered
    | none => pure requested
  Run.print (flagsText agreed)
  return .ok ()

/-- The event for a mount point that has been unmounted. -/
def unmountedEvent (mountPoint : Bytes) : Event where
  level := .info
  target := "mountkit::unmount"
  message := "unmounted"
  fields := [("path", .text (Utf8.lossy mountPoint))]

/-- Prints a line that begins with a coloured word. -/
def printLine (colour : Terminal.Colour) (word text : String) : Run Unit :=
  Run.printDiagnostic (Terminal.plain (Terminal.coloured colour word ++ [" ", text, "\n"]))

/-- Prints a warning. -/
def warn (text : String) : Run Unit := printLine .yellow "warning" text

/-- The error that is the source of a failure to unmount. -/
def unmountError (e : Unmount.Error) : AnyError :=
  match e.cause? with
  | some cause => .wrapped e.message (.plain cause.message)
  | none => .plain e.message

/-- Unmounts a mount point. It is no failure that another process manages it. -/
def unmount (session : Session) (mountPoint : Bytes) (platform : Option Platform) :
    Run (Except Failure Unit) := do
  match ← FuseMount.unmount session.host (session.platform platform) mountPoint with
  | .ok () => do
    Run.report (unmountedEvent mountPoint)
    return .ok ()
  | .error .externallyManaged => do
    warn (Utf8.lossy mountPoint ++ " is externally managed, skipping unmount")
    return .ok ()
  | .error e =>
    return .error
      (((unmountError e).intoFailure.under "the unmount command failed").note "path"
        (Utf8.lossy mountPoint))

/-- Runs a command. -/
def run (session : Session) : Command → Run (Except Failure Unit)
  | .initFlags flags offered => session.printInitFlags flags offered
  | .options flags mountPoint => session.printOptions flags mountPoint
  | .unmount mountPoint platform => session.unmount mountPoint platform

end Session

end FuseMount
