import FuseMount.Helper
import FuseMount.Text.Blank

/-!
# Unmounting

`unmount` runs the program that unmounts a mount point, unless the mount point is managed by another
process.
-/

namespace FuseMount

namespace Unmount

/-- Why a mount point was not unmounted. -/
inductive Error where
  /-- Another process manages it, so it was left alone. -/
  | externallyManaged
  /-- The program that unmounts it could not be started, or failed. -/
  | failed (mountPoint : Bytes) (cause : SystemError)
  deriving DecidableEq, Repr

/-- The wording of an error. -/
def Error.message : Error → String
  | .externallyManaged => "externally managed mount point, skipping unmount"
  | .failed mountPoint _ => "failed to unmount " ++ Utf8.lossy mountPoint

/-- The error below an error. -/
def Error.cause? : Error → Option SystemError
  | .externallyManaged => none
  | .failed _ cause => some cause

/-- The program that unmounts a mount point, and its arguments: the mount helper if Linux has one,
and else `umount`. -/
def command (host : Host) (platform : Platform) (mountPoint : Bytes) : String × List Bytes :=
  let helper? := if platform = .linux then host.findHelper platform default else none
  match helper? with
  | some helper => (helper, [Utf8.encode "-u", mountPoint])
  | none => ("umount", [mountPoint])

/-- What is said about a program that ended with a code other than zero. -/
def exitMessage (program : String) (exit : Host.Exit) : String :=
  let diagnostics := String.ofList (Text.trim (Utf8.lossy exit.diagnostics).toList)
  program ++ " exited with exit status: " ++ exit.code.repr ++
    if diagnostics.isEmpty then "" else ": " ++ diagnostics

/-- The part of the program that reports the events below. -/
def target : String := "mountkit_mount::unmount"

/-- The event for a mount point that is left alone. -/
def skippedEvent (mountPoint : Bytes) : Event where
  level := .debug
  target := target
  message := "skipping an externally managed mount point"
  fields := [("path", .text (Text.quoteBytes mountPoint))]

/-- The event for a program that is about to be started. -/
def startedEvent (program : String) (arguments : List Bytes) : Event where
  level := .debug
  target := target
  message := "unmounting"
  fields := [("program", .text (Text.quote program)),
    ("args", .text (Text.bracketed (arguments.map Text.quoteBytes)))]

/-- The event for a failure. -/
def failedEvent (e : Error) : Event where
  level := .error
  target := target
  message := "failed to unmount"
  fields := [("error", .text e.message)]

/-- Starts a program and expects it to end well. -/
def runProgram (host : Host) (program : String) (arguments : List Bytes) :
    Run (Except SystemError Unit) := do
  match ← host.start (Utf8.encode program) arguments with
  | .error e => return .error e
  | .ok exit => return if exit.code = 0 then .ok () else .error (.other (exitMessage program exit))

end Unmount

/-- Unmounts a mount point by the conventions of a platform. -/
def unmount (host : Host) (platform : Platform) (mountPoint : Bytes) :
    Run (Except Unmount.Error Unit) := do
  if MountPoint.isExternallyManaged mountPoint then
    Run.report (Unmount.skippedEvent mountPoint)
    return .error .externallyManaged
  let (program, arguments) := Unmount.command host platform mountPoint
  Run.report (Unmount.startedEvent program arguments)
  match ← Unmount.runProgram host program arguments with
  | .ok () => return .ok ()
  | .error cause =>
    let e := Unmount.Error.failed mountPoint cause
    Run.report (Unmount.failedEvent e)
    return .error e

end FuseMount
