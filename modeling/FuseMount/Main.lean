import FuseMount.Program

/-!
# The executable

Shows the real system to `Program.run` and carries out what it prints. Only the files that a run may
look at are shown: the settings, and the helpers in the directories of `PATH`. This executable
starts no other programs, so the helpers are shown as files that cannot be executed.
-/

namespace FuseMount.Main

/-- The place that a path leads to when no link is on the way. -/
def placeOf (workingDirectory : Place) (path : Bytes) : Place :=
  (Path.steps path).foldl
    (fun place part => if part = Path.above then place.dropLast else place ++ [part])
    (if Path.isAbsolute path then [] else workingDirectory)

/-- The paths of the programs that a run may look for. -/
def helperPaths (environment : Environment) : List Bytes :=
  let names := ["fusermount3", "fusermount", "umount"].map Utf8.encode
  let host : Host := { environment }
  host.searchPath.flatMap (fun directory => names.map (Host.join directory)) ++
    host.programDirectories.flatMap (fun directory => names.map (Host.programPath directory)) ++
    [Implementation.fuseT, .macFuse].flatMap fun implementation =>
      (helperCandidates .darwin implementation).map Utf8.encode

/-- The path of the settings, if the arguments make an invocation. -/
def settingsPath (environment : Environment) (arguments : List Bytes) : Option Bytes :=
  match Invocation.parse environment arguments with
  | .ok invocation => Settings.path? { environment } invocation.config
  | .error _ => none

/-- The environment variables. -/
def readEnvironment : IO Environment := do
  let read (name : String) : IO (Option Bytes) := do
    return (← IO.getEnv name).map Utf8.encode
  return {
    path := ← read "PATH"
    home := ← read "HOME"
    config := ← read "MOUNTKIT_CONFIG"
    tracing := ← read "MOUNTKIT_TRACING" }

/-- What stands at a path, if it can be read. -/
def readNode (path : Bytes) (node : Bytes → Node) : IO (Option Node) :=
  match Utf8.decode? path with
  | none => return none
  | some path => do
    try
      return some (node (← IO.FS.readBinFile path).toList)
    catch _ => return none

/-- The system, as far as a run may look at it. -/
def readHost (arguments : List Bytes) : IO Host := do
  let environment ← readEnvironment
  let directory := Utf8.encode (← IO.currentDir).toString
  let workingDirectory := placeOf [] directory
  let mut nodes : Array (Place × Node) := #[]
  for path in (settingsPath environment arguments).toList do
    if let some node ← readNode path .file then
      nodes := nodes.push (placeOf workingDirectory path, node)
  for path in helperPaths environment do
    if let some node ← readNode path fun content => .programFile false 0 [] content then
      nodes := nodes.push (placeOf workingDirectory path, node)
  return { workingDirectory, nodes := nodes.toList, environment }

/-- Carries out what is to be printed. -/
def carryOut : Effect → IO Unit
  | .output text => IO.print text
  | .diagnostic text => IO.eprint text
  | .event _ | .call _ => pure ()

end FuseMount.Main

/-- Runs the program on the real system. -/
def main (arguments : List String) : IO UInt32 := do
  let arguments := arguments.map FuseMount.Utf8.encode
  let r := FuseMount.Program.run (← FuseMount.Main.readHost arguments) arguments
  r.effects.forM FuseMount.Main.carryOut
  return r.value.toUInt32
