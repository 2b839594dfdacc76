import FuseMount.MountPoint
import FuseMount.Run

/-!
# The host of a command

What a command sees of the system that it runs on: environment variables, its working directory, and
files. A place in the file system is given by the names on the way to it from the root.

* `Host.locate` follows a path, with the errors of POSIX.
* `Host.isFile` and `Host.read` look at what stands there.
* `Host.findInPath` says whether a directory of `PATH` has a file of a given name.
* `Host.start` starts a program by its name, trying directories in order as the C library does.

Those two do not search the same directories. The C library has directories of its own where there
is no `PATH`, puts a slash after every directory, and does not keep the name of one that is longer
than any path (`Host.programDirectories`, `Host.programPath`).
-/

namespace FuseMount

/-! ## Errors of the system -/

/-- An error that the system answers with. -/
inductive SystemError where
  /-- There is no such file. -/
  | notFound
  /-- A file may not be executed, or is a directory. -/
  | permissionDenied
  /-- Something that is no directory stands where a path needs one. -/
  | notADirectory
  /-- A directory stands where a file is needed. -/
  | isADirectory
  /-- A path or a name in it is too long. -/
  | nameTooLong
  /-- A file that is read as text is not UTF-8. -/
  | notText
  /-- A path holds a NUL byte. -/
  | nulInPath
  /-- An argument of a program holds a NUL byte. -/
  | nulInArgument
  /-- Any other error, by its wording. -/
  | other (text : String)
  deriving DecidableEq, Repr

namespace SystemError

/-- The wording of an error, with the number of those that the system has numbered. -/
def message : SystemError → String
  | notFound => "No such file or directory (os error 2)"
  | permissionDenied => "Permission denied (os error 13)"
  | notADirectory => "Not a directory (os error 20)"
  | isADirectory => "Is a directory (os error 21)"
  | nameTooLong => "File name too long (os error 36)"
  | notText => "stream did not contain valid UTF-8"
  | nulInPath => "file name contained an unexpected NUL byte"
  | nulInArgument => "nul byte found in provided data"
  | other text => text

end SystemError

/-! ## Files -/

/-- What stands at a place in the file system. There are no links and no other kinds of files, all
files may be read and all directories searched. -/
inductive Node where
  | directory
  /-- A file that is no program, and may not be executed. -/
  | file (content : Bytes)
  /-- A file that holds a program, with the answer it gives when it is run: its exit code and what
  it writes to the standard error. The kernel can run it if it is executable, so its format is known
  and its interpreter is there, and it ends by itself and not by a signal. -/
  | programFile (executable : Bool) (exitCode : Nat) (diagnostics content : Bytes)
  deriving DecidableEq, Repr

/-- The file of a program by what it does. It is empty, which only shows if it is read as a text. -/
def Node.program (executable : Bool) (exitCode : Nat) (diagnostics : Bytes) : Node :=
  .programFile executable exitCode diagnostics []

/-- The content of a file, which a directory does not have. -/
def Node.content? : Node → Option Bytes
  | .directory => none
  | .file content | .programFile _ _ _ content => some content

/-- The environment variables that a command reads. The system keeps NUL bytes out of them. -/
structure Environment where
  /-- `PATH`: the directories with programs, separated by colons. -/
  path : Option Bytes := none
  /-- `HOME`: the user's own directory. -/
  home : Option Bytes := none
  /-- The variable with the path of the configuration file. -/
  config : Option Bytes := none
  /-- The variable with the filter for events. -/
  tracing : Option Bytes := none
  deriving DecidableEq, Repr

/-- A place in the file system, by the names on the way to it from the root. -/
abbrev Place := List Bytes

/-- The system as a command sees it, which is the same from the start of a run until a program is
started. There is room for the arguments of a program: each one has less than 131072 bytes. -/
structure Host where
  /-- The directory where relative paths begin. -/
  workingDirectory : Place := []
  /-- The files and directories by their places. Directories on the way to another place need not be
  listed. -/
  nodes : List (Place × Node) := []
  /-- The environment variables. -/
  environment : Environment := {}
  /-- The error that an earlier call has left with the C library. A search for a program that tries
  nothing fails with it. The last call before it is a look for a helper. -/
  staleError : SystemError := .nameTooLong
  deriving DecidableEq, Repr

namespace Host

/-- What stands at a place. -/
def node? (host : Host) (place : Place) : Option Node :=
  match host.nodes.find? (·.1 == place) with
  | some (_, node) => some node
  | none =>
    if place.isPrefixOf host.workingDirectory || host.nodes.any (place.isPrefixOf ·.1) then
      some .directory
    else none

/-- A path of as many bytes is too long. -/
def pathLimit : Nat := 4096

/-- Follows one part of a path from a place, which has to be a directory. -/
def follow (host : Host) (place : Place) (part : Bytes) : Except SystemError Place :=
  if host.node? place ≠ some .directory then .error .notADirectory
  else if part = [] || part = Path.here then .ok place
  else if part = Path.above then .ok place.dropLast
  else if 255 < part.length then .error .nameTooLong
  else if (host.node? (place ++ [part])).isSome then .ok (place ++ [part])
  else .error .notFound

/-- The place that a path leads to. -/
def locate (host : Host) (path : Bytes) : Except SystemError Place :=
  if path.contains 0 then .error .nulInPath
  else if path = [] then .error .notFound
  else if pathLimit ≤ path.length then .error .nameTooLong
  else
    let start := if Path.isAbsolute path then [] else host.workingDirectory
    (Path.parts path).foldlM host.follow start

/-- What a path leads to. -/
def lookUp (host : Host) (path : Bytes) : Except SystemError (Place × Node) := do
  let place ← host.locate path
  match host.node? place with
  | some node => return (place, node)
  | none => throw .notFound

/-- Whether a path leads to a file, be it executable or not. -/
def isFile (host : Host) (path : Bytes) : Bool :=
  match host.lookUp path with
  | .ok (_, .file _) | .ok (_, .programFile ..) => true
  | _ => false

/-- The text of a file. -/
def read (host : Host) (path : Bytes) : Except SystemError String := do
  let (_, node) ← host.lookUp path
  match node.content? with
  | some content =>
    match Utf8.decode? content with
    | some text => return text
    | none => throw .notText
  | none => throw .isADirectory

/-! ## Programs -/

/-- The byte between the directories of `PATH`. -/
def colon : UInt8 := 0x3A

/-- The path at which a file is looked for in a directory of `PATH`. The empty text stands for the
working directory. -/
def join (directory name : Bytes) : Bytes :=
  if directory = [] then name
  else if directory.getLast? = some Path.slash then directory ++ name
  else directory ++ Path.slash :: name

/-- The directories of `PATH`, in order. -/
def searchPath (host : Host) : List Bytes :=
  match host.environment.path with
  | some path => path.splitOn colon
  | none => []

/-- Whether a directory of `PATH` has a file of the given name. -/
def findInPath (host : Host) (name : Bytes) : Bool :=
  host.searchPath.any fun directory => host.isFile (join directory name)

/-! ### Starting programs -/

/-- The path at which a program is tried in a directory. The C library puts a slash after every
directory but the empty text, also after one that ends in a slash. -/
def programPath (directory name : Bytes) : Bytes :=
  if directory = [] then name else directory ++ Path.slash :: name

/-- The directories that are tried of those in a list. The C library passes over the text of one that
is longer than any path, but not over the colon after it, so that the working directory is tried in
its place. -/
def triedDirectories : List Bytes → List Bytes
  | [] => []
  | directory :: rest =>
    if directory.length < pathLimit then directory :: triedDirectories rest
    else if rest.isEmpty then []
    else [] :: triedDirectories rest

/-- The directories in which a program is tried, in order: those of `PATH`, and those that the C
library has for a system without `PATH`. -/
def programDirectories (host : Host) : List Bytes :=
  match host.environment.path with
  | some _ => triedDirectories host.searchPath
  | none => [Utf8.encode "/bin", Utf8.encode "/usr/bin"]

/-- How a program ended. -/
structure Exit where
  /-- The exit code. -/
  code : Nat
  /-- What it wrote to the standard error. -/
  diagnostics : Bytes
  deriving DecidableEq, Repr

/-- Tries to execute a file. Only a program that is executable can be, and starting it is recorded.
-/
def execute (host : Host) (path : Bytes) (arguments : List Bytes) :
    Except SystemError (Call × Exit) := do
  match ← host.lookUp path with
  | (place, .programFile true code diagnostics _) => return (⟨place, arguments⟩, ⟨code, diagnostics⟩)
  | _ => throw .permissionDenied

/-- Searches directories in order for a program that can be executed. One where it is missing or may
not be executed is passed over; any other error ends the search. A search that finds nothing fails
for want of permission if that was refused anywhere, and else with the last error. -/
def search (host : Host) (name : Bytes) (arguments : List Bytes) (denied : Bool)
    (failure : SystemError) : List Bytes → Except SystemError (Call × Exit)
  | [] => .error (if denied then .permissionDenied else failure)
  | directory :: rest =>
    match host.execute (programPath directory name) arguments with
    | .ok started => .ok started
    | .error .permissionDenied => search host name arguments true failure rest
    | .error .notFound => search host name arguments denied .notFound rest
    | .error .notADirectory => search host name arguments denied .notADirectory rest
    | .error e => .error e

/-- Starts the program of a name, which holds no slash, and waits for its end. -/
def start (host : Host) (name : Bytes) (arguments : List Bytes) : Run (Except SystemError Exit) :=
  if arguments.any (·.contains 0) then pure (.error .nulInArgument)
  else
    match host.search name arguments false host.staleError host.programDirectories with
    | .ok (call, exit) => do
      Run.perform (.call call)
      return .ok exit
    | .error e => pure (.error e)

end Host

end FuseMount
