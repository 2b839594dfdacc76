import FuseMount.CommandLine.Grammar
import FuseMount.Host
import FuseMount.InitFlags
import FuseMount.MountFlags

/-!
# Commands

The commands of the program, and `Invocation.parse`, which makes one of them from arguments and
environment variables.

```text
[--config PATH] [--tracing FILTER] COMMAND
  init-flags [mount flags] [--offered FLAGS]
  options    [mount flags] [--path PATH]
  unmount    [--platform PLATFORM] PATH
```
-/

namespace FuseMount

/-- What the program is asked to do. -/
inductive Command where
  /-- Print the capability flags that a mount asks for, or what is left of them after an offer. -/
  | initFlags (mount : MountFlags) (offered : Option InitFlags)
  /-- Print the options of a mount, or how its helper is started for a mount point. -/
  | options (mount : MountFlags) (mountPoint : Option Bytes)
  /-- Unmount a mount point. -/
  | unmount (mountPoint : Bytes) (platform : Option Platform)
  deriving DecidableEq, Repr

/-- A command, with what is said about the run itself. -/
structure Invocation where
  /-- What to do. -/
  command : Command
  /-- The path of the configuration file. -/
  config : Option Bytes := none
  /-- The filter for events. -/
  tracing : Option String := none
  deriving DecidableEq, Repr

namespace Command

open CommandLine

/-- The option that chooses a platform. -/
def platformFlag {σ : Type} (set : Platform → σ → σ) : Flag σ :=
  .withValue "platform" "PLATFORM" (readBy Platform.parse UnknownName.message) set

/-- The options that say something about a mount. -/
def mountFlags : List (Flag MountFlags) :=
  [platformFlag fun v m => { m with platform := some v },
    .withValue "fs-name" "FS_NAME" readText fun v m => { m with fsName := some v },
    .withValue "subtype" "SUBTYPE" readText fun v m => { m with subtype := some v },
    .switch "read-only" fun m => { m with readOnly := true },
    .withValue "volume-name" "VOLUME_NAME" readText fun v m => { m with volumeName := some v },
    .withValue "implementation" "IMPLEMENTATION"
      (readBy Implementation.parse UnknownName.message)
      fun v m => { m with implementation := some v },
    .switch "disable-default-permissions" fun m => { m with disableDefaultPermissions := true },
    .switch "disable-writeback-caching" fun m => { m with disableWritebackCaching := true },
    .switch "enable-vnode-caching" fun m => { m with enableVnodeCaching := true },
    .switch "enable-symlink-caching" fun m => { m with enableSymlinkCaching := true },
    .switch "enable-no-open-support" fun m => { m with enableNoOpenSupport := true },
    .switch "enable-no-opendir-support" fun m => { m with enableNoOpendirSupport := true },
    .switch "enable-async-reads" fun m => { m with enableAsyncReads := true },
    .switch "enable-parallel-dir-ops" fun m => { m with enableParallelDirOps := true },
    .switch "enable-atomic-trunc" fun m => { m with enableAtomicTrunc := true },
    .switch "enable-readdirplus" fun m => { m with enableReaddirplus := true },
    .switch "enable-auto-readdirplus" fun m => { m with enableAutoReaddirplus := true },
    (Flag.withValue "option" "OPTIONS"
        (readBy MountFlags.parseOption MountFlags.EmptyOption.message)
        fun v m => { m with options := m.options ++ [v] }).repeated.orShort 'o']

/-! ## The grammars of the commands -/

/-- The options of a command about a mount, with one more that sets the second part of its value. -/
def mountGrammar {α : Type} (flag : Flag (MountFlags × Option α)) :
    Grammar (MountFlags × Option α) where
  flags := mountFlags.map (Flag.within fun f => Prod.map f id) ++ [flag, .help]

/-- The arguments of `init-flags`. -/
def initFlagsGrammar : Grammar (MountFlags × Option InitFlags) :=
  mountGrammar <|
    .withValue "offered" "OFFERED" (readBy InitFlags.parse InitFlags.BadNumeral.message)
      fun v s => (s.1, some v)

/-- The arguments of `options`. -/
def optionsGrammar : Grammar (MountFlags × Option Bytes) :=
  mountGrammar <| .withValue "path" "PATH" readPath fun v s => (s.1, some v)

/-- The arguments of `unmount`. -/
def unmountGrammar : Grammar (Bytes × Option Platform) where
  flags := [platformFlag fun v s => (s.1, some v), .help]
  operands := [{ shown := "<PATH>", take := fun bytes => (fun v s => (v, s.2)) <$> readPath bytes }]

/-- How a command is read from its own arguments. -/
abbrev Reader := List Bytes → Except Fault Command

/-- Reads `init-flags`. -/
def readInitFlags : Reader := fun arguments => do
  let (mount, offered) ← initFlagsGrammar.read ({}, none) arguments
  return .initFlags mount offered

/-- Reads `options`. -/
def readOptions : Reader := fun arguments => do
  let (mount, mountPoint) ← optionsGrammar.read ({}, none) arguments
  return .options mount mountPoint

/-- Reads `unmount`. -/
def readUnmount : Reader := fun arguments => do
  let (mountPoint, platform) ← unmountGrammar.read ([], none) arguments
  return .unmount mountPoint platform

/-- The names of the commands. -/
def named : List (String × Reader) :=
  [("init-flags", readInitFlags), ("options", readOptions), ("o", readOptions),
    ("unmount", readUnmount), ("umount", readUnmount)]

end Command

namespace Invocation

open CommandLine

/-- What is said about a run before its command. -/
structure General where
  /-- The path of the configuration file. -/
  config : Option Bytes := none
  /-- The filter for events. -/
  tracing : Option String := none
  deriving DecidableEq, Repr

/-- The path of the configuration file. -/
def configParameter : Parameter General where
  shown := "--config <CONFIG>"
  take bytes := (fun v s => { s with config := some v }) <$> readPath bytes

/-- The filter for events. -/
def tracingParameter : Parameter General where
  shown := "--tracing <TRACING>"
  take bytes := (fun v s => { s with tracing := some v }) <$> readText bytes

/-- The arguments before a command. -/
def grammar : Grammar General where
  flags :=
    [⟨"config", some 'c', .value configParameter⟩,
      ⟨"tracing", none, .value tracingParameter⟩,
      .help,
      ⟨"version", some 'V', .request .version⟩]
  commands := Command.named.map Prod.fst

/-- Takes the value of a parameter from an environment variable, if no argument gives it. -/
def fallBack (s : Progress General) (p : Parameter General) (value : Option Bytes) :
    Except Fault (Progress General) :=
  match value with
  | some bytes => if s.given.contains p.shown then .ok s else s.give p bytes
  | none => .ok s

/-- What is said about the run by the arguments before its command and by the environment. -/
def general (environment : Environment) (s : Progress General) :
    Except Fault (Progress General) := do
  let s ← s.resolve
  let s ← fallBack s configParameter environment.config
  fallBack s tracingParameter environment.tracing

/-- The invocation that arguments and environment variables make. The arguments of a command are
judged before those that stand in front of it. -/
def parse (environment : Environment) (arguments : List Bytes) : Except Fault Invocation := do
  match ← grammar.scan (grammar.start {}) arguments with
  | (s, some (name, rest)) =>
    match Command.named.lookup name with
    | some reader => do
      let command ← reader rest
      let s ← general environment s
      return { command, config := s.value.config, tracing := s.value.tracing }
    | none => throw (.unknownCommand name)
  | (s, none) => do
    let s ← general environment s
    throw (if s.given.isEmpty then .nothingGiven else .missingCommand)

end Invocation

end FuseMount
