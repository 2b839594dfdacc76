import FuseMount.Text.Quoted

/-!
# Platforms and FUSE implementations

The platforms whose mount conventions are known, the implementations of FUSE to choose from on
Darwin, and their names. Each value is written under one name; a few more names are understood when
one is read (`Platform.parse`, `Implementation.parse`).
-/

namespace FuseMount

/-- A name that stands for nothing of its kind. -/
structure UnknownName where
  /-- What was looked for. -/
  kind : String
  /-- The text that does not name one. -/
  text : String
  deriving DecidableEq, Repr

/-- The wording for a name that stands for nothing. -/
def UnknownName.message (e : UnknownName) : String :=
  "invalid " ++ e.kind ++ " " ++ Text.quote e.text

/-- A platform with mount conventions of its own. -/
inductive Platform where
  | linux
  | darwin
  /-- Any other system: only what all platforms share applies to it. -/
  | other
  deriving DecidableEq, Repr

namespace Platform

/-- All platforms, in the order in which messages list them. -/
def all : List Platform := [linux, darwin, other]

/-- The platform of this library's programs. -/
def host : Platform := linux

instance : Inhabited Platform := ⟨linux⟩

/-- The name under which a platform is written. -/
def name : Platform → String
  | linux => "linux"
  | darwin => "darwin"
  | other => "other"

/-- The platform that a name on the command line stands for. -/
def parse : String → Except UnknownName Platform
  | "linux" => .ok linux
  | "darwin" => .ok darwin
  | "macos" => .ok darwin
  | "other" => .ok other
  | s => .error ⟨"platform", s⟩

end Platform

/-- An implementation of FUSE on Darwin. -/
inductive Implementation where
  | fuseT
  | macFuse
  deriving DecidableEq, Repr

namespace Implementation

/-- All implementations, in the order in which messages list them. -/
def all : List Implementation := [fuseT, macFuse]

instance : Inhabited Implementation := ⟨fuseT⟩

/-- The name under which an implementation is written. -/
def name : Implementation → String
  | fuseT => "fuse_t"
  | macFuse => "mac_fuse"

/-- The implementation that a name on the command line stands for. -/
def parse : String → Except UnknownName Implementation
  | "fuse_t" => .ok fuseT
  | "fuse-t" => .ok fuseT
  | "macfuse" => .ok macFuse
  | "mac_fuse" => .ok macFuse
  | s => .error ⟨"implementation", s⟩

end Implementation

end FuseMount
