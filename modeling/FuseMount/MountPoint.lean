import FuseMount.Text.Numeral
import FuseMount.Text.Utf8

/-!
# Mount points

A mount point is a path, any byte string. A path of the form `/dev/fd/N` names an open descriptor
that another process has handed over: what is mounted there is managed by that process.
-/

namespace FuseMount

namespace Path

/-- The byte that separates the names in a path. -/
def slash : UInt8 := 0x2F

/-- The name of the directory itself. -/
def here : Bytes := [0x2E]

/-- The name of the directory above. -/
def above : Bytes := [0x2E, 0x2E]

/-- Whether a path begins at the root. -/
def isAbsolute (path : Bytes) : Bool :=
  path.head? == some slash

/-- The parts of a path between its slashes, empty ones included. -/
def parts (path : Bytes) : List Bytes :=
  path.splitOn slash

/-- The parts of a path that lead anywhere: neither empty nor the directory itself. -/
def steps (path : Bytes) : List Bytes :=
  (parts path).filter fun part => part ≠ [] && part ≠ here

end Path

namespace MountPoint

/-- Whether a byte is an ASCII digit. -/
def isDigit (b : UInt8) : Bool :=
  0x30 ≤ b && b ≤ 0x39

/-- The name `dev`. -/
def dev : Bytes := [0x64, 0x65, 0x76]

/-- The name `fd`. -/
def fd : Bytes := [0x66, 0x64]

/-- The digits of `N`, if a path has the form `/dev/fd/N`. -/
def descriptorDigits? (path : Bytes) : Option Bytes :=
  if Path.isAbsolute path then
    match Path.steps path with
    | [first, second, digits] =>
      if first = dev && second = fd && digits.all isDigit then some digits else none
    | _ => none
  else none

/-- Whether a path has the form `/dev/fd/N`, however large `N` is. -/
def isExternallyManaged (path : Bytes) : Bool :=
  (descriptorDigits? path).isSome

/-- No descriptor is as large as this: 2³¹. -/
def descriptorBound : Nat := 0x80000000

/-- The descriptor of a path of the form `/dev/fd/N`, if it is below 2³¹. -/
def externalDescriptor? (path : Bytes) : Option Nat :=
  (descriptorDigits? path).bind fun digits =>
    (Numeral.read 10 descriptorBound (digits.map fun b => Char.ofNat b.toNat)).toOption

end MountPoint

end FuseMount
