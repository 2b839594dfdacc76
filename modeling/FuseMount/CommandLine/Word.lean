import FuseMount.Text.Utf8

/-!
# Words of a command line

What kind of argument a byte string is, judged by how it begins: `--` alone, a long option such as
`--path` or `--path=value`, a group of short options such as `-o` or `-ovalue`, or a plain word. One
dash alone is a plain word.
-/

namespace FuseMount.CommandLine

/-- The dash that options begin with. -/
def dash : UInt8 := 0x2D

/-- The sign between the name of an option and its value. -/
def equalsSign : UInt8 := 0x3D

/-- An argument, taken apart. -/
inductive Word where
  /-- The two dashes after which all words are plain. -/
  | dashes
  /-- A long option, with what follows the first equals sign. -/
  | long (name : Bytes) (value : Option Bytes)
  /-- Short options, and perhaps a value, after one dash. -/
  | short (group : List Utf8.Piece)
  /-- Anything else. -/
  | plain
  deriving DecidableEq, Repr

/-- Splits at the first equals sign. -/
def splitValue (bytes : Bytes) : Bytes × Option Bytes :=
  match bytes.dropWhile (· ≠ equalsSign) with
  | _ :: value => (bytes.takeWhile (· ≠ equalsSign), some value)
  | [] => (bytes, none)

/-- The kind of an argument. -/
def Word.ofBytes (bytes : Bytes) : Word :=
  match bytes with
  | [] => .plain
  | first :: rest =>
    if first ≠ dash then .plain
    else
      match rest with
      | [] => .plain
      | second :: rest' =>
        if second ≠ dash then .short (Utf8.pieces rest)
        else if rest'.isEmpty then .dashes
        else
          let (name, value) := splitValue rest'
          .long name value

end FuseMount.CommandLine
