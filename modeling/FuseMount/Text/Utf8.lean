/-!
# Byte strings and UTF-8

File names, command-line arguments and the output of programs are byte strings, which need not be
text. A byte string falls apart, read as UTF-8, into characters and broken parts (`Utf8.pieces`);
every reading of bytes as text below is made from the pieces:

* `Utf8.decode?`: the text, if no part is broken;
* `Utf8.lossy`: the text with the mark U+FFFD in place of every broken part.

`Utf8.encode` is the other direction.
-/

namespace FuseMount

/-- A string of bytes in no particular encoding. -/
abbrev Bytes := List UInt8

namespace Utf8

/-- A part of a byte string that is read as UTF-8. -/
inductive Piece where
  /-- A well-formed character. -/
  | char (c : Char)
  /-- A byte that opens no character, or the longest beginning of a character that is not finished.
  -/
  | broken (bytes : Bytes)
  deriving DecidableEq, Repr

/-- What the first byte of a character asks for: the number of bytes after it, and the range of the
first of these. All bytes after that one are from 0x80 to 0xBF. -/
structure Demand where
  /-- How many bytes follow. -/
  count : Nat
  /-- The least value of the next byte. -/
  low : UInt8 := 0x80
  /-- The greatest value of the next byte. -/
  high : UInt8 := 0xBF

/-- The demand of a first byte, if it can be one. The narrowed ranges keep out overlong forms,
surrogates and code points above U+10FFFF. -/
def demand? (b : UInt8) : Option Demand :=
  if b < 0x80 then some { count := 0 }
  else if b < 0xC2 then none
  else if b < 0xE0 then some { count := 1 }
  else if b == 0xE0 then some { count := 2, low := 0xA0 }
  else if b == 0xED then some { count := 2, high := 0x9F }
  else if b < 0xF0 then some { count := 2 }
  else if b == 0xF0 then some { count := 3, low := 0x90 }
  else if b < 0xF4 then some { count := 3 }
  else if b == 0xF4 then some { count := 3, high := 0x8F }
  else none

/-- The following bytes of a character, as far as they meet the demand, and the bytes after them. -/
def takeTail : Nat → UInt8 → UInt8 → Bytes → Bytes × Bytes
  | 0, _, _, bs => ([], bs)
  | _ + 1, _, _, [] => ([], [])
  | n + 1, low, high, b :: bs =>
    if low ≤ b && b ≤ high then
      let (tail, rest) := takeTail n 0x80 0xBF bs
      (b :: tail, rest)
    else ([], b :: bs)

theorem takeTail_length_le (n : Nat) (low high : UInt8) (bs : Bytes) :
    (takeTail n low high bs).2.length ≤ bs.length := by
  fun_induction takeTail n low high bs with
  | case1 => exact Nat.le_refl _
  | case2 => exact Nat.le_refl _
  | case3 n low high b bs hrange tail rest hrest ih =>
    rw [hrest] at ih
    exact Nat.le_succ_of_le ih
  | case4 => exact Nat.le_refl _

/-- The code point of a character that is written with `count` bytes after the first one. -/
def codePoint (first : UInt8) (count : Nat) (tail : Bytes) : Nat :=
  let head := match count with
    | 0 => first.toNat
    | 1 => first.toNat % 0x20
    | 2 => first.toNat % 0x10
    | _ => first.toNat % 0x08
  tail.foldl (fun n b => n * 0x40 + b.toNat % 0x40) head

/-- The parts of a byte string. -/
def pieces : Bytes → List Piece
  | [] => []
  | b :: bs =>
    match demand? b with
    | none => .broken [b] :: pieces bs
    | some d =>
      let tail := takeTail d.count d.low d.high bs
      let piece :=
        if tail.1.length = d.count then .char (Char.ofNat (codePoint b d.count tail.1))
        else .broken (b :: tail.1)
      piece :: pieces tail.2
termination_by bs => bs.length
decreasing_by
  · simp
  · have := takeTail_length_le d.count d.low d.high bs
    simp only [List.length_cons]
    omega

/-- Whether a place in a text is between two characters, or at an end of it, by the bytes from there
on. -/
def isBoundary : Bytes → Bool
  | [] => true
  | b :: _ => b < 0x80 || 0xC0 ≤ b

/-- The bytes of a text. -/
def encode (s : String) : Bytes :=
  s.toList.flatMap String.utf8EncodeChar

/-- The character of a part that is not broken. -/
def Piece.char? : Piece → Option Char
  | .char c => some c
  | .broken _ => none

/-- The bytes of a part. -/
def Piece.bytes : Piece → Bytes
  | .char c => String.utf8EncodeChar c
  | .broken bytes => bytes

/-- A part as text, with U+FFFD in place of a broken one. -/
def Piece.shown (p : Piece) : Char :=
  p.char?.getD '\uFFFD'

/-- The text that a byte string spells, unless a part of it is broken. -/
def decode? (bs : Bytes) : Option String :=
  ((pieces bs).mapM Piece.char?).map String.ofList

/-- The text of a byte string, with U+FFFD in place of each broken part. -/
def lossy (bs : Bytes) : String :=
  String.ofList ((pieces bs).map Piece.shown)

end Utf8

end FuseMount
