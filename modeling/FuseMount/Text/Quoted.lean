import FuseMount.Text.Hidden
import FuseMount.Text.Numeral
import FuseMount.Text.Utf8

/-!
# Quoted texts

A text between double quotes, for messages and logs. The double quote and the backslash get a
backslash before them, line feed, carriage return, tab and NUL are written `\n`, `\r`, `\t` and
`\0`, and every other character that has no form of its own on a page is written as its code point
in base 16, such as `\u{200b}`. The bytes of a broken part of a byte string are written as two
digits each, such as `\xFF`.
-/

namespace FuseMount.Text

/-- A character as it stands between quotes. -/
def quotedChar (c : Char) : List Char :=
  match c with
  | '"' => ['\\', '"']
  | '\\' => ['\\', '\\']
  | '\n' => ['\\', 'n']
  | '\r' => ['\\', 'r']
  | '\t' => ['\\', 't']
  | '\x00' => ['\\', '0']
  | c =>
    if isHidden c then ['\\', 'u', '\x7b'] ++ Nat.toDigits 16 c.toNat ++ ['\x7d'] else [c]

/-- A byte that belongs to no character, as it stands between quotes. -/
def quotedByte (b : UInt8) : List Char :=
  ['\\', 'x'] ++ ((Nat.toDigits 16 b.toNat).map Char.toUpper).leftpad 2 '0'

/-- A part of a byte string as it stands between quotes. -/
def quotedPiece : Utf8.Piece → List Char
  | .char c => quotedChar c
  | .broken bytes => bytes.flatMap quotedByte

/-- A text between quotes. -/
def quote (s : String) : String :=
  String.ofList ('"' :: s.toList.flatMap quotedChar ++ ['"'])

/-- A byte string between quotes. -/
def quoteBytes (bs : Bytes) : String :=
  String.ofList ('"' :: (Utf8.pieces bs).flatMap quotedPiece ++ ['"'])

/-- A list of texts that are quoted already, between brackets. -/
def bracketed (items : List String) : String :=
  "[" ++ String.intercalate ", " items ++ "]"

end FuseMount.Text
