/-!
# Numerals

Reading a number below a bound from digits of a base, and writing one in base 16. A numeral may
begin with one plus sign and with any number of zeros; nothing else is passed over. Base 10 is
written by `Nat.repr` and `Int.repr`. `isReal` recognises real numbers.
-/

namespace FuseMount.Numeral

/-- Why a text is no numeral. -/
inductive Fault where
  /-- There is no text. -/
  | empty
  /-- A character is no digit of the base, or only a sign stands there. -/
  | badDigit
  /-- The number is not below the bound. -/
  | tooLarge
  deriving DecidableEq, Repr

/-- The wording of a fault. -/
def Fault.message : Fault → String
  | .empty => "cannot parse integer from empty string"
  | .badDigit => "invalid digit found in string"
  | .tooLarge => "number too large to fit in target type"

/-- The value of a digit below `base`, with letters of either case from ten on. -/
def digit? (base : Nat) (c : Char) : Option Nat :=
  let value? :=
    if '0' ≤ c && c ≤ '9' then some (c.toNat - '0'.toNat)
    else if 'a' ≤ c && c ≤ 'z' then some (c.toNat - 'a'.toNat + 10)
    else if 'A' ≤ c && c ≤ 'Z' then some (c.toNat - 'A'.toNat + 10)
    else none
  value?.filter (· < base)

/-- Appends digits to the number read so far. The first digit that is none, or that takes the number
to the bound, ends the reading. -/
def readDigits (base bound : Nat) : Nat → List Char → Except Fault Nat
  | n, [] => .ok n
  | n, c :: cs =>
    match digit? base c with
    | none => .error .badDigit
    | some d =>
      if n * base + d < bound then readDigits base bound (n * base + d) cs else .error .tooLarge

/-- The number below `bound` that a text spells in base `base`. -/
def read (base bound : Nat) : List Char → Except Fault Nat
  | [] => .error .empty
  | ['+'] => .error .badDigit
  | '+' :: cs => readDigits base bound 0 cs
  | cs => readDigits base bound 0 cs

/-- The text after a sign, if it begins with one. -/
def withoutSign : List Char → List Char
  | '+' :: cs | '-' :: cs => cs
  | cs => cs

/-- Whether a text is empty or an exponent such as `e-3`. -/
def isExponent : List Char → Bool
  | [] => true
  | c :: cs =>
    let digits := withoutSign cs
    (c = 'e' || c = 'E') && !digits.isEmpty && digits.all Char.isDigit

/-- Whether a text spells a real number in base 10: a sign, digits with a point among them or at
their ends, and an exponent, of which only the digits have to be there. The names `inf`, `infinity`
and `nan` count too, in letters of either case. -/
def isReal (text : List Char) : Bool :=
  let cs := withoutSign text
  let rest := cs.dropWhile Char.isDigit
  String.ofList (cs.map Char.toLower) ∈ ["inf", "infinity", "nan"] ||
    match rest with
    | '.' :: fraction =>
      !((cs.takeWhile Char.isDigit).isEmpty && (fraction.takeWhile Char.isDigit).isEmpty) &&
        isExponent (fraction.dropWhile Char.isDigit)
    | rest => !(cs.takeWhile Char.isDigit).isEmpty && isExponent rest

/-- A number in base 16, with lower-case letters and no leading zeros. -/
def hex (n : Nat) : String :=
  String.ofList (Nat.toDigits 16 n)

/-- A number in base 16 with at least `width` digits. -/
def paddedHex (width n : Nat) : String :=
  String.ofList ((Nat.toDigits 16 n).leftpad width '0')

end FuseMount.Numeral
