/-!
# The shortest decimal text of a binary number

A finite positive double is `m * 2 ^ q` for natural `m` and an integer `q`. The reals that round to
it form an interval around it, with its ends if `m` is even. Of the decimal numbers in this
interval the text shows the one with the fewest digits, and of several of that length the nearest.

The search runs over the number of digits. On the grid of decimals with `k` digits it tests the two
neighbours of the number, in exact arithmetic: if any point of a grid lies in the interval, one of
these two does. Seventeen digits are always enough.

Numbers from 10⁻⁵ up to, but without, 10¹⁶ are written in positional notation with at least one
place, all others with an exponent that shows its sign.
-/

namespace FuseMount.Decimal

/-- A positive rational number. -/
structure Ratio where
  num : Nat
  den : Nat

/-- `x * 2 ^ e`. -/
def Ratio.scale2 (x : Ratio) (e : Int) : Ratio :=
  if 0 ≤ e then { x with num := x.num * Nat.pow 2 e.toNat }
  else { x with den := x.den * Nat.pow 2 (-e).toNat }

/-- `x * 10 ^ e`. -/
def Ratio.scale10 (x : Ratio) (e : Int) : Ratio :=
  if 0 ≤ e then { x with num := x.num * Nat.pow 10 e.toNat }
  else { x with den := x.den * Nat.pow 10 (-e).toNat }

/-- Order of ratios. -/
def Ratio.lt (x y : Ratio) : Bool :=
  x.num * y.den < y.num * x.den

/-- A finite positive double with the reals that round to it. -/
structure Interval where
  /-- The double itself. -/
  value : Ratio
  /-- The lower end. -/
  low : Ratio
  /-- The upper end. -/
  high : Ratio
  /-- Whether the ends round to the double too. -/
  closed : Bool

/-- Whether a number rounds to the double of the interval. -/
def Interval.holds (i : Interval) (x : Ratio) : Bool :=
  if i.closed then !x.lt i.low && !i.high.lt x else i.low.lt x && x.lt i.high

/-- The bit before the 52 bits of the fraction, which is not stored. -/
def hiddenBit : Nat := 0x10000000000000

/-- The interval of the double with the given bits, which are neither zero nor those of an infinity
or a NaN. Just above a power of two the gap below the number is half as wide as the one above. -/
def Interval.ofBits (bits : Nat) : Interval :=
  let fraction := bits % hiddenBit
  let exponent := bits / hiddenBit % 0x800
  let m := if exponent = 0 then fraction else hiddenBit + fraction
  let q : Int := (if exponent = 0 then 1 else exponent : Nat) - 1075
  let at4 (n : Nat) : Ratio := (Ratio.mk n 1).scale2 (q - 2)
  { value := at4 (4 * m)
    low := at4 (if fraction = 0 && 1 < exponent then 4 * m - 1 else 4 * m - 2)
    high := at4 (4 * m + 2)
    closed := m % 2 = 0 }

/-- The exponent `e` for which `10 ^ e ≤ x < 10 ^ (e + 1)`, searched downwards from `start`. -/
def exponentBelow (x : Ratio) : Nat → Int → Int
  | 0, start => start
  | n + 1, start =>
    if x.lt ((Ratio.mk 1 1).scale10 start) then exponentBelow x n (start - 1) else start

/-- A decimal number: the digits as a natural number, and the power of ten of the last one. -/
structure Scaled where
  digits : Nat
  power : Int
  deriving DecidableEq, Repr

/-- The point of the grid with step `10 ^ power` that lies in the interval, the nearer of the
number's two neighbours if both do, and the even one at equal distance. -/
def gridPoint? (i : Interval) (power : Int) : Option Scaled :=
  let scaled := i.value.scale10 (-power)
  let below := scaled.num / scaled.den
  let rest := scaled.num % scaled.den
  let inside (d : Nat) : Bool := 0 < d && i.holds ((Ratio.mk d 1).scale10 power)
  match inside below, inside (below + 1) with
  | true, true =>
    let up := scaled.den < 2 * rest || 2 * rest = scaled.den && below % 2 = 1
    some ⟨if up then below + 1 else below, power⟩
  | true, false => some ⟨below, power⟩
  | false, true => some ⟨below + 1, power⟩
  | false, false => none

/-- A number without the zeros at the end of its digits, of which at most `n` are looked at. -/
def Scaled.dropZeros : Nat → Scaled → Scaled
  | 0, d => d
  | n + 1, d =>
    if d.digits % 10 = 0 && d.digits ≠ 0 then dropZeros n ⟨d.digits / 10, d.power + 1⟩ else d

/-- The shortest decimal that rounds to the double with the given bits. -/
def shortest (bits : Nat) : Scaled :=
  let i := Interval.ofBits bits
  let top := exponentBelow i.value 700 309
  let found? := (List.range 17).findSome? fun (k : Nat) => gridPoint? i (top - k)
  (found?.getD ⟨0, 0⟩).dropZeros 17

/-- The text of a positive decimal. -/
def Scaled.render (d : Scaled) : String :=
  let ds := Nat.toDigits 10 d.digits
  let top : Int := d.power + ds.length - 1
  let zeros (n : Int) : List Char := List.replicate n.toNat '0'
  String.ofList <|
    if top < -5 || 15 < top then
      let mantissa := match ds with
        | [] => []
        | [d] => [d]
        | d :: rest => d :: '.' :: rest
      mantissa ++ ['e', if top < 0 then '-' else '+'] ++ Nat.toDigits 10 top.natAbs
    else if 0 ≤ d.power then ds ++ zeros d.power ++ ['.', '0']
    else if 0 ≤ top then
      ds.take (top + 1).toNat ++ ['.'] ++ ds.drop (top + 1).toNat
    else ['0', '.'] ++ zeros (-top - 1) ++ ds

/-- The text of a finite double. -/
def render (x : Float) : String :=
  let bits := x.toBits.toNat
  let magnitude := bits % 0x8000000000000000
  let sign := if bits = magnitude then "" else "-"
  sign ++ if magnitude = 0 then "0.0" else (shortest magnitude).render

end FuseMount.Decimal
