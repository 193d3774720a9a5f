/-!
# Shortest decimals

A binary floating-point number is written with the fewest decimal digits that no other such number
is nearer to.  All arithmetic is exact: a positive number is a fraction, and so are the two ends of
the interval of reals that round to it.
-/

namespace CodeBehind

/-- The number `digits * 10 ^ exponent`. -/
structure Decimal where
  digits : Nat
  exponent : Int
deriving DecidableEq, Inhabited

namespace Decimal

/-- A positive fraction; both parts are natural numbers. -/
structure Fraction where
  numerator : Nat
  denominator : Nat
deriving DecidableEq, Inhabited

/-- The fraction `m * b ^ e`. -/
def Fraction.scaled (m b : Nat) (e : Int) : Fraction :=
  if 0 ≤ e then { numerator := m * Nat.pow b e.toNat, denominator := 1 }
  else { numerator := m, denominator := Nat.pow b (-e).toNat }

/-- Exchanges the sides of a comparison of fractions for natural numbers. -/
def Fraction.le (x y : Fraction) : Bool :=
  x.numerator * y.denominator ≤ y.numerator * x.denominator

def Fraction.lt (x y : Fraction) : Bool :=
  x.numerator * y.denominator < y.numerator * x.denominator

/-- The leading bit of a significand, which only subnormal numbers lack. -/
def hiddenBit : Nat := 0x10000000000000

/-- Significand and exponent of a positive finite number, which is `m * 2 ^ q`. -/
def significand (bits : UInt64) : Nat × Int :=
  let field := ((bits >>> 52) &&& 0x7FF).toNat
  let fraction := (bits &&& 0xFFFFFFFFFFFFF).toNat
  if field == 0 then (fraction, -1074) else (fraction + hiddenBit, (field : Int) - 1075)

/-- The reals that round to `m * 2 ^ q`: lower end, upper end, and whether the ends belong to it. -/
def interval (m : Nat) (q : Int) : Fraction × Fraction × Bool :=
  let below := if m == hiddenBit && q != -1074 then 1 else 2
  (.scaled (4 * m - below) 2 (q - 2), .scaled (4 * m + 2) 2 (q - 2), m % 2 == 0)

/-- The decimal magnitude of a fraction: the greatest `k` with `10 ^ k` at most the fraction. -/
def magnitude (x : Fraction) : Int :=
  let whole := x.numerator / x.denominator
  if 0 < whole then ((Nat.toDigits 10 whole).length : Int) - 1
  else
    -- `d / n` has as many digits as there are places before the first one, or one more
    let places := (Nat.toDigits 10 (x.denominator / x.numerator)).length
    if (Fraction.scaled 1 10 (-((places : Int) - 1))).le x then -((places : Int) - 1)
    else -(places : Int)

/-- The nearer of the two neighbours of a number on the grid of multiples of `10 ^ exponent`, among
those inside the interval.  Of two that are as near, the one with the even last digit. -/
def candidate (value low high : Fraction) (closed : Bool) (exponent : Int) : Option Decimal :=
  let unit := Fraction.scaled 1 10 exponent
  let below := value.numerator * unit.denominator / (value.denominator * unit.numerator)
  let inside (n : Nat) : Bool :=
    let x := Fraction.scaled n 10 exponent
    if closed then low.le x && x.le high else low.lt x && x.lt high
  -- twice the distance from the lower neighbour, and the distance of the neighbours
  let twice :=
    2 * (value.numerator * unit.denominator - below * (value.denominator * unit.numerator))
  let step := value.denominator * unit.numerator
  let nearBelow := twice < step || (twice == step && below % 2 == 0)
  match inside below && 0 < below, inside (below + 1) with
  | true, true => some ⟨if nearBelow then below else below + 1, exponent⟩
  | true, false => some ⟨below, exponent⟩
  | false, true => some ⟨below + 1, exponent⟩
  | false, false => none

/-- Tries grids from the coarsest of `fuel` grids on. -/
def search (value low high : Fraction) (closed : Bool) : Nat → Int → Option Decimal
  | 0, _ => none
  | fuel + 1, exponent =>
    match candidate value low high closed exponent with
    | some decimal => some decimal
    | none => search value low high closed fuel (exponent - 1)

/-- The same number without zeros at the end of its digits. -/
def trimZeros (decimal : Decimal) : Decimal :=
  let zeros := ((Nat.toDigits 10 decimal.digits).reverse.takeWhile (· == '0')).length
  { digits := decimal.digits / Nat.pow 10 zeros, exponent := decimal.exponent + zeros }

/-- The shortest decimal of a positive finite number. -/
def shortest (x : Float) : Decimal :=
  let (m, q) := significand x.toBits
  let (low, high, closed) := interval m q
  let value := Fraction.scaled m 2 q
  ((search value low high closed 18 (magnitude value)).getD ⟨m, q⟩).trimZeros

/-! ## Text -/

/-- How a number is written: the least and the greatest power of ten of the first digit for which
the point stands in its place, and the sign of a positive exponent otherwise. -/
structure Style where
  least : Int
  greatest : Int
  plus : String

/-- The power of ten of the first digit. -/
def leading (decimal : Decimal) : Int :=
  decimal.exponent + ((Nat.toDigits 10 decimal.digits).length : Int) - 1

/-- The digits with the point in its place, at least one of them on either side. -/
def positional (decimal : Decimal) : String :=
  let digits := Nat.toDigits 10 decimal.digits
  if 0 ≤ decimal.exponent then
    String.ofList (digits ++ List.replicate decimal.exponent.toNat '0') ++ ".0"
  else
    let places := (-decimal.exponent).toNat
    let padded := List.replicate (places + 1 - digits.length) '0' ++ digits
    String.ofList (padded.take (padded.length - places)) ++ "." ++
      String.ofList (padded.drop (padded.length - places))

/-- The digits with the point after the first one, and the power of ten of that one. -/
def scientific (plus : String) (decimal : Decimal) : String :=
  let digits := Nat.toDigits 10 decimal.digits
  let point := if digits.length == 1 then "" else "."
  let power :=
    if decimal.leading < 0 then toString decimal.leading else plus ++ toString decimal.leading
  String.ofList (digits.take 1) ++ point ++ String.ofList (digits.drop 1) ++ "e" ++ power

def write (style : Style) (decimal : Decimal) : String :=
  if style.least ≤ decimal.leading ∧ decimal.leading ≤ style.greatest then decimal.positional
  else decimal.scientific style.plus

/-- The shortest text of a finite number. -/
def render (style : Style) (x : Float) : String :=
  let sign := if x.toBits >>> 63 == 1 then "-" else ""
  if x == 0 then sign ++ "0.0" else sign ++ (shortest x.abs).write style

end Decimal

end CodeBehind
