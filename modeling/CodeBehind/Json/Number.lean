import CodeBehind.Decimal.Shortest

/-!
# Numbers of a document

A number without fraction and exponent is an integer if it fits 64 bits, signed or not.  Any other
number is a floating-point number, computed from at most as many leading digits as fit 64 bits; one
that is too large for that is no number.
-/

namespace CodeBehind.Json

inductive Number where
  | integer (value : Int)
  | real (value : Float)
deriving Inhabited

/-- Two to the power of 64: the first number that is too large for an integer. -/
def Number.limit : Nat := 0x10000000000000000

/-- Floating-point numbers have up to sixteen digits before the point and up to four zeros after it;
beyond that the exponent is written with its sign. -/
def Number.style : Decimal.Style where
  least := -5
  greatest := 15
  plus := "+"

def Number.render : Number → String
  | integer n => toString n
  | real x => Decimal.render style x

/-- A number as it is spelled. -/
structure Numeral where
  negative : Bool
  whole : List Char
  fraction : List Char := []
  /-- The sign and the digits of the exponent. -/
  exponent : Option (Bool × List Char) := none
  /-- Whether there is neither fraction nor exponent. -/
  isWhole : Bool
deriving DecidableEq, Inhabited

namespace Numeral

def digit (c : Char) : Nat :=
  c.toNat - '0'.toNat

/-- Appends digits to a significand as long as it fits 64 bits, and returns those that are left. -/
def accumulate (significand : Nat) : List Char → Nat × List Char
  | [] => (significand, [])
  | c :: rest =>
    if significand * 10 + digit c < Number.limit then accumulate (significand * 10 + digit c) rest
    else (significand, c :: rest)

/-- The value of the exponent, or `none` if it does not fit 31 bits. -/
def exponentValue (value : Nat) : List Char → Option Nat
  | [] => some value
  | c :: rest =>
    if value * 10 + digit c < 0x80000000 then exponentValue (value * 10 + digit c) rest else none

/-- A significand times a power of ten, or `none` if that is infinite.  Exponents below the range of
powers are taken off in steps. -/
def scale : Nat → Float → Int → Option Float
  | 0, _, _ => none
  | fuel + 1, f, exponent =>
    if exponent.natAbs ≤ 308 then
      let power := Float.ofScientific 1 false exponent.natAbs
      if 0 ≤ exponent then
        let product := f * power
        if product.isInf then none else some product
      else some (f / power)
    else if f == 0 then some f
    else if 0 ≤ exponent then none
    else scale fuel (f / Float.ofScientific 1 false 308) (exponent + 308)

/-- The floating-point number that is spelled, if it is finite. -/
def real? (numeral : Numeral) : Option Float :=
  let (significand, left) := accumulate 0 numeral.whole
  let (significand, fractionLeft) := accumulate significand numeral.fraction
  let start : Int := left.length - (numeral.fraction.length - fractionLeft.length : Nat)
  let f := significand.toUInt64.toFloat
  let magnitude :=
    match numeral.exponent with
    | none => scale (start.natAbs + 2) f start
    | some (negative, digits) =>
      match exponentValue 0 digits with
      | some e =>
        let exponent := if negative then start - e else start + e
        scale (exponent.natAbs + 2) f exponent
      | none => if significand != 0 && !negative then none else some 0
  magnitude.map fun x ↦ if numeral.negative then -x else x

/-- The number that is spelled, if it is in range. -/
def value? (numeral : Numeral) : Option Number :=
  match numeral.isWhole, accumulate 0 numeral.whole with
  | true, (n, []) =>
    if !numeral.negative then some (.integer n)
    else if 0 < n && 2 * n ≤ Number.limit then some (.integer (-n))
    else numeral.real?.map .real
  | _, _ => numeral.real?.map .real

end Numeral

end CodeBehind.Json
