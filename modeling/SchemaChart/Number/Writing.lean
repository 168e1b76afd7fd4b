import SchemaChart.Number.Shortest
import SchemaChart.Text.Basic

/-!
# Numbers as text

A number is an integer of any size or a binary floating point number. The latter is
written by its shortest decimal. How far decimals are written with a point alone,
how an exponent looks and what the special values are called is a style.
-/

namespace SchemaChart

inductive Number
  | integer (n : Int)
  | real (x : Binary64)
  deriving DecidableEq, Repr

/-- The numerator of a finite number over `2 ^ 1074`. -/
def Binary64.scaled? : Binary64 → Option Int
  | .finite negative m e =>
    let n : Int := m * Nat.pow 2 (e - leastExponent).toNat
    some (if negative then -n else n)
  | _ => none

/-- Whether two numbers denote the same value; not-a-number denotes none. -/
def Number.agrees : Number → Number → Bool
  | .integer m, .integer n => m = n
  | .integer m, .real x | .real x, .integer m =>
    x.scaled? = some (m * Nat.pow 2 1074)
  | .real (.infinite a), .real (.infinite b) => a = b
  | .real x, .real y => x.scaled?.isSome && x.scaled? = y.scaled?

/-- Decimals whose leading digit stands at a place from `pointFrom` up to below
`pointBelow` are written with a point alone. -/
structure RealStyle where
  pointFrom : Int
  pointBelow : Int
  exponentDigits : Nat
  infinite : Text
  nan : Text

namespace Decimal

/-- The digits with a point and at least one digit on either side of it. -/
def positional (d : Decimal) : Text :=
  let digits := Text.ofNat d.digits
  if 0 ≤ d.exponent then digits ++ List.replicate d.exponent.toNat '0' ++ ".0"
  else
    let places := d.exponent.natAbs
    if digits.length ≤ places then
      "0." ++ List.replicate (places - digits.length) '0' ++ digits
    else digits.take (digits.length - places) ++ "." ++ digits.drop (digits.length - places)

/-- One digit, the others after a point, and the exponent with its sign. -/
def scientific (d : Decimal) (place : Int) (exponentDigits : Nat) : Text :=
  let digits := Text.ofNat d.digits
  let power := Text.ofNat place.natAbs
  digits.take 1 ++ (if digits.length ≤ 1 then [] else '.' :: digits.drop 1) ++ "e" ++
    (if place < 0 then "-" else "+") ++
    List.replicate (exponentDigits - power.length) '0' ++ power

/-- The place of the leading digit. -/
def place (d : Decimal) : Int := (Text.ofNat d.digits).length + d.exponent - 1

def text (style : RealStyle) (d : Decimal) : Text :=
  if d.digits = 0 || (style.pointFrom ≤ d.place && d.place < style.pointBelow) then d.positional
  else d.scientific d.place style.exponentDigits

end Decimal

def sign (negative : Bool) : Text := if negative then "-" else ""

def Binary64.text (style : RealStyle) : Binary64 → Text
  | .nan => style.nan
  | .infinite negative => sign negative ++ style.infinite
  | .finite negative m e => sign negative ++ (Decimal.shortest m e).text style

def Number.text (style : RealStyle) : Number → Text
  | .integer n => Text.ofInt n
  | .real x => x.text style

end SchemaChart
