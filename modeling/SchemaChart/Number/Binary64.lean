/-!
# Binary floating point numbers

A finite number of the 64-bit format is a significand times a power of two. The
significand has at most 53 bits; it has exactly 53 unless the exponent is the least
one. Fractions are rounded to the nearest number, a tie going to the even
significand. Nothing here uses the machine's own arithmetic.
-/

namespace SchemaChart

inductive Binary64
  | finite (negative : Bool) (significand : Nat) (exponent : Int)
  | infinite (negative : Bool)
  | nan
  deriving DecidableEq, Repr

namespace Binary64

def leastExponent : Int := -1074

def greatestExponent : Int := 971

/-- The quotient, rounded to the nearest natural number, a tie to the even one. -/
def roundDiv (num den : Nat) : Nat :=
  let q := num / den
  let r := num % den
  if 2 * r < den then q
  else if den < 2 * r then q + 1
  else if q % 2 = 0 then q else q + 1

/-- `num / den` as a number of units `2 ^ e`, still as a fraction. -/
def inUnits (num den : Nat) (e : Int) : Nat × Nat :=
  if 0 ≤ e then (num, den * Nat.pow 2 e.toNat) else (num * Nat.pow 2 e.natAbs, den)

/-- Rounds a fraction to a significand for the given exponent, and to the next
exponent when the significand gets too long. -/
def roundAt (negative : Bool) (num den : Nat) (e : Int) : Binary64 :=
  let (n, d) := inUnits num den e
  let m := roundDiv n d
  let (m, e) := if m = Nat.pow 2 53 then (Nat.pow 2 52, e + 1) else (m, e)
  if greatestExponent < e then .infinite negative else .finite negative m e

/-- The number nearest to a fraction with a positive denominator. -/
def ofFraction (negative : Bool) (num den : Nat) : Binary64 :=
  if num = 0 then .finite negative 0 leastExponent
  else
    let e : Int := (Nat.log2 num : Int) - Nat.log2 den - 53
    let (n, d) := inUnits num den e
    roundAt negative num den
      (max (if n / d < Nat.pow 2 53 then e else e + 1) leastExponent)

/-- The number nearest to `digits * 10 ^ exponent`. Far outside the range of the
format the power is not computed. -/
def ofDecimal (negative : Bool) (digits : Nat) (exponent : Int) : Binary64 :=
  let magnitude : Int := (Nat.toDigits 10 digits).length + exponent
  if digits = 0 || magnitude < -400 then .finite negative 0 leastExponent
  else if 400 < magnitude then .infinite negative
  else if 0 ≤ exponent then ofFraction negative (digits * Nat.pow 10 exponent.toNat) 1
  else ofFraction negative digits (Nat.pow 10 exponent.natAbs)

end Binary64

end SchemaChart
