import SchemaChart.Number.Binary64

/-!
# Shortest decimals

The decimal of a finite number is the one with the fewest digits that still rounds to
the number; of several it is the nearest, and of two equally near ones the even one.
The decimals that round to a number form an interval around it, which includes its
ends exactly when the significand is even. Below a power of two the numbers stand
closer, so there the lower half of the interval is narrower.

The grids of decimals are tried from coarse to fine. On each, the two neighbours of
the number decide: if any point of the grid is in the interval, one of them is.
-/

namespace SchemaChart

/-- `digits * 10 ^ exponent`. -/
structure Decimal where
  digits : Nat
  exponent : Int
  deriving DecidableEq, Repr

/-- A positive number, the interval around it and one step of a decimal grid, all in
one unit. -/
structure GridView where
  value : Nat
  low : Nat
  high : Nat
  closed : Bool
  step : Nat

namespace GridView

/-- The number `m * 2 ^ e` on the grid of multiples of `10 ^ t`. The ends of its
interval are multiples of `2 ^ (e - 2)`, which sets the binary part of the unit. -/
def of (m : Nat) (e : Int) (t : Int) : GridView :=
  let binary := e - 2
  let scale := Nat.pow 2 binary.toNat * Nat.pow 10 (-t).toNat
  let below := if m = Nat.pow 2 52 && Binary64.leastExponent < e then 1 else 2
  { value := 4 * m * scale
    low := (4 * m - below) * scale
    high := (4 * m + 2) * scale
    closed := m % 2 = 0
    step := Nat.pow 10 t.toNat * Nat.pow 2 (-binary).toNat }

def admits (v : GridView) (d : Nat) : Bool :=
  let x := d * v.step
  if v.closed then v.low ≤ x && x ≤ v.high else v.low < x && x < v.high

/-- The grid point in the interval that is nearest to the number. -/
def nearest? (v : GridView) : Option Nat :=
  let d := v.value / v.step
  match v.admits d, v.admits (d + 1) with
  | false, false => none
  | true, false => some d
  | false, true => some (d + 1)
  | true, true =>
    let down := v.value - d * v.step
    let up := (d + 1) * v.step - v.value
    if down < up then some d
    else if up < down then some (d + 1)
    else if d % 2 = 0 then some d else some (d + 1)

end GridView

namespace Decimal

/-- The decimal without zeros at its end. -/
def reduce (digits : Nat) (exponent : Int) : Nat → Decimal
  | 0 => ⟨digits, exponent⟩
  | fuel + 1 =>
    if digits ≠ 0 && digits % 10 = 0 then reduce (digits / 10) (exponent + 1) fuel
    else ⟨digits, exponent⟩

/-- Tries the grids `10 ^ t`, `10 ^ (t - 1)`, …; seventeen digits always suffice. -/
def search (m : Nat) (e : Int) (t : Int) : Nat → Decimal
  | 0 => ⟨0, 0⟩
  | grids + 1 =>
    match (GridView.of m e t).nearest? with
    | some d => reduce d t 20
    | none => search m e (t - 1) grids

/-- The exponent of a power of ten that is not below the leading digit of `num / den`
and at most one place above it. -/
def leadingPlace (num den : Nat) : Int :=
  if den ≤ num then (Nat.toDigits 10 (num / den)).length - 1
  else 1 - ((Nat.toDigits 10 (den / num)).length : Int)

/-- The shortest decimal that rounds to `m * 2 ^ e`. -/
def shortest (m : Nat) (e : Int) : Decimal :=
  if m = 0 then ⟨0, 0⟩
  else search m e (leadingPlace (m * Nat.pow 2 e.toNat) (Nat.pow 2 (-e).toNat)) 20

end Decimal

end SchemaChart
