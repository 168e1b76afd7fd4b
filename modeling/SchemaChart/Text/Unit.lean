import SchemaChart.Text.Basic

/-!
# UTF-16 units without a partner

A character above U+FFFF takes two units in UTF-16, a high one and a low one. A unit
that stands alone is no character, but texts from outside may have it, and it has to
come out as it went in. A text holds such a unit by two characters: a sign, which is
the last code point and no character either, and the private-use character with the same
low digits in plane 16. Neither is a letter, a digit or a blank, and neither has case.
-/

namespace SchemaChart

def isHighUnit (n : Nat) : Bool := 0xD800 ≤ n && n < 0xDC00

def isLowUnit (n : Nat) : Bool := 0xDC00 ≤ n && n < 0xE000

def isUnit (n : Nat) : Bool := isHighUnit n || isLowUnit n

/-- The code point that a high and a low unit stand for together. -/
def pairedUnits (high low : Nat) : Nat := 0x10000 + (high - 0xD800) * 0x400 + (low - 0xDC00)

/-- The sign of a unit alone. -/
def unitSign : Char := Char.ofNat 0x10FFFF

/-- Where the characters behind the sign begin, less where the units begin. -/
def unitOffset : Nat := 0x100000

def heldUnit (unit : Nat) : Text := [unitSign, Char.ofNat (unitOffset + unit)]

/-- The unit that two characters hold. -/
def heldUnit? (sign c : Char) : Option Nat :=
  if sign = unitSign && unitOffset ≤ c.toNat && isUnit (c.toNat - unitOffset) then
    some (c.toNat - unitOffset)
  else none

/-- The text of a code point or a unit. -/
def textOfPoint (n : Nat) : Text := if isUnit n then heldUnit n else [Char.ofNat n]

/-- Whether there is a unit alone among code points and units. -/
def hasLoneUnit : List Nat → Bool
  | [] => false
  | high :: low :: rest =>
    if isHighUnit high && isLowUnit low then hasLoneUnit rest
    else isUnit high || hasLoneUnit (low :: rest)
  | [unit] => isUnit unit

namespace Text

/-- Puts texts in the places of the characters and of the units alone. -/
def flatMapUnits (ofChar : Char → Text) (ofUnit : Nat → Text) : Text → Text
  | [] => []
  | [c] => ofChar c
  | c :: d :: rest =>
    match heldUnit? c d with
    | some unit => ofUnit unit ++ flatMapUnits ofChar ofUnit rest
    | none => ofChar c ++ flatMapUnits ofChar ofUnit (d :: rest)

/-- The number of characters and units alone. -/
def size (s : Text) : Nat := (s.flatMapUnits (fun c => [c]) fun _ => [unitSign]).length

end Text

end SchemaChart
