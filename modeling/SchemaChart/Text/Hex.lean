import SchemaChart.Text.Basic

/-!
# Hexadecimal digits

Escapes write code points with a fixed number of small hexadecimal digits. Both
cases are read.
-/

namespace SchemaChart

def hexDigit (n : Nat) : Char := Nat.digitChar (n % 16)

/-- The last `width` hexadecimal digits of a number. -/
def hexDigits : Nat → Nat → Text
  | 0, _ => []
  | width + 1, n => hexDigits width (n / 16) ++ [hexDigit n]

def hexValue? (c : Char) : Option Nat :=
  if '0' ≤ c && c ≤ '9' then some (c.toNat - '0'.toNat)
  else if 'a' ≤ c && c ≤ 'f' then some (c.toNat - 'a'.toNat + 10)
  else if 'A' ≤ c && c ≤ 'F' then some (c.toNat - 'A'.toNat + 10)
  else none

theorem hexValue?_hexDigit (n : Nat) : hexValue? (hexDigit n) = some (n % 16) := by
  have small : ∀ m, m < 16 → hexValue? (Nat.digitChar m) = some m := by decide
  exact small _ (Nat.mod_lt _ (by decide))

end SchemaChart
