import SchemaChart.Text.Basic

/-!
# Blank characters

The white space of a script: the ASCII controls from tab to carriage return and
from the file separator to the unit separator, the space, next line, and the
space, line and paragraph separators. Zero-width characters are not blank.
-/

namespace SchemaChart

def isBlank (c : Char) : Bool :=
  let n := c.toNat
  (0x09 ≤ n && n ≤ 0x0D) || (0x1C ≤ n && n ≤ 0x20) || n = 0x85 || n = 0xA0 || n = 0x1680 ||
    (0x2000 ≤ n && n ≤ 0x200A) || n = 0x2028 || n = 0x2029 || n = 0x202F || n = 0x205F ||
    n = 0x3000

namespace Text

def strip (s : Text) : Text := trim isBlank s

def skipBlanks (s : Text) : Text := s.dropWhile isBlank

/-- Skips a run of at least one blank. -/
def blanks? : Text → Option Text
  | [] => none
  | c :: rest => if isBlank c then some (skipBlanks rest) else none

/-- Writes every run of blanks as one space; `after` tells whether the run has
been written already. -/
def collapse (after : Bool) : Text → Text
  | [] => []
  | c :: rest =>
    if isBlank c then
      if after then collapse true rest else ' ' :: collapse true rest
    else c :: collapse false rest

theorem length_skipBlanks_le (s : Text) : (skipBlanks s).length ≤ s.length :=
  (List.dropWhile_sublist isBlank).length_le

theorem length_lt_of_blanks? {s rest : Text} (h : blanks? s = some rest) :
    rest.length < s.length := by
  cases s with
  | nil => simp [blanks?] at h
  | cons c s =>
    simp only [blanks?] at h
    split at h
    · cases Option.some.inj h
      exact Nat.lt_succ_of_le (length_skipBlanks_le s)
    · simp at h

end Text

end SchemaChart
