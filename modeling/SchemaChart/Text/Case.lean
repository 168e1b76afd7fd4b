import SchemaChart.Text.Basic

/-!
# Runs of letters with case

A simple case mapping moves whole runs of letters by the same distance; in some
alphabets the two cases alternate, and a run takes every second code point.
-/

namespace SchemaChart

/-- The letters `first`, `first + step`, … up to `last`, mapped in order to the
letters from `image` on. -/
structure CaseRun where
  first : Nat
  last : Nat
  step : Nat
  image : Nat

def CaseRun.covers (run : CaseRun) (n : Nat) : Bool :=
  run.first ≤ n && n ≤ run.last && (n - run.first) % run.step = 0

def CaseRun.apply (run : CaseRun) (n : Nat) : Nat := run.image + (n - run.first)

/-- The image under the run that covers the character, if one does. -/
def mapCase (runs : List CaseRun) (c : Char) : Char :=
  match runs.find? (·.covers c.toNat) with
  | some run => Char.ofNat (run.apply c.toNat)
  | none => c

end SchemaChart
