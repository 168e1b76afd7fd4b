import SchemaChart.Text.Basic

/-!
# Punycode

A text is written in ASCII as its ASCII characters followed by where the other ones
go. These are taken in the order of their code points; each place is told by the
distance from the place before, counted over all places of all code points between
them. Distances are numbers to the base 36 with the last digit first. Which digits end
a number depends on a bias that follows the size of the distances. Reading takes the
digits one by one and puts a character into the text where a number ends; capital
letters are digits as well.
-/

namespace SchemaChart.Punycode

/-- The digits are the small letters and then the ten digits. -/
def digit (n : Nat) : Char :=
  if n < 26 then Char.ofNat ('a'.toNat + n) else Char.ofNat ('0'.toNat + (n - 26))

/-- A digit below this one ends a number; `place` is 36 for the first digit and grows by
36. -/
def threshold (bias place : Nat) : Nat := max 1 (min 26 (place - bias))

theorem threshold_bounds (bias place : Nat) :
    1 ≤ threshold bias place ∧ threshold bias place ≤ 26 := by
  simp only [threshold]; omega

def writeDistance (bias place n : Nat) : Text :=
  let least := threshold bias place
  if n < least then [digit n]
  else
    digit (least + (n - least) % (36 - least)) ::
      writeDistance bias (place + 36) ((n - least) / (36 - least))
termination_by n
decreasing_by
  have bounds := threshold_bounds bias place
  have smaller := Nat.div_le_self (n - threshold bias place) (36 - threshold bias place)
  omega

/-- Takes a distance down to the range that one more digit covers, with the bias for
the digits taken off. -/
def settle (n bias : Nat) : Nat :=
  if 455 < n then settle (n / 35) (bias + 36) else bias + 36 * n / (n + 38)
termination_by n
decreasing_by omega

/-- The bias after a distance, with so many places taken since; the first distance is
taken to be far too large. -/
def nextBias (first : Bool) (n taken : Nat) : Nat :=
  let reduced := if first then n / 700 else n / 2
  settle (reduced + reduced / taken) 0

/-- How far a text has been written: the distance since the last place, the bias, the
number of characters taken, and whether a place has been written. -/
structure Progress where
  written : Text
  distance : Nat
  bias : Nat
  taken : Nat
  first : Bool

/-- Passes a place, or writes it if the character of the given code point goes there. -/
def Progress.pass (point : Nat) (p : Progress) (c : Char) : Progress :=
  if c.toNat < point then { p with distance := p.distance + 1 }
  else if c.toNat = point then
    { written := p.written ++ writeDistance p.bias 36 p.distance
      distance := 0
      bias := nextBias p.first p.distance (p.taken + 1)
      taken := p.taken + 1
      first := false }
  else p

/-- Writes the places of the given code points, from the least on; `next` is the code
point behind the one before. -/
def placeAll (s : Text) (next : Nat) (p : Progress) : List Nat → Progress
  | [] => p
  | point :: rest =>
    let skipped := { p with distance := p.distance + (point - next) * (p.taken + 1) }
    let placed := s.foldl (Progress.pass point) skipped
    placeAll s (point + 1) { placed with distance := placed.distance + 1 } rest

/-- Adds a number to an ascending list without repetition. -/
def addPoint (n : Nat) : List Nat → List Nat
  | [] => [n]
  | m :: rest => if n < m then n :: m :: rest else if n = m then m :: rest else m :: addPoint n rest

def encode (s : Text) : Text :=
  let plain := s.filter (·.toNat < 0x80)
  let points := (s.filter (0x80 ≤ ·.toNat)).foldr (fun c points => addPoint c.toNat points) []
  let lead := if plain.isEmpty then [] else plain ++ ['-']
  lead ++ (placeAll s 0x80 ⟨[], 0, 72, plain.length, true⟩ points).written

inductive Fault
  | notDigit (c : Char)
  | incomplete
  | tooLarge (point : Nat)
  deriving DecidableEq, Repr

def Fault.message : Fault → Text
  | .notDigit c => "Invalid extended code point '" ++ [c] ++ ['\x27']
  | .incomplete => "incomplete punicode string"
  | .tooLarge point => "Invalid character U+" ++ Nat.toDigits 16 point

def digitValue? (c : Char) : Option Nat :=
  if c.isAlpha then some (c.toUpper.toNat - 'A'.toNat)
  else if c.isDigit then some (c.toNat - '0'.toNat + 26)
  else none

/-- How far a text has been read: its code points so far, the code point and the place that
the next distance counts from, and the bias; then the value of the digits of that
distance, with the weight and the place of the next one. -/
structure Reading where
  points : List Nat
  point : Nat
  position : Nat
  bias : Nat
  first : Bool
  value : Nat
  weight : Nat
  place : Nat
  deriving DecidableEq, Repr

namespace Reading

def start (plain : Text) : Reading := ⟨plain.map Char.toNat, 0x80, 0, 72, true, 0, 1, 36⟩

/-- Whether a distance has been read in part. -/
def isUnderWay (p : Reading) : Bool := 36 < p.place

/-- Puts in the code point that is so far away. -/
def insert (p : Reading) (distance : Nat) : Except Fault Reading :=
  let places := p.points.length + 1
  let position := (p.position + distance) % places
  let point := p.point + (p.position + distance) / places
  if 0x10FFFF < point then .error (.tooLarge point)
  else .ok
    { points := p.points.take position ++ point :: p.points.drop position
      point := point
      position := position + 1
      bias := nextBias p.first distance places
      first := false
      value := 0
      weight := 1
      place := 36 }

def take (p : Reading) (c : Char) : Except Fault Reading :=
  match digitValue? c with
  | none => .error (.notDigit c.toUpper)
  | some n =>
    let least := threshold p.bias p.place
    let value := p.value + n * p.weight
    if n < least then p.insert value
    else .ok
      { p with value := value, weight := p.weight * (36 - least), place := p.place + 36 }

end Reading

/-- The code points of a text, not all of which need be characters; the ASCII characters end
with the last hyphen. -/
def decode (s : Text) : Except Fault (List Nat) := do
  let plain := ((s.reverse.dropWhile (· ≠ '-')).drop 1).reverse
  let digits := (s.reverse.takeWhile (· ≠ '-')).reverse
  let p ← digits.foldlM Reading.take (Reading.start plain)
  if p.isUnderWay then throw .incomplete
  return p.points

end SchemaChart.Punycode
