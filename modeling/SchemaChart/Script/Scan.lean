import SchemaChart.Text.Basic

/-!
# Literals and nesting

One scan serves the search for a closing parenthesis and the cutting of a table
body. It keeps two things: whether it stands inside a quoted literal, and how many
parentheses are open. A literal runs from one of three quotes to the next quote of
the same kind; inside it a backslash takes the meaning from the next character, and
parentheses do not count. A scan that ignores quotes never enters a literal. The
depth may fall below zero on text that closes more than it opens.
-/

namespace SchemaChart

def isQuote (c : Char) : Bool := c = '\x22' || c = '\x27' || c = '\x60'

inductive Place
  | outside
  | inside (quote : Char) (escaped : Bool)
  deriving DecidableEq, Repr

def Place.step (aware : Bool) : Place → Char → Place
  | .outside, c => if aware && isQuote c then .inside c false else .outside
  | .inside quote true, _ => .inside quote false
  | .inside quote false, c =>
    if c = '\\' then .inside quote true
    else if c = quote then .outside
    else .inside quote false

def nesting (c : Char) : Int := if c = '(' then 1 else if c = ')' then -1 else 0

structure Scan where
  place : Place
  depth : Int
  deriving DecidableEq, Repr

namespace Scan

def start : Scan := ⟨.outside, 0⟩

def step (aware : Bool) (s : Scan) (c : Char) : Scan :=
  ⟨s.place.step aware c, if s.place = .outside then s.depth + nesting c else s.depth⟩

def run (aware : Bool) (s : Scan) (text : Text) : Scan := text.foldl (step aware) s

/-- Whether the next character is a parenthesis that brings the depth to zero. -/
def closes (s : Scan) (c : Char) : Bool := s.place = .outside && c = ')' && s.depth = 1

/-- Whether the next character is a comma that no literal or group contains. -/
def cuts (s : Scan) (c : Char) : Bool := s.place = .outside && c = ',' && s.depth = 0

theorem run_append (aware : Bool) (s : Scan) (a b : Text) :
    run aware s (a ++ b) = run aware (run aware s a) b := by
  simp [run]

end Scan

/-- How many characters stand before the parenthesis that closes the first open
group, seen from a scan that is already under way. -/
def closing? (aware : Bool) (s : Scan) : Text → Option Nat
  | [] => none
  | c :: rest => if s.closes c then some 0 else (closing? aware (s.step aware c) rest).map (· + 1)

theorem closing?_lt {aware : Bool} {s : Scan} {text : Text} {i : Nat}
    (h : closing? aware s text = some i) : i < text.length := by
  induction text generalizing s i with
  | nil => simp [closing?] at h
  | cons c rest ih =>
    simp only [closing?] at h
    split at h
    · cases Option.some.inj h; simp
    · obtain ⟨j, found, rfl⟩ := Option.map_eq_some_iff.1 h
      have := ih found
      simp only [List.length_cons]
      omega

/-- A scan was asked to start further before the end than the text is long, or than
any text can be. -/
inductive OutOfRange
  | beforeText
  | beforeAnyText
  deriving DecidableEq, Repr

def OutOfRange.message : OutOfRange → Text
  | .beforeText => "string index out of range"
  | .beforeAnyText => "cannot fit 'int' into an index-sized integer"

/-- No text is longer. -/
def lengthLimit : Nat := Nat.pow 2 63

/-- The place of the parenthesis that closes the group opened at `origin`. A negative
place counts from the end of the text; the scan then goes on from its beginning. -/
def closingFrom (aware : Bool) (text : Text) (origin : Int) : Except OutOfRange (Option Int) :=
  if 0 ≤ origin then
    .ok ((closing? aware .start (text.drop origin.toNat)).map (origin + ·))
  else if origin.natAbs ≤ text.length then
    let tail := text.drop (text.length - origin.natAbs)
    .ok ((closing? aware .start (tail ++ text)).map (origin + ·))
  else if origin.natAbs ≤ lengthLimit then .error .beforeText
  else .error .beforeAnyText

end SchemaChart
