import SchemaChart.Number.Writing
import SchemaChart.Text.Blank
import SchemaChart.Text.Digit
import SchemaChart.Text.Quoted

/-!
# Numbers from text

An integer is a row of digits with an optional sign; a real may have a point and an
exponent, or be spelt `inf`, `infinity` or `nan` in any case. Blanks around a number
are skipped, though not the four separator controls of ASCII. Digits of every script
count, and a single underscore may stand between two digits.
-/

namespace SchemaChart

inductive NumberFault
  | notInteger (text : Text)
  | notReal (text : Text)
  | tooManyDigits (count : Nat)
  deriving DecidableEq, Repr

/-- More digits than this are not read as an integer. -/
def digitLimit : Nat := 4300

def NumberFault.message : NumberFault → Text
  | .notInteger s =>
    "invalid literal for int() with base 10: " ++ (Text.cited s).take 200
  | .notReal s => "could not convert string to float: " ++ Text.cited s
  | .tooManyDigits count =>
    "Exceeds the limit (" ++ Text.ofNat digitLimit ++
      " digits) for integer string conversion: value has " ++ Text.ofNat count ++
      " digits; use sys.set_int_max_str_digits() to increase the limit"

def skipsAround (c : Char) : Bool := isBlank c && !(0x1C ≤ c.toNat && c.toNat ≤ 0x1F)

def splitSign : Text → Bool × Text
  | '-' :: rest => (true, rest)
  | '+' :: rest => (false, rest)
  | s => (false, s)

/-- The digits that a text begins with, in their ASCII form, and what comes after them.
An underscore between two digits is left out and any other one is a fault;
`afterDigit` tells whether a digit stands just before. -/
def leadingDigits? (afterDigit : Bool) : Text → Option (Text × Text)
  | [] => some ([], [])
  | c :: rest =>
    match digitValue? c with
    | some d =>
      (leadingDigits? true rest).map fun (digits, after) => (Char.ofNat (0x30 + d) :: digits, after)
    | none =>
      if c = '_' then
        if afterDigit && (rest.head?.bind digitValue?).isSome then leadingDigits? false rest
        else none
      else some ([], c :: rest)

/-- Writes every digit in its ASCII form and leaves out underscores between digits;
`afterDigit` tells whether a digit stands just before. -/
def plainDigits? (afterDigit : Bool) : Text → Option Text
  | [] => some []
  | c :: rest =>
    match digitValue? c with
    | some d => (plainDigits? true rest).map (Char.ofNat (0x30 + d) :: ·)
    | none =>
      if c = '_' then
        if afterDigit && (rest.head?.bind digitValue?).isSome then plainDigits? false rest
        else none
      else (plainDigits? false rest).map (c :: ·)

def digitsValue (digits : Text) : Nat :=
  digits.foldl (fun n c => 10 * n + (c.toNat - 0x30)) 0

def applySign (negative : Bool) (n : Nat) : Int := if negative then -(n : Int) else n

/-- Too many digits are refused before what comes after them is looked at. -/
def readInteger (text : Text) : Except NumberFault Int :=
  let (negative, unsigned) := splitSign (Text.trim skipsAround text)
  match leadingDigits? false unsigned with
  | none => .error (.notInteger text)
  | some (digits, after) =>
    if digitLimit < digits.length then .error (.tooManyDigits digits.length)
    else if digits.isEmpty || !after.isEmpty then .error (.notInteger text)
    else .ok (applySign negative (digitsValue digits))

/-- The exponent of a decimal: nothing, or the letter and an integer. -/
def exponentPart? : Text → Option Int
  | [] => some 0
  | c :: rest =>
    let (negative, digits) := splitSign rest
    if c.toLower = 'e' && !digits.isEmpty && digits.all Char.isDigit then
      some (applySign negative (digitsValue digits))
    else none

/-- A decimal without sign: digits around an optional point, at least one of them. -/
def decimal? (negative : Bool) (s : Text) : Option Binary64 := do
  let whole := s.takeWhile Char.isDigit
  let rest := s.dropWhile Char.isDigit
  let (places, rest) := match rest with
    | '.' :: rest => (rest.takeWhile Char.isDigit, rest.dropWhile Char.isDigit)
    | rest => ([], rest)
  if whole.isEmpty && places.isEmpty then none
  else
    let exponent ← exponentPart? rest
    return .ofDecimal negative (digitsValue (whole ++ places)) (exponent - places.length)

def readReal (text : Text) : Except NumberFault Binary64 :=
  let read := do
    let plain ← plainDigits? false (Text.trim skipsAround text)
    let (negative, s) := splitSign plain
    let name := s.map Char.toLower
    if name = "inf" || name = "infinity" then some (.infinite negative)
    else if name = "nan" then some .nan
    else decimal? negative s
  match read with
  | some x => .ok x
  | none => .error (.notReal text)

end SchemaChart
