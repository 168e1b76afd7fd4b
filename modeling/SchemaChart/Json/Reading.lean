import SchemaChart.Json.Basic
import SchemaChart.Number.Reading
import SchemaChart.Text.Hex
import SchemaChart.Text.Unit

/-!
# Reading JSON

The reader accepts the standard grammar and the names `NaN`, `Infinity` and
`-Infinity`. It stops at the first fault and tells where that is. Escapes of UTF-16
units are paired; a unit without its partner is kept.

How many levels of arrays and objects are read is up to the caller. Apart from that the
recursion has a bound that the length of the text provides: every value and every member
takes at least one character.
-/

namespace SchemaChart

inductive JsonCause
  | expectedValue
  | expectedName
  | expectedColon
  | expectedComma
  | unterminatedText
  | controlCharacter
  | unknownEscape
  | malformedUnit
  | trailingText
  | byteOrderMark
  | tooManyDigits (count : Nat)
  | deepArray
  | deepObject
  deriving DecidableEq, Repr

structure JsonFault where
  cause : JsonCause
  offset : Nat
  line : Nat
  column : Nat
  deriving DecidableEq, Repr

namespace JsonCause

def message : JsonCause → Text
  | .expectedValue => "Expecting value"
  | .expectedName => "Expecting property name enclosed in double quotes"
  | .expectedColon => "Expecting ':' delimiter"
  | .expectedComma => "Expecting ',' delimiter"
  | .unterminatedText => "Unterminated string starting at"
  | .controlCharacter => "Invalid control character at"
  | .unknownEscape => "Invalid \\escape"
  | .malformedUnit => "Invalid \\uXXXX escape"
  | .trailingText => "Extra data"
  | .byteOrderMark => "Unexpected UTF-8 BOM (decode using utf-8-sig)"
  | .tooManyDigits count => (NumberFault.tooManyDigits count).message
  | .deepArray =>
    "maximum recursion depth exceeded while decoding a JSON array from a unicode string"
  | .deepObject =>
    "maximum recursion depth exceeded while decoding a JSON object from a unicode string"

/-- Whether the text was given up for its depth, well formed or not. -/
def isDepth : JsonCause → Bool
  | .deepArray | .deepObject => true
  | _ => false

def hasPlace : JsonCause → Bool
  | .tooManyDigits _ | .deepArray | .deepObject => false
  | _ => true

end JsonCause

def JsonFault.message (f : JsonFault) : Text :=
  if f.cause.hasPlace then
    f.cause.message ++ ": line " ++ Text.ofNat f.line ++ " column " ++ Text.ofNat f.column ++
      " (char " ++ Text.ofNat f.offset ++ ")"
  else f.cause.message

namespace Json

/-- Where and why reading stops; `rest` is the text from there on. -/
structure Stop where
  cause : JsonCause
  rest : Text

abbrev Read (α : Type) := Except Stop (α × Text)

def isGap (c : Char) : Bool := c = ' ' || c = '\t' || c = '\n' || c = '\r'

def skipGap (s : Text) : Text := s.dropWhile isGap

/-- The character that a backslash and the given one stand for. -/
def escaped? (c : Char) : Option Char :=
  if c = '\x22' || c = '\\' || c = '/' then some c
  else if c = 'b' then some '\x08'
  else if c = 'f' then some '\x0c'
  else if c = 'n' then some '\n'
  else if c = 'r' then some '\r'
  else if c = 't' then some '\t'
  else none

def unitValue? (a b c d : Char) : Option Nat := do
  return (((← hexValue? a) * 16 + (← hexValue? b)) * 16 + (← hexValue? c)) * 16 + (← hexValue? d)

/-- The code points and UTF-16 units up to the closing quote. A fault in the text as
a whole is placed at `opening`, its opening quote. -/
def readUnits (opening : Text) : Text → Read (List Nat)
  | [] => .error ⟨.unterminatedText, opening⟩
  | '\x22' :: rest => .ok ([], rest)
  | '\\' :: [] => .error ⟨.unterminatedText, opening⟩
  | '\\' :: 'u' :: a :: b :: c :: d :: e :: rest =>
    match unitValue? a b c d with
    | some unit => (readUnits opening (e :: rest)).map fun (units, rest) => (unit :: units, rest)
    | none => .error ⟨.malformedUnit, 'u' :: a :: b :: c :: d :: e :: rest⟩
  | '\\' :: 'u' :: rest => .error ⟨.malformedUnit, 'u' :: rest⟩
  | '\\' :: c :: rest =>
    match escaped? c with
    | some meant => (readUnits opening rest).map fun (units, rest) => (meant.toNat :: units, rest)
    | none => .error ⟨.unknownEscape, '\\' :: c :: rest⟩
  | c :: rest =>
    if c < ' ' then .error ⟨.controlCharacter, c :: rest⟩
    else (readUnits opening rest).map fun (units, rest) => (c.toNat :: units, rest)

/-- The text of code points and units; a high unit goes with a low one after it. -/
def joinUnits : List Nat → Text
  | [] => []
  | high :: low :: rest =>
    if isHighUnit high && isLowUnit low then
      Char.ofNat (pairedUnits high low) :: joinUnits rest
    else textOfPoint high ++ joinUnits (low :: rest)
  | [unit] => textOfPoint unit

/-- Reads a text whose opening quote has been passed. -/
def readText (opening : Text) (s : Text) : Read Text :=
  (readUnits opening s).map fun (units, rest) => (joinUnits units, rest)

/-- The digits before a point: a zero alone, or digits that do not begin with zero. -/
def wholePart? : Text → Option (Text × Text)
  | [] => none
  | c :: rest =>
    if c = '0' then some (['0'], rest)
    else if c.isDigit then some (c :: rest.takeWhile Char.isDigit, rest.dropWhile Char.isDigit)
    else none

/-- The digits after a point; a point without digits is not part of the number. -/
def placesPart? : Text → Option (Text × Text)
  | '.' :: rest =>
    match rest.takeWhile Char.isDigit with
    | [] => none
    | digits => some (digits, rest.dropWhile Char.isDigit)
  | _ => none

/-- The exponent; a letter without digits is not part of the number. -/
def powerPart? : Text → Option (Int × Text)
  | c :: rest =>
    let (negative, rest) := splitSign rest
    match c = 'e' || c = 'E', rest.takeWhile Char.isDigit with
    | false, _ => none
    | true, [] => none
    | true, digits => some (applySign negative (digitsValue digits), rest.dropWhile Char.isDigit)
  | [] => none

/-- Reads a number; it is a real if it has a point or an exponent. -/
def readNumber (s : Text) : Read Json :=
  let (negative, unsigned) := match s with
    | '-' :: rest => (true, rest)
    | _ => (false, s)
  match wholePart? unsigned with
  | none => .error ⟨.expectedValue, s⟩
  | some (whole, rest) =>
    match placesPart? rest, powerPart? ((placesPart? rest).elim rest (·.2)) with
    | none, none =>
      if digitLimit < whole.length then .error ⟨.tooManyDigits whole.length, s⟩
      else .ok (.integer (applySign negative (digitsValue whole)), rest)
    | places, power =>
      let digits := whole ++ places.elim [] (·.1)
      let exponent := power.elim 0 (·.1) - (places.elim [] (·.1)).length
      .ok (.number (.real (.ofDecimal negative (digitsValue digits) exponent)),
        power.elim (places.elim rest (·.2)) (·.2))

/-- The values that are spelt with letters. -/
def literals : List (Text × Json) :=
  [("null", .null), ("true", .bool true), ("false", .bool false),
    ("NaN", .number (.real .nan)), ("Infinity", .number (.real (.infinite false))),
    ("-Infinity", .number (.real (.infinite true)))]

def readLiteral? (s : Text) : Option (Json × Text) :=
  literals.findSome? fun (name, value) => (Text.after? name s).map fun rest => (value, rest)

mutual

/-- Reads a value with at most so many levels. -/
def readValue (levels : Nat) : Nat → Text → Read Json
  | 0, s => .error ⟨.expectedValue, s⟩
  | bound + 1, s =>
    match s with
    | '\x22' :: rest => (readText s rest).map fun (text, rest) => (.string text, rest)
    | '[' :: rest =>
      if levels = 0 then .error ⟨.deepArray, s⟩
      else match skipGap rest with
        | ']' :: rest => .ok (.array [], rest)
        | rest =>
          (readItems (levels - 1) bound rest).map fun (items, rest) => (.array items, rest)
    | '\x7b' :: rest =>
      if levels = 0 then .error ⟨.deepObject, s⟩
      else match skipGap rest with
        | '\x7d' :: rest => .ok (.object [], rest)
        | rest =>
          (readMembers (levels - 1) bound rest).map fun (members, rest) =>
            (ofMembers members, rest)
    | _ =>
      match readLiteral? s with
      | some read => .ok read
      | none => readNumber s

/-- Reads the items of an array that is not empty, and its closing bracket. -/
def readItems (levels : Nat) : Nat → Text → Read (List Json)
  | 0, s => .error ⟨.expectedValue, s⟩
  | bound + 1, s =>
    match readValue levels bound s with
    | .error stop => .error stop
    | .ok (item, rest) =>
      match skipGap rest with
      | ']' :: rest => .ok ([item], rest)
      | ',' :: rest =>
        (readItems levels bound (skipGap rest)).map fun (items, rest) => (item :: items, rest)
      | rest => .error ⟨.expectedComma, rest⟩

/-- Reads the members of an object that is not empty, and its closing brace. -/
def readMembers (levels : Nat) : Nat → Text → Read (List (Text × Json))
  | 0, s => .error ⟨.expectedName, s⟩
  | bound + 1, s =>
    match s with
    | '\x22' :: inner =>
      match readText s inner with
      | .error stop => .error stop
      | .ok (name, rest) =>
        match skipGap rest with
        | ':' :: rest =>
          match readValue levels bound (skipGap rest) with
          | .error stop => .error stop
          | .ok (value, rest) =>
            match skipGap rest with
            | '\x7d' :: rest => .ok ([(name, value)], rest)
            | ',' :: rest =>
              (readMembers levels bound (skipGap rest)).map fun (members, rest) =>
                ((name, value) :: members, rest)
            | rest => .error ⟨.expectedComma, rest⟩
        | rest => .error ⟨.expectedColon, rest⟩
    | _ => .error ⟨.expectedName, s⟩

end

/-- The place of a fault in the text it was found in: lines and columns count from
one, offsets from zero. -/
def Stop.fault (s : Text) (stop : Stop) : JsonFault :=
  let offset := s.length - stop.rest.length
  let before := s.take offset
  { cause := stop.cause
    offset := offset
    line := before.count '\n' + 1
    column := (before.reverse.takeWhile (· ≠ '\n')).length + 1 }

def readAll (levels : Nat) (s : Text) : Except Stop Json :=
  if s.head? = some '\uFEFF' then .error ⟨.byteOrderMark, s⟩
  else
    match readValue levels (2 * s.length + 2) (skipGap s) with
    | .error stop => .error stop
    | .ok (value, rest) =>
      match skipGap rest with
      | [] => .ok value
      | rest => .error ⟨.trailingText, rest⟩

/-- Reads a text that holds a value with at most so many levels and nothing else. -/
def read (levels : Nat) (s : Text) : Except JsonFault Json :=
  (readAll levels s).mapError (·.fault s)

end Json

end SchemaChart
