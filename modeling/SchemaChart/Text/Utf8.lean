import SchemaChart.Text.Hex

/-!
# Bytes and lines

Files and standard input are bytes. They are read as strict UTF-8: overlong forms,
surrogates and code points above the last plane are refused, at the first byte that
rules a character out. A fault names the bytes of the character that was begun. Line
ends are then unified: a carriage return, alone or before a line feed, becomes a line
feed. Bytes that only may be a text are repaired instead: each fault becomes one
replacement character.
-/

namespace SchemaChart

abbrev Bytes := List UInt8

inductive Utf8Cause
  | invalidStart
  | invalidContinuation
  | unexpectedEnd
  deriving DecidableEq, Repr

/-- A fault at a byte position; `lead` is the byte there and `count` the number of
bytes of the character that were in order. -/
structure Utf8Fault where
  cause : Utf8Cause
  position : Nat
  lead : UInt8
  count : Nat
  deriving DecidableEq, Repr

def Utf8Cause.reason : Utf8Cause → Text
  | .invalidStart => "invalid start byte"
  | .invalidContinuation => "invalid continuation byte"
  | .unexpectedEnd => "unexpected end of data"

def Utf8Fault.message (f : Utf8Fault) : Text :=
  let place :=
    if f.count = 1 then
      "byte 0x" ++ hexDigits 2 f.lead.toNat ++ " in position " ++ Text.ofNat f.position
    else
      "bytes in position " ++ Text.ofNat f.position ++ "-" ++
        Text.ofNat (f.position + f.count - 1)
  "'utf-8' codec can't decode " ++ place ++ ": " ++ f.cause.reason

/-- A character of which some bytes have been read. The next byte must lie between
`low` and `high`; `owed` bytes are still to come after it. -/
structure Utf8Partial where
  lead : UInt8
  count : Nat
  owed : Nat
  low : UInt8
  high : UInt8
  bits : Nat

/-- Begins a character with a byte that is not ASCII. -/
def Utf8Partial.start? (b : UInt8) : Option Utf8Partial :=
  if 0xC2 ≤ b && b ≤ 0xDF then some ⟨b, 1, 0, 0x80, 0xBF, b.toNat % 0x20⟩
  else if 0xE0 ≤ b && b ≤ 0xEF then
    some ⟨b, 1, 1, if b = 0xE0 then 0xA0 else 0x80, if b = 0xED then 0x9F else 0xBF,
      b.toNat % 0x10⟩
  else if 0xF0 ≤ b && b ≤ 0xF4 then
    some ⟨b, 1, 2, if b = 0xF0 then 0x90 else 0x80, if b = 0xF4 then 0x8F else 0xBF,
      b.toNat % 8⟩
  else none

namespace Bytes

/-- Decodes from a byte position on, given the character under way. -/
def decodeFrom (position : Nat) : Option Utf8Partial → Bytes → Except Utf8Fault Text
  | none, [] => .ok []
  | some p, [] => .error ⟨.unexpectedEnd, position - p.count, p.lead, p.count⟩
  | none, b :: rest =>
    if b < 0x80 then (decodeFrom (position + 1) none rest).map (Char.ofNat b.toNat :: ·)
    else match Utf8Partial.start? b with
      | some p => decodeFrom (position + 1) (some p) rest
      | none => .error ⟨.invalidStart, position, b, 1⟩
  | some p, b :: rest =>
    if p.low ≤ b && b ≤ p.high then
      let bits := p.bits * 0x40 + b.toNat % 0x40
      match p.owed with
      | 0 => (decodeFrom (position + 1) none rest).map (Char.ofNat bits :: ·)
      | owed + 1 =>
        decodeFrom (position + 1) (some ⟨p.lead, p.count + 1, owed, 0x80, 0xBF, bits⟩) rest
    else .error ⟨.invalidContinuation, position - p.count, p.lead, p.count⟩

def decode (bytes : Bytes) : Except Utf8Fault Text := decodeFrom 0 none bytes

/-- What stands in a text for bytes that are not one. -/
def replacement : Char := '\uFFFD'

/-- What a byte comes to where a character may begin, and the character that it begins. -/
def begin (b : UInt8) : Text × Option Utf8Partial :=
  if b < 0x80 then ([Char.ofNat b.toNat], none)
  else match Utf8Partial.start? b with
    | some p => ([], some p)
    | none => ([replacement], none)

/-- Decodes with a replacement for the bytes of every fault. -/
def repairFrom : Option Utf8Partial → Bytes → Text
  | none, [] => []
  | some _, [] => [replacement]
  | none, b :: rest => (begin b).1 ++ repairFrom (begin b).2 rest
  | some p, b :: rest =>
    if p.low ≤ b && b ≤ p.high then
      let bits := p.bits * 0x40 + b.toNat % 0x40
      match p.owed with
      | 0 => Char.ofNat bits :: repairFrom none rest
      | owed + 1 => repairFrom (some ⟨p.lead, p.count + 1, owed, 0x80, 0xBF, bits⟩) rest
    else replacement :: (begin b).1 ++ repairFrom (begin b).2 rest

def repair (bytes : Bytes) : Text := repairFrom none bytes

end Bytes

namespace Text

def encode (s : Text) : Bytes := s.flatMap String.utf8EncodeChar

/-- Unifies line ends; `afterReturn` tells whether a carriage return stands before. -/
def unifyLines (afterReturn : Bool) : Text → Text
  | [] => []
  | c :: rest =>
    if c = '\r' then '\n' :: unifyLines true rest
    else if c = '\n' && afterReturn then unifyLines false rest
    else c :: unifyLines false rest

end Text

def Bytes.readText (bytes : Bytes) : Except Utf8Fault Text :=
  (Bytes.decode bytes).map (Text.unifyLines false)

end SchemaChart
