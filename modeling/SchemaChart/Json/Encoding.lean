import SchemaChart.Json.Reading
import SchemaChart.Text.Utf8

/-!
# JSON in bytes

A value that comes as bytes is written in UTF-8, UTF-16 or UTF-32. A byte order mark
tells which; without one the zero bytes among the first four do, because a value
begins with ASCII. As in escapes, a UTF-16 unit without its partner is kept; whether
there is one can be told from the bytes (`writesUnits`).
-/

namespace SchemaChart.Json

inductive Encoding
  | utf8
  | utf16 (bigEndian : Bool)
  | utf32 (bigEndian : Bool)
  deriving DecidableEq, Repr

namespace Encoding

def marks : List (Bytes × Encoding) :=
  [([0x00, 0x00, 0xFE, 0xFF], .utf32 true), ([0xFF, 0xFE, 0x00, 0x00], .utf32 false),
    ([0xFE, 0xFF], .utf16 true), ([0xFF, 0xFE], .utf16 false), ([0xEF, 0xBB, 0xBF], .utf8)]

/-- The encoding that the place of zero bytes suggests. -/
def ofZeros : Bytes → Encoding
  | [a, b] =>
    if a = 0 then .utf16 true else if b = 0 then .utf16 false else .utf8
  | a :: b :: c :: d :: _ =>
    if a = 0 then (if b = 0 then .utf32 true else .utf16 true)
    else if b = 0 then (if c = 0 && d = 0 then .utf32 false else .utf16 false)
    else .utf8
  | _ => .utf8

def detect (bytes : Bytes) : Encoding × Bytes :=
  match marks.findSome? fun (mark, e) => (mark.isPrefixOf? bytes).map (e, ·) with
  | some found => found
  | none => (ofZeros bytes, bytes)

/-- The unit that three bytes hold if it is encoded like a character. -/
def encodedUnit? (a b c : UInt8) : Option Nat :=
  if a = 0xED && 0xA0 ≤ b && b ≤ 0xBF && 0x80 ≤ c && c ≤ 0xBF then
    some (0xD000 + b.toNat % 0x40 * 0x40 + c.toNat % 0x40)
  else none

/-- Puts what holds a unit in the place of each unit that is encoded like a character. -/
def replaceUnits : Bytes → Bytes
  | [] => []
  | a :: b :: c :: rest =>
    match encodedUnit? a b c with
    | some unit => (heldUnit unit).encode ++ replaceUnits rest
    | none => a :: replaceUnits (b :: c :: rest)
  | a :: rest => a :: replaceUnits rest

def pair (bigEndian : Bool) (a b : Nat) (base : Nat) : Nat :=
  if bigEndian then a * base + b else b * base + a

/-- The units of two bytes each; a byte that is left over is a fault. -/
def units? (bigEndian : Bool) : Bytes → Option (List Nat)
  | [] => some []
  | a :: b :: rest => (units? bigEndian rest).map (pair bigEndian a.toNat b.toNat 0x100 :: ·)
  | [_] => none

/-- The code points of two units each; a unit that is left over is a fault. -/
def codePoints? (bigEndian : Bool) : List Nat → Option (List Nat)
  | [] => some []
  | a :: b :: rest => (codePoints? bigEndian rest).map (pair bigEndian a b 0x10000 :: ·)
  | [_] => none

def character? (n : Nat) : Option Text := if n < 0x110000 then some (textOfPoint n) else none

def decode? : Encoding → Bytes → Option Text
  | .utf8, bytes => (Bytes.decode (replaceUnits bytes)).toOption
  | .utf16 bigEndian, bytes => (units? bigEndian bytes).map joinUnits
  | .utf32 bigEndian, bytes => do
    return (← (← codePoints? bigEndian (← units? bigEndian bytes)).mapM character?).flatten

/-- Whether bytes hold a unit alone without an escape. -/
def holdsUnits : Encoding → Bytes → Bool
  | .utf8, bytes => replaceUnits bytes ≠ bytes
  | .utf16 bigEndian, bytes => (units? bigEndian bytes).any hasLoneUnit
  | .utf32 bigEndian, bytes =>
    ((units? bigEndian bytes).bind (codePoints? bigEndian)).any (·.any isUnit)

end Encoding

/-- The code points of a text of JSON, with the escapes of units undone. -/
def points : Text → List Nat
  | [] => []
  | '\\' :: 'u' :: a :: b :: c :: d :: rest =>
    match unitValue? a b c d with
    | some unit => unit :: points rest
    | none => points (a :: b :: c :: d :: rest)
  | '\\' :: c :: rest => c.toNat :: points rest
  | c :: rest => c.toNat :: points rest

/-- Whether a unit alone is written in the bytes of a value, as it is or by an escape. -/
def writesUnits (bytes : Bytes) : Bool :=
  let (encoding, bytes) := Encoding.detect bytes
  encoding.holdsUnits bytes || (encoding.decode? bytes).any fun s => hasLoneUnit (points s)

/-- Why bytes hold no value: they are no text, or the text is not read. -/
inductive BytesFault
  | notText
  | malformed (fault : JsonFault)
  deriving DecidableEq, Repr

/-- The value in the given bytes, if they hold one and nothing else. -/
def ofBytes (levels : Nat) (bytes : Bytes) : Except BytesFault Json :=
  let (encoding, bytes) := Encoding.detect bytes
  match encoding.decode? bytes with
  | none => .error .notText
  | some s => (read levels s).mapError .malformed

end SchemaChart.Json
