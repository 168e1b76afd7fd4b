import SchemaChart.Json.Basic
import SchemaChart.Text.Hex
import SchemaChart.Text.Unit

/-!
# Writing JSON

The text of a value is plain ASCII: other characters are written by their UTF-16
units. A layout sets what stands between members and whether each stands on a line of
its own, indented by its depth; empty arrays and objects take no lines. It also sets
whether units that texts hold alone are written as such.
-/

namespace SchemaChart.Json

/-- Reals have a point below 10^16 and down to 10^-4, and two digits in an exponent. -/
def realStyle : RealStyle := ⟨-4, 16, 2, "Infinity", "NaN"⟩

def unitEscape (unit : Nat) : Text := "\\u" ++ hexDigits 4 unit

def escapeChar (c : Char) : Text :=
  if c = '\x22' then ['\\', c]
  else if c = '\\' then "\\\\"
  else if c = '\n' then "\\n"
  else if c = '\r' then "\\r"
  else if c = '\t' then "\\t"
  else if c = '\x08' then "\\b"
  else if c = '\x0c' then "\\f"
  else if ' ' ≤ c && c ≤ '~' then [c]
  else if c.toNat < 0x10000 then unitEscape c.toNat
  else
    let n := c.toNat - 0x10000
    unitEscape (0xD800 + n / 0x400) ++ unitEscape (0xDC00 + n % 0x400)

def escapeText (s : Text) : Text := s.flatMap escapeChar

/-- Escapes a text that may hold units alone. -/
def escapeUnits (s : Text) : Text := s.flatMapUnits escapeChar unitEscape

structure Layout where
  gap : Text
  colon : Text
  /-- Spaces for each level, if members stand on lines of their own. -/
  indent : Option Nat
  /-- Writes what stands between the quotes of a text. -/
  escape : Text → Text

namespace Layout

def compact : Layout := ⟨",", ":", none, escapeText⟩

def spaced : Layout := ⟨", ", ": ", none, escapeText⟩

def indented : Layout := ⟨",", ": ", some 2, escapeText⟩

/-- The layout for values whose texts may hold units alone. -/
def withUnits (l : Layout) : Layout := { l with escape := escapeUnits }

def quote (l : Layout) (s : Text) : Text := '\x22' :: l.escape s ++ ['\x22']

/-- The line break before a member at the given depth. -/
def newline (l : Layout) (depth : Nat) : Text :=
  match l.indent with
  | some width => '\n' :: List.replicate (width * depth) ' '
  | none => []

end Layout

mutual

def write (l : Layout) (depth : Nat) : Json → Text
  | .null => "null"
  | .bool b => if b then "true" else "false"
  | .number n => n.text realStyle
  | .string s => l.quote s
  | .array [] => "[]"
  | .array (item :: rest) =>
    "[" ++ l.newline (depth + 1) ++ item.write l (depth + 1) ++ writeItems l depth rest
  | .object [] => "\x7b\x7d"
  | .object (member :: rest) =>
    "\x7b" ++ l.newline (depth + 1) ++ l.quote member.1 ++ l.colon ++
      member.2.write l (depth + 1) ++ writeMembers l depth rest

/-- The items after the first one, and the closing bracket. -/
def writeItems (l : Layout) (depth : Nat) : List Json → Text
  | [] => l.newline depth ++ "]"
  | item :: rest =>
    l.gap ++ l.newline (depth + 1) ++ item.write l (depth + 1) ++ writeItems l depth rest

/-- The members after the first one, and the closing brace. -/
def writeMembers (l : Layout) (depth : Nat) : List (Text × Json) → Text
  | [] => l.newline depth ++ "\x7d"
  | member :: rest =>
    l.gap ++ l.newline (depth + 1) ++ l.quote member.1 ++ l.colon ++
      member.2.write l (depth + 1) ++ writeMembers l depth rest

end

def text (l : Layout) (value : Json) : Text := value.write l 0

end SchemaChart.Json
