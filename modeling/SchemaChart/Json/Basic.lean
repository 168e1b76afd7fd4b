import SchemaChart.Number.Writing

/-!
# JSON values

Numbers are integers or reals, as their text says. The members of an object have
distinct names once the object has been read: of members with one name the last value
counts, at the place of the first.
-/

namespace SchemaChart

inductive Json
  | null
  | bool (b : Bool)
  | number (n : Number)
  | string (s : Text)
  | array (items : List Json)
  | object (members : List (Text × Json))
  deriving Repr

namespace Json

/-- Sets a member, in its place if the name is already there. -/
def setMember (members : List (Text × Json)) (name : Text) (value : Json) :
    List (Text × Json) :=
  match members with
  | [] => [(name, value)]
  | (other, old) :: rest =>
    if other = name then (name, value) :: rest else (other, old) :: setMember rest name value

def ofMembers (members : List (Text × Json)) : Json :=
  .object (members.foldl (fun set member => setMember set member.1 member.2) [])

def member? (name : Text) : Json → Option Json
  | .object members => members.lookup name
  | _ => none

def text? : Json → Option Text
  | .string s => some s
  | _ => none

def integer (n : Int) : Json := .number (.integer n)

/-- Whether a value counts as present: null, false, zero, and empty texts, arrays and
objects do not. -/
def isPresent : Json → Bool
  | .null => false
  | .bool b => b
  | .number (.integer n) => n ≠ 0
  | .number (.real (.finite _ m _)) => m ≠ 0
  | .number (.real _) => true
  | .string s => !s.isEmpty
  | .array items => !items.isEmpty
  | .object members => !members.isEmpty

/-- The number that a value counts as in a comparison; true is one and false zero. -/
def numeric? : Json → Option Number
  | .bool b => some (.integer (if b then 1 else 0))
  | .number n => some n
  | _ => none

def isNaN : Json → Bool
  | .number (.real .nan) => true
  | _ => false

mutual

/-- Whether two parts are the same: numbers by what they denote, objects without regard
to the order of their members. Not-a-number is the same as itself. -/
def sameParts : Json → Json → Bool
  | .null, .null => true
  | .string s, .string t => s = t
  | .array items, .array others => sameItems items others
  | .object members, .object others =>
    members.length = others.length && sameMembers members others
  | a, b =>
    match a.numeric?, b.numeric? with
    | some m, some n => a.isNaN && b.isNaN || m.agrees n
    | _, _ => false

def sameItems : List Json → List Json → Bool
  | [], [] => true
  | item :: rest, other :: others => sameParts item other && sameItems rest others
  | _, _ => false

def sameMembers : List (Text × Json) → List (Text × Json) → Bool
  | [], _ => true
  | member :: rest, others =>
    (match others.lookup member.1 with
      | some value => sameParts member.2 value
      | none => false) && sameMembers rest others

end

/-- Whether two values are the same as data. Not-a-number is the same as itself inside
of values, but not on its own. -/
def agrees (a b : Json) : Bool := !a.isNaN && sameParts a b

/-- Puts a member in front of the first whose name is greater. -/
def insertByName (member : Text × Json) : List (Text × Json) → List (Text × Json)
  | [] => [member]
  | other :: rest =>
    if other.1.lex member.1 (· < ·) then other :: insertByName member rest
    else member :: other :: rest

mutual

/-- The value with the members of all objects in the order of their names. -/
def sorted : Json → Json
  | .array items => .array (sortedItems items)
  | .object members => .object (sortedMembers members)
  | value => value

def sortedItems : List Json → List Json
  | [] => []
  | item :: rest => item.sorted :: sortedItems rest

def sortedMembers : List (Text × Json) → List (Text × Json)
  | [] => []
  | (name, value) :: rest => insertByName (name, value.sorted) (sortedMembers rest)

end

end Json

end SchemaChart
