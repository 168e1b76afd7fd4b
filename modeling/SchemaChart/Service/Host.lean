import SchemaChart.Text.Direction
import SchemaChart.Text.Fold
import SchemaChart.Text.Punycode
import SchemaChart.Text.Quoted
import SchemaChart.Text.Unit

/-!
# Host names

A host is named by labels with dots between them. No label is empty or longer than 63
characters; only the last one may be empty. A name in ASCII stands for itself. In any
other name each label that is not ASCII is folded, and what is then not ASCII is written
in Punycode behind a mark. A label that is written from right to left has no letters of
the other direction in it and has one of its own at either end.

A label with the mark is read by undoing the Punycode; what comes out has to be written
as that label again.
-/

namespace SchemaChart.Service

inductive LabelFault
  | size
  | lastSize
  | forbidden (c : Char)
  | loneUnit (unit : Nat)
  | twoDirections
  | looseEnd
  | alreadyMarked
  deriving DecidableEq, Repr

def LabelFault.reason : LabelFault → Text
  | .size => "label empty or too long"
  | .lastSize => "label too long"
  | .forbidden c => "Invalid character " ++ Text.cited [c]
  | .loneUnit unit => "Invalid character '\\u" ++ hexDigits 4 unit ++ ['\x27']
  | .twoDirections => "Violation of BIDI requirement 2"
  | .looseEnd => "Violation of BIDI requirement 3"
  | .alreadyMarked => "Label starts with ACE prefix"

inductive HostFault
  | unwritable (fault : LabelFault)
  | punycode (fault : Punycode.Fault)
  | unreadable (fault : LabelFault)
  | notStable (label again : Text)
  deriving DecidableEq, Repr

def HostFault.message : HostFault → Text
  | .unwritable fault => "encoding with 'idna' codec failed (UnicodeError: " ++ fault.reason ++ ")"
  | .punycode fault =>
    "decoding with 'idna' codec failed (UnicodeError: decoding with 'punycode' codec failed " ++
      "(UnicodeError: " ++ fault.message ++ "))"
  | .unreadable fault => "decoding with 'idna' codec failed (UnicodeError: " ++ fault.reason ++ ")"
  | .notStable label again =>
    "('IDNA does not round-trip', b" ++ label.cited ++ ", b" ++ again.cited ++ ")"

namespace Host

def isAscii (s : Text) : Bool := s.all (·.toNat < 0x80)

/-- The dots of all scripts. -/
def isDot (c : Char) : Bool := c = '.' || c = '\u3002' || c = '\uFF0E' || c = '\uFF61'

/-- Controls, marks of direction, characters for private use, and code points that are
no characters. -/
def forbiddenRanges : List (Nat × Nat) :=
  [(0x80, 0x9F), (0x6DD, 0x6DD), (0x70F, 0x70F), (0x1680, 0x1680), (0x180E, 0x180E),
    (0x200E, 0x200F), (0x2028, 0x202E), (0x2061, 0x2063), (0x206A, 0x206F), (0x2FF0, 0x2FFB),
    (0xE000, 0xF8FF), (0xFDD0, 0xFDEF), (0xFFF9, 0xFFFF), (0x1D173, 0x1D17A),
    (0x1FFFE, 0x1FFFF), (0x2FFFE, 0x2FFFF), (0x3FFFE, 0x3FFFF), (0x4FFFE, 0x4FFFF),
    (0x5FFFE, 0x5FFFF), (0x6FFFE, 0x6FFFF), (0x7FFFE, 0x7FFFF), (0x8FFFE, 0x8FFFF),
    (0x9FFFE, 0x9FFFF), (0xAFFFE, 0xAFFFF), (0xBFFFE, 0xBFFFF), (0xCFFFE, 0xCFFFF),
    (0xDFFFE, 0xDFFFF), (0xE0001, 0xE0001), (0xE0020, 0xE007F), (0xEFFFE, 0x10FFFF)]

def isForbidden (c : Char) : Bool := inRanges forbiddenRanges c

/-- Checks the characters of a folded label and the directions that they are written
in. -/
def checkLabel (label : Text) : Except LabelFault Unit :=
  match label.dropWhile fun c => !isForbidden c with
  | c :: rest =>
    match rest.head?.bind (heldUnit? c) with
    | some unit => .error (.loneUnit unit)
    | none => .error (.forbidden c)
  | [] =>
    if !label.any isLeftward then .ok ()
    else if label.any isRightward then .error .twoDirections
    else if label.head?.any isLeftward && label.getLast?.any isLeftward then .ok ()
    else .error .looseEnd

def sized (label : Text) : Except LabelFault Text :=
  if label.isEmpty || 63 < label.length then .error .size else .ok label

def mark : Text := "xn--"

def writeLabel (label : Text) : Except LabelFault Text :=
  if isAscii label then sized label
  else do
    let folded := label.folded
    checkLabel folded
    if isAscii folded then sized folded
    else if mark.isPrefixOf folded then throw .alreadyMarked
    else sized (mark ++ Punycode.encode folded)

/-- The labels of a name; an empty last one does not count. -/
def labels (name : Text) : List Text :=
  let all := Text.pieces '.' name
  if all.getLast? = some [] then all.dropLast else all

/-- The name of some labels, with a dot at its end if there is one in the name that they
come from. -/
def ofLabels (name : Text) (labels : List Text) : Text :=
  Text.joinWith "." labels ++ (if name.getLast? = some '.' then ['.'] else [])

def checkSizes (name : Text) : Except LabelFault Unit :=
  let labels := Text.pieces '.' name
  if name.isEmpty then .ok ()
  else if labels.dropLast.any fun label => (sized label).toOption.isNone then .error .size
  else if (labels.getLast?.getD []).length ≤ 63 then .ok ()
  else .error .lastSize

def write (name : Text) : Except LabelFault Text :=
  if isAscii name then (checkSizes name).map fun _ => name
  else
    let name := name.map fun c => if isDot c then '.' else c
    ((labels name).mapM writeLabel).map (ofLabels name)

/-- What a label in ASCII stands for. -/
def readLabel (label : Text) : Except HostFault Text :=
  match Text.after? mark label with
  | none => .ok label
  | some code => do
    let s := (← (Punycode.decode code).mapError .punycode).flatMap textOfPoint
    let again ← (writeLabel s).mapError .unreadable
    if again = label then return s else throw (.notStable label again)

/-- What the name of a host in ASCII stands for. -/
def read (name : Text) : Except HostFault Text :=
  if Text.mentions mark name then ((labels name).mapM readLabel).map (ofLabels name)
  else .ok name

end Host

end SchemaChart.Service
