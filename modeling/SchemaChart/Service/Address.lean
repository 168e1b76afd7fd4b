import SchemaChart.Text.Hex

/-!
# Addresses in brackets

Where a host is named by its address the address stands in brackets. Eight groups of up
to four hexadecimal digits make an address; two colons stand for one or more groups of
zeros, and the last two groups may be written as four decimal octets. A zone may follow
behind a percent sign.
-/

namespace SchemaChart.Service.Address

def isOctet (s : Text) : Bool :=
  !s.isEmpty && s.all Char.isDigit && s.length ≤ 3 && (s = "0" || s.head? ≠ some '0') &&
    s.foldl (fun n c => 10 * n + (c.toNat - '0'.toNat)) 0 ≤ 255

def isDotted (s : Text) : Bool :=
  let octets := Text.pieces '.' s
  octets.length = 4 && octets.all isOctet

def isGroup (s : Text) : Bool :=
  !s.isEmpty && s.length ≤ 4 && s.all fun c => (hexValue? c).isSome

/-- The number of groups on one side of the two colons; the side may be empty. -/
def sideLength? (groups : List Text) : Option Nat :=
  if groups = [[]] then some 0 else if groups.all isGroup then some groups.length else none

/-- The pieces between colons, with octets at the end written as groups. -/
def groupsOf (s : Text) : List Text :=
  let groups := Text.pieces ':' s
  match groups.getLast? with
  | some last => if isDotted last then groups.dropLast ++ [['0'], ['0']] else groups
  | none => groups

/-- The places of empty groups that are neither first nor last. -/
def gaps (groups : List Text) : List Nat :=
  (List.range (groups.length - 1)).filter fun i => 0 < i && groups[i]? = some []

def isGrouped (s : Text) : Bool :=
  let groups := groupsOf s
  match gaps groups with
  | [] => groups.length = 8 && groups.all isGroup
  | [i] =>
    3 ≤ (Text.pieces ':' s).length &&
      match sideLength? (groups.take i), sideLength? (groups.drop (i + 1)) with
      | some m, some n => m + n ≤ 7
      | _, _ => false
  | _ => false

/-- Whether a text is an address of eight groups, perhaps with a zone. -/
def isLong (s : Text) : Bool :=
  let zoneFits := !s.contains '%' ||
    !(Text.behind '%' s).isEmpty && !(Text.behind '%' s).contains '%'
  zoneFits && isGrouped (Text.before '%' s)

/-- Whether a text is an address of a later kind: its version and a dot stand in
front. -/
def isFuture (s : Text) : Bool :=
  let version := Text.before '.' (s.drop 1)
  s.head? = some 'v' && !version.isEmpty && version.all (fun c => (hexValue? c).isSome) &&
    !(Text.behind '.' s).isEmpty

end SchemaChart.Service.Address
