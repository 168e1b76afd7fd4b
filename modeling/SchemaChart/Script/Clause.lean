import SchemaChart.Script.Name
import SchemaChart.Script.Phrase
import SchemaChart.Script.Scan

/-!
# Clauses

A table body is cut at the commas that stand outside literals and groups. A body
that ends inside a literal has a stray quote; it is cut again with quotes ignored.
The first words of a clause decide what it declares. A constraint may be named, and
its name is passed over; a named clause that starts like a column is a constraint of
some other kind all the same.
-/

namespace SchemaChart

/-- The text between the cuts, commas left out. -/
def segments (aware : Bool) (s : Scan) : Text → List Text
  | [] => [[]]
  | c :: rest =>
    if s.cuts c then [] :: segments aware s rest
    else match segments aware (s.step aware c) rest with
      | [] => [[c]]
      | first :: more => (c :: first) :: more

/-- Whether a scan that respects quotes meets the end of the text inside a literal. -/
def endsInLiteral (text : Text) : Bool := (Scan.start.run true text).place ≠ .outside

/-- The clauses of a body; empty ones are left out. -/
def clauses (aware : Bool) (body : Text) : List Text :=
  let aware := aware && !endsInLiteral body
  ((segments aware .start body).map Text.strip).filter (!·.isEmpty)

inductive ClauseKind
  | column
  | primaryKey
  | foreignKey
  | unique
  | check
  | other
  deriving DecidableEq, Repr

def ClauseKind.label : ClauseKind → Text
  | .column => "column"
  | .primaryKey => "primary key"
  | .foreignKey => "foreign key"
  | .unique => "unique"
  | .check => "check"
  | .other => "constraint"

namespace Text

/-- Whether the text begins with the keywords as whole words. -/
def opensWith (words : List Text) (s : Text) : Bool := (phrase? words s).any endsWord

/-- Skips the keyword `CONSTRAINT`, a name, and the blanks after it. -/
def constraintName? (s : Text) : Option Text := do
  let s ← phrase? ["constraint"] s
  let s ← blanks? s
  let (_, s) ← name? s
  return skipBlanks s

/-- Secondary indexes, full-text and spatial ones among them. -/
def opensIndex (s : Text) : Bool :=
  ([["key"], ["index"], ["fulltext", "key"], ["fulltext", "index"], ["spatial", "key"],
    ["spatial", "index"]] : List (List Text)).any fun words => opensWith words s

end Text

namespace ClauseKind

/-- What the first words of a text declare, if they declare a constraint. -/
def ofWords? (s : Text) : Option ClauseKind :=
  if Text.opensWith ["primary", "key"] s then some .primaryKey
  else if Text.opensWith ["foreign", "key"] s then some .foreignKey
  else if Text.opensWith ["unique"] s then some .unique
  else if Text.opensWith ["check"] s then some .check
  else if Text.opensIndex s then some .other
  else none

def ofClause (clause : Text) : ClauseKind :=
  let s := Text.strip clause
  match Text.constraintName? s with
  | some rest => (ofWords? rest).getD .other
  | none => (ofWords? s).getD .column

end ClauseKind

end SchemaChart
