import SchemaChart.Schema.Basic
import SchemaChart.Script.Name
import SchemaChart.Script.Phrase
import SchemaChart.Text.Upper

/-!
# Column clauses

A column clause begins with a name and a type. The type is a word, and the text from
an opening parenthesis after it to the first closing one belongs to it; it is kept
without blanks and in capitals. The rest of the clause is not analysed: the words
`PRIMARY KEY` and `NOT NULL` count wherever they stand, literals included, and the
first `REFERENCES` that is followed by a table and one column makes the column a
foreign key.
-/

namespace SchemaChart

namespace Text

/-- Reads a group in parentheses that holds no closing parenthesis, and gives what
it holds. -/
def flatGroup? (s : Text) : Option (Text × Text) := do
  let s ← mark? '(' s
  match s.dropWhile (· ≠ ')') with
  | [] => none
  | _ :: rest => some (s.takeWhile (· ≠ ')'), rest)

/-- The type that a text begins with. -/
def typeName? (s : Text) : Option Text := do
  let (word, rest) ← word? s
  let written := match flatGroup? rest with
    | some (parameters, _) => word ++ "(" ++ parameters ++ ")"
    | none => word
  return upper (written.filter (!isBlank ·))

/-- A reference to one column at the beginning of a text. -/
def reference? (s : Text) : Option ColumnRef := do
  let s ← phrase? ["references"] s
  let s ← blanks? s
  let (table, s) ← qualifiedName? s
  let s ← mark? '(' s
  let (column, s) ← name? (skipBlanks s)
  let _ ← mark? ')' s
  return ⟨table, column⟩

/-- The first reference in a text; `inWord` tells whether a word character stands
just before, as the keyword has to begin a word. -/
def firstReference? (inWord : Bool) : Text → Option ColumnRef
  | [] => none
  | c :: rest =>
    match if inWord then none else reference? (c :: rest) with
    | some target => some target
    | none => firstReference? (isWord c) rest

end Text

/-- The column that a clause declares, unless its first words are not a name and a
type. -/
def Column.read? (clause : Text) : Option Column := do
  let (name, rest) ← Text.name? (Text.strip clause)
  let rest ← Text.blanks? rest
  let type ← Text.typeName? rest
  let capitals := Text.upper clause
  let primaryKey := Text.mentions "PRIMARY KEY" capitals
  return {
    name := name
    type := type
    primaryKey := primaryKey
    nullable := !primaryKey && !Text.mentions "NOT NULL" capitals
    references := Text.firstReference? false clause }

end SchemaChart
