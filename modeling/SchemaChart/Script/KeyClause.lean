import SchemaChart.Schema.Basic
import SchemaChart.Script.ColumnClause

/-!
# Foreign key clauses

A foreign key clause lists columns of its own table and columns of another one. The
lists are paired by position, and a column without a partner refers to the column of
its own name. Names in a list may be wrapped in any number of plain quotation marks.
-/

namespace SchemaChart

structure Key where
  column : Text
  target : ColumnRef
  deriving DecidableEq, Repr

namespace Text

def isPlainMark (c : Char) : Bool := c = '\x60' || c = '\x22' || c = '\x27'

/-- The names of a list, blanks and plain marks taken off; empty ones are left out. -/
def nameList (s : Text) : List Text :=
  ((pieces ',' s).map fun piece => trim isPlainMark (strip piece)).filter (!·.isEmpty)

end Text

/-- Pairs own columns with columns of the table referred to. -/
def pairKeys (table : Text) : List Text → List Text → List Key
  | [], _ => []
  | own :: more, [] => ⟨own, ⟨table, own⟩⟩ :: pairKeys table more []
  | own :: more, other :: others => ⟨own, ⟨table, other⟩⟩ :: pairKeys table more others

/-- The keys declared at the beginning of a text. -/
def Key.readList? (s : Text) : Option (List Key) := do
  let s ← Text.phrase? ["foreign", "key"] s
  let (own, s) ← Text.flatGroup? s
  let s ← Text.phrase? ["references"] (Text.skipBlanks s)
  let s ← Text.blanks? s
  let (table, s) ← Text.qualifiedName? s
  let (other, _) ← Text.flatGroup? s
  return pairKeys table (Text.nameList own) (Text.nameList other)

/-- The keys of a clause: the first place where they can be read counts. -/
def Key.ofClause : Text → List Key
  | [] => []
  | c :: rest =>
    match Key.readList? (c :: rest) with
    | some keys => keys
    | none => Key.ofClause rest

theorem length_pairKeys (table : Text) (own other : List Text) :
    (pairKeys table own other).length = own.length := by
  fun_induction pairKeys table own other with
  | case1 => rfl
  | case2 _ _ ih => simp [ih]
  | case3 _ _ _ _ ih => simp [ih]

end SchemaChart
