import SchemaChart.Schema.Notice
import SchemaChart.Script.ColumnClause
import SchemaChart.Script.Comment
import SchemaChart.Script.KeyClause
import SchemaChart.Script.Statement

/-!
# Reading a schema

A table is read clause by clause. Each clause adds a column, adds foreign keys, or is
noted as passed over. Keys are matched with columns when the whole body has been
read, since a key may stand before its column; the last key of a column decides what
the column refers to, but every key is a relation. A script is read statement by
statement, and the first statement for a table counts.
-/

namespace SchemaChart

inductive Entry
  | column (c : Column)
  | keys (ks : List Key)
  | unreadable
  | constraint (kind : ClauseKind)
  deriving DecidableEq, Repr

def Entry.ofClause (clause : Text) : Entry :=
  match ClauseKind.ofClause clause with
  | .column => match Column.read? clause with
    | some c => .column c
    | none => .unreadable
  | .foreignKey => .keys (Key.ofClause clause)
  | kind => .constraint kind

/-- A table of which some clauses have been read. -/
structure Draft where
  table : Table
  relations : List Relation
  keys : List Key
  notices : List Notice

namespace Draft

def start (name : Text) : Draft := ⟨⟨name, []⟩, [], [], []⟩

def note (d : Draft) (n : Notice) : Draft := { d with notices := d.notices ++ [n] }

/-- The relation that a reference in a column clause declares. -/
def inlineRelation (table : Text) (c : Column) : List Relation :=
  match c.references with
  | some target => [.ofKey ⟨table, c.name⟩ target]
  | none => []

def addColumn (d : Draft) (c : Column) : Draft :=
  if (d.table.column? c.name).isSome then d.note (.repeatedColumn d.table.name c.name)
  else { d with
    table := d.table.addColumn c
    relations := d.relations ++ inlineRelation d.table.name c }

def addKeys (d : Draft) (ks : List Key) : Draft :=
  { d with
    keys := d.keys ++ ks
    relations := d.relations ++ ks.map fun k => .ofKey ⟨d.table.name, k.column⟩ k.target }

def addClause (d : Draft) (clause : Text) : Draft :=
  match Entry.ofClause clause with
  | .column c => d.addColumn c
  | .keys ks => d.addKeys ks
  | .unreadable => d.note (.unreadableClause d.table.name clause)
  | .constraint kind => d.note (.ignoredConstraint kind d.table.name)

end Draft

/-- Makes the column of a key refer to its target; a key on a column that the table
does not have changes nothing. -/
def Table.resolve (t : Table) (k : Key) : Except Notice Table :=
  if (t.column? k.column).isSome then .ok (t.setReference k.column k.target)
  else .error (.unknownColumn t.name k.column)

structure TableReading where
  table : Table
  relations : List Relation
  notices : List Notice
  deriving DecidableEq, Repr

def TableReading.resolve (r : TableReading) (k : Key) : TableReading :=
  match r.table.resolve k with
  | .ok table => { r with table := table }
  | .error notice => { r with notices := r.notices ++ [notice] }

def Draft.finish (d : Draft) : TableReading :=
  d.keys.foldl TableReading.resolve ⟨d.table, d.relations, d.notices⟩

def Table.read (name body : Text) : TableReading :=
  ((clauses true body).foldl Draft.addClause (.start name)).finish

structure SchemaReading where
  schema : Schema
  notices : List Notice
  deriving DecidableEq, Repr

namespace SchemaReading

def empty : SchemaReading := ⟨.empty, []⟩

def note (r : SchemaReading) (n : Notice) : SchemaReading :=
  { r with notices := r.notices ++ [n] }

def addTable (r : SchemaReading) (t : TableReading) : SchemaReading where
  schema := {
    tables := r.schema.tables ++ [t.table]
    relations := r.schema.relations ++ t.relations }
  notices := r.notices ++ t.notices

def addFinding (r : SchemaReading) : Finding → SchemaReading
  | .unclosed name => r.note (.unclosedStatement name)
  | .statement s =>
    if (r.schema.table? s.name).isSome then r.note (.repeatedTable s.name)
    else r.addTable (Table.read s.name s.body)

def records (r : SchemaReading) : List Record := r.notices.map Notice.record

end SchemaReading

/-- Reads a script. The empty script has no tables and gives no notices; any other
reading ends with a count of what was found. -/
def Schema.read (script : Text) : SchemaReading :=
  if script.isEmpty then .empty
  else
    let r := (findings (Text.normalize script)).foldl SchemaReading.addFinding .empty
    r.note (.totals r.schema.tables.length r.schema.relations.length)

/-- A script was expected to declare a table and declares none. -/
structure NoTables where
  deriving DecidableEq, Repr

def NoTables.message (_ : NoTables) : Text := "No CREATE TABLE statements found in the SQL."

def SchemaReading.nonempty (r : SchemaReading) : Except NoTables Schema :=
  if r.schema.isEmpty then .error ⟨⟩ else .ok r.schema

end SchemaChart
