import SchemaChart.Schema.Basic

/-!
# One-line descriptions

Short texts that name a part of a schema and count what it holds.
-/

namespace SchemaChart

def Column.describe (c : Column) : Text :=
  "Column(name=" ++ c.name ++ (if c.primaryKey then " [PK]" else "") ++ ", type=" ++ c.type ++
    (match c.references with
      | some target => " -> " ++ target.text
      | none => []) ++ ")"

def Table.describe (t : Table) : Text :=
  "Table(name=" ++ t.name ++ ", columns=" ++ Text.ofNat t.columns.length ++ ")"

def Relation.describe (r : Relation) : Text :=
  "Relation(" ++ r.source.text ++ " -> " ++ r.target.text ++ ", type=" ++ r.cardinality.label ++
    ")"

def Schema.describe (s : Schema) : Text :=
  "Schema(tables=" ++ Text.ofNat s.tables.length ++ ", relations=" ++
    Text.ofNat s.relations.length ++ ")"

end SchemaChart
