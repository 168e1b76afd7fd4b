import SchemaChart.Json.Basic
import SchemaChart.Schema.Reading

/-!
# Schemas as JSON

Names and types are texts, the kinds of a column are flags. A column that refers to
nothing has no member for it. A script may come as a JSON value too.
-/

namespace SchemaChart

def ColumnRef.toJson (ref : ColumnRef) : Json :=
  .object [("table", .string ref.table), ("column", .string ref.column)]

def Column.referenceMember (c : Column) : List (Text × Json) :=
  match c.references with
  | some target => [("references", target.toJson)]
  | none => []

def Column.toJson (c : Column) : Json :=
  .object (("name", .string c.name) :: ("type", .string c.type) ::
    ("isPrimaryKey", .bool c.primaryKey) :: ("isForeignKey", .bool c.isForeignKey) ::
    ("isNullable", .bool c.nullable) :: c.referenceMember)

def Table.toJson (t : Table) : Json :=
  .object [("name", .string t.name), ("columns", .array (t.columns.map Column.toJson))]

def Relation.toJson (r : Relation) : Json :=
  .object [("from", r.source.toJson), ("to", r.target.toJson),
    ("type", .string r.cardinality.label)]

def Schema.toJson (s : Schema) : Json :=
  .object [("tables", .array (s.tables.map Table.toJson)),
    ("relations", .array (s.relations.map Relation.toJson))]

/-- Reads a script given as a value; one that is no text has no tables. -/
def SchemaReading.ofJson : Json → SchemaReading
  | .string script => Schema.read script
  | _ => .empty

end SchemaChart
