import SchemaChart.Schema.Basic

/-!
# Summaries

A listing of a schema for people: the tables with their columns, then the relations.
-/

namespace SchemaChart

def Column.flags (c : Column) : List Text :=
  let key : List Text := if c.primaryKey then ["PK"] else []
  let reference : List Text := match c.references with
    | some target => ["FK -> " ++ target.text]
    | none => []
  let required : List Text := if c.nullable then [] else ["NOT NULL"]
  key ++ reference ++ required

def Column.summary (c : Column) : Text :=
  let flags : Text :=
    if c.flags.isEmpty then [] else " [" ++ Text.joinWith ", " c.flags ++ "]"
  "       " ++ c.name ++ ": " ++ c.type ++ flags

def Table.summary (t : Table) : List Text :=
  ("   - " ++ t.name) :: t.columns.map Column.summary

def Relation.summary (r : Relation) : Text :=
  "   - " ++ r.source.text ++ " -> " ++ r.target.text ++ " (" ++ r.cardinality.label ++ ")"

def Schema.summaryLines (s : Schema) : List Text :=
  let tables : Text := "✅ Found " ++ Text.ofNat s.tables.length ++ " table(s):"
  let relations : Text := "\n🔗 " ++ Text.ofNat s.relations.length ++ " relation(s):"
  tables :: s.tables.flatMap Table.summary ++ relations :: s.relations.map Relation.summary

def Schema.summary (s : Schema) : Text := s.summaryLines.flatMap (· ++ "\n")

end SchemaChart
