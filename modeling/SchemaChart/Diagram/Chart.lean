import SchemaChart.Diagram.Format
import SchemaChart.Diagram.Graph
import SchemaChart.Log
import SchemaChart.Schema.Basic

/-!
# Entity-relationship diagrams

A table is a box in an invisible cluster together with its columns, which are ellipses
that show whether the column is a primary or a foreign key. A relation is a diamond
between the table it starts from and the table it refers to. A table that is referred
to and not declared gets one dashed box as a placeholder, however often a chart is
drawn on.
-/

namespace SchemaChart

/-- A diagram under way: the graph so far and the placeholders drawn in it. -/
structure Chart where
  graph : Dot.Graph
  format : Text
  placeholders : List Text
  deriving DecidableEq, Repr

/-- Told when a placeholder is drawn for the named table. -/
structure PlaceholderNotice where
  table : Text
  deriving DecidableEq, Repr

def PlaceholderNotice.record (n : PlaceholderNotice) : Record :=
  ⟨.debug, .diagram, "Relation target " ++ n.table ++ " is not declared, drawing placeholder"⟩

namespace Chart

open Dot (Statement Item Attributes)

def graphSettings : List Item :=
  [.statement (.setting [("rankdir", "TB")]),
    .statement (.defaults "node" [("fontname", "Arial"), ("fontsize", "10")]),
    .statement (.defaults "edge" [("arrowsize", "0.7"), ("penwidth", "1.2")])]

def new (name format : Text) : Chart := ⟨⟨name, graphSettings⟩, format, []⟩

def start (name format : Text) : Except Dot.UnknownFormat Chart :=
  (Dot.formatNamed format).map (new name)

def source (c : Chart) : Text := c.graph.source

def addItem (c : Chart) (item : Item) : Chart :=
  { c with graph := { c.graph with items := c.graph.items ++ [item] } }

def columnNode (table column : Text) : Text := table ++ "_" ++ column

def columnAttributes (c : Column) : Attributes :=
  if c.primaryKey then
    [("label", c.name ++ "\\n[PK]"), ("fillcolor", "lightyellow"), ("fontcolor", "red"),
      ("penwidth", "2"), ("shape", "ellipse"), ("style", "filled")]
  else if c.isForeignKey then
    [("label", c.name ++ "\\n[FK]"), ("fillcolor", "white"), ("fontcolor", "blue"),
      ("shape", "ellipse"), ("style", "filled")]
  else
    [("label", c.name), ("fillcolor", "white"), ("shape", "ellipse"), ("style", "filled")]

def columnStatements (table : Text) (c : Column) : List Statement :=
  [.node (columnNode table c.name) (columnAttributes c),
    .edge table (columnNode table c.name) [("dir", "none")]]

def tableItem (t : Table) : Item :=
  .cluster ("cluster_" ++ t.name)
    (.setting [("label", ""), ("style", "invis")] ::
      .node t.name [("label", t.name), ("fillcolor", "lightblue"), ("shape", "box"),
        ("style", "filled")] ::
      t.columns.flatMap (columnStatements t.name))

def addTables (c : Chart) (s : Schema) : Chart := s.tables.foldl (·.addItem <| tableItem ·) c

def placeholderItem (table : Text) : Item :=
  .statement (.node table [("label", table ++ "\\n(not declared)"), ("fontcolor", "gray40"),
    ("shape", "box"), ("style", "dashed")])

def relationNode (index : Nat) : Text := "rel_" ++ Text.ofNat index

def relationItems (index : Nat) (r : Relation) : List Item :=
  [.statement (.node (relationNode index) [("label", r.cardinality.label),
      ("fillcolor", "lightgreen"), ("fontsize", "9"), ("height", "0.6"), ("shape", "diamond"),
      ("style", "filled"), ("width", "0.8")]),
    .statement (.edge r.source.table (relationNode index)
      [("label", r.source.column), ("dir", "none")]),
    .statement (.edge (relationNode index) r.target.table
      [("label", "→" ++ r.target.column), ("dir", "none")])]

/-- Draws a placeholder for a table unless it is declared or has one already. -/
def addPlaceholder (c : Chart) (s : Schema) (table : Text) : Chart × List PlaceholderNotice :=
  if (s.table? table).isSome || c.placeholders.contains table then (c, [])
  else
    ({ c.addItem (placeholderItem table) with placeholders := c.placeholders ++ [table] },
      [⟨table⟩])

def addRelation (c : Chart) (s : Schema) (index : Nat) (r : Relation) :
    Chart × List PlaceholderNotice :=
  let (c, notices) := c.addPlaceholder s r.target.table
  ((relationItems index r).foldl addItem c, notices)

/-- Adds relations, numbered from `index` on. -/
def addRelationsFrom (s : Schema) (index : Nat) (c : Chart) :
    List Relation → Chart × List PlaceholderNotice
  | [] => (c, [])
  | r :: rest =>
    let (c, notices) := c.addRelation s index r
    let (c, more) := addRelationsFrom s (index + 1) c rest
    (c, notices ++ more)

def addRelations (c : Chart) (s : Schema) : Chart × List PlaceholderNotice :=
  addRelationsFrom s 0 c s.relations

def ofSchema (name : Text) (s : Schema) : Chart × List PlaceholderNotice :=
  ((new name "png").addTables s).addRelations s

end Chart

/-- What a drawing program is asked for: to draw a source in a format to a path, to
remove what it needed on the way, and perhaps to open the picture. -/
structure Drawing where
  path : Text
  view : Bool
  cleanup : Bool
  format : Text
  source : Text
  deriving DecidableEq, Repr

def Drawing.picture (d : Drawing) : Text := d.path ++ "." ++ d.format

/-- A file in a directory; a file with a path from the root stands for itself. -/
def joinPath (directory file : Text) : Text :=
  if file.head? = some '/' then file
  else if directory.isEmpty || directory.getLast? = some '/' then directory ++ file
  else directory ++ "/" ++ file

def Chart.drawing (c : Chart) (file directory : Text) (view : Bool) : Drawing :=
  ⟨joinPath directory file, view, true, c.format, c.source⟩

end SchemaChart
