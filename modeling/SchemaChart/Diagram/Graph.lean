import SchemaChart.Diagram.Identifier

/-!
# Graphs in the DOT language

A graph is a list of statements, some of them gathered in clusters. Every statement is
a line of its own, indented with a tab for each level. Attributes are written in the
order given.
-/

namespace SchemaChart.Dot

abbrev Attributes := List (Text × Text)

inductive Statement
  | setting (attributes : Attributes)
  | defaults (kind : Text) (attributes : Attributes)
  | node (name : Text) (attributes : Attributes)
  | edge (tail head : Text) (attributes : Attributes)
  deriving DecidableEq, Repr

inductive Item
  | statement (s : Statement)
  | cluster (name : Text) (statements : List Statement)
  deriving DecidableEq, Repr

/-- A directed graph; the name may be empty. -/
structure Graph where
  name : Text
  items : List Item
  deriving DecidableEq, Repr

def Attributes.text (attributes : Attributes) : Text :=
  Text.joinWith " " (attributes.map fun (name, value) =>
    identifier name ++ "=" ++ identifier value)

def Attributes.bracketed (attributes : Attributes) : Text :=
  if attributes.isEmpty then [] else " [" ++ attributes.text ++ "]"

def Statement.text : Statement → Text
  | .setting attributes => attributes.text
  | .defaults kind attributes => kind ++ attributes.bracketed
  | .node name attributes => identifier name ++ attributes.bracketed
  | .edge tail head attributes =>
    edgeEnd tail ++ " -> " ++ edgeEnd head ++ attributes.bracketed

/-- A line and the tabs in front of it. -/
structure Line where
  depth : Nat
  text : Text

def Item.lines : Item → List Line
  | .statement s => [⟨1, s.text⟩]
  | .cluster name statements =>
    ⟨1, "subgraph " ++ identifier name ++ " \x7b"⟩ ::
      statements.map (⟨2, ·.text⟩) ++ [⟨1, "\x7d"⟩]

def Graph.heading (g : Graph) : Text :=
  if g.name.isEmpty then "digraph " else "digraph " ++ identifier g.name ++ " "

def Graph.lines (g : Graph) : List Line :=
  ⟨0, g.heading ++ "\x7b"⟩ :: g.items.flatMap Item.lines ++ [⟨0, "\x7d"⟩]

def Line.written (l : Line) : Text := List.replicate l.depth '\t' ++ l.text ++ "\n"

def Graph.source (g : Graph) : Text := g.lines.flatMap Line.written

end SchemaChart.Dot
