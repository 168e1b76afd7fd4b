import SchemaChart.Text.Basic

/-!
# Schemas

What a script declares: tables with their columns, and relations between columns.
Tables and columns keep the order of declaration. A look-up by name takes the first
match, and so does a change to a column; nothing here keeps names apart.
-/

namespace SchemaChart

/-- A column of a table, both by name. -/
structure ColumnRef where
  table : Text
  column : Text
  deriving DecidableEq, Repr

structure Column where
  name : Text
  type : Text
  primaryKey : Bool
  nullable : Bool
  references : Option ColumnRef
  deriving DecidableEq, Repr

structure Table where
  name : Text
  columns : List Column
  deriving DecidableEq, Repr

inductive Cardinality
  | oneToOne
  | oneToMany
  | manyToMany
  deriving DecidableEq, Repr

structure Relation where
  source : ColumnRef
  target : ColumnRef
  cardinality : Cardinality
  deriving DecidableEq, Repr

structure Schema where
  tables : List Table
  relations : List Relation
  deriving DecidableEq, Repr

/-- Applies a change to the first element that satisfies `p`. -/
def updateFirst (p : α → Bool) (change : α → α) : List α → List α
  | [] => []
  | a :: rest => if p a then change a :: rest else a :: updateFirst p change rest

def ColumnRef.text (ref : ColumnRef) : Text := ref.table ++ "." ++ ref.column

def Column.isForeignKey (c : Column) : Bool := c.references.isSome

namespace Table

def column? (t : Table) (name : Text) : Option Column := t.columns.find? (·.name = name)

def addColumn (t : Table) (c : Column) : Table := { t with columns := t.columns ++ [c] }

def setReference (t : Table) (name : Text) (target : ColumnRef) : Table :=
  { t with columns :=
      updateFirst (·.name = name) (fun c => { c with references := some target }) t.columns }

theorem columns_addColumn (t : Table) (c : Column) :
    (t.addColumn c).columns = t.columns ++ [c] := rfl

end Table

namespace Cardinality

def label : Cardinality → Text
  | .oneToOne => "one-to-one"
  | .oneToMany => "one-to-many"
  | .manyToMany => "many-to-many"

def ofLabel? (s : Text) : Option Cardinality :=
  [oneToOne, oneToMany, manyToMany].find? (·.label = s)

theorem ofLabel?_label (c : Cardinality) : ofLabel? c.label = some c := by
  cases c <;> decide

end Cardinality

namespace Schema

def empty : Schema := ⟨[], []⟩

def isEmpty (s : Schema) : Bool := s.tables.isEmpty

def table? (s : Schema) (name : Text) : Option Table := s.tables.find? (·.name = name)

def hasColumn (s : Schema) (table column : Text) : Bool :=
  (s.table? table).any fun t => (t.column? column).isSome

def addTable (s : Schema) (t : Table) : Schema := { s with tables := s.tables ++ [t] }

def addRelation (s : Schema) (r : Relation) : Schema :=
  { s with relations := s.relations ++ [r] }

/-- Replaces the first table of the given name by its changed form. -/
def updateTable (s : Schema) (name : Text) (change : Table → Table) : Schema :=
  { s with tables := updateFirst (·.name = name) change s.tables }

end Schema

/-- A foreign key is recorded as a relation with many rows on its own side. -/
def Relation.ofKey (source target : ColumnRef) : Relation := ⟨source, target, .oneToMany⟩

end SchemaChart
