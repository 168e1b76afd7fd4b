import SchemaChart.Diagram.Chart
import SchemaChart.Proofs.Figures
import SchemaChart.Proofs.RelationNames

/-!
# What a chart shows

The figures of a chart, read from its DOT text, are those of the tables and behind them
those of the relations, relation by relation (`figures_chart`). A placeholder stands with
the first relation that refers to its table, so every edge has a node at either end
(`chart_connected`).
-/

namespace SchemaChart

open Text
open Dot (Figure Token Attributes Item ReadAs IsEnd token figures lines)

/-- The name that the ellipse of a column goes by. -/
def ellipseName (table column : Text) : Text := table ++ "_" ++ column

/-- A primary key is told from a foreign key, and a column that is both is shown as the former. -/
def ellipseAttributes (c : Column) : Attributes :=
  match c.primaryKey, c.references with
  | true, _ =>
    [("label", c.name ++ "\\n[PK]"), ("fillcolor", "lightyellow"), ("fontcolor", "red"),
      ("penwidth", "2"), ("shape", "ellipse"), ("style", "filled")]
  | false, some _ =>
    [("label", c.name ++ "\\n[FK]"), ("fillcolor", "white"), ("fontcolor", "blue"),
      ("shape", "ellipse"), ("style", "filled")]
  | false, none =>
    [("label", c.name), ("fillcolor", "white"), ("shape", "ellipse"), ("style", "filled")]

/-- The ellipse of a column and the edge that ties it to its table. -/
def Column.figures (table : Text) (c : Column) : List Figure :=
  [.node (token (ellipseName table c.name)) (some (ellipseAttributes c)),
    .edge (token table) (token (ellipseName table c.name)) (some [("dir", "none")])]

def boxAttributes (table : Text) : Attributes :=
  [("label", table), ("fillcolor", "lightblue"), ("shape", "box"), ("style", "filled")]

/-- The box of a table, and what its columns are drawn with. -/
def Table.figures (t : Table) : List Figure :=
  .node (token t.name) (some (boxAttributes t.name)) :: t.columns.flatMap (Column.figures t.name)

/-- The dashed box of a table that is not declared. -/
def placeholder (table : Text) : Figure :=
  .node (token table) (some [("label", table ++ "\\n(not declared)"), ("fontcolor", "gray40"),
    ("shape", "box"), ("style", "dashed")])

/-- The table is not declared, and no relation before refers to it. -/
def NewlyMissing (s : Schema) (before : List Relation) (table : Text) : Prop :=
  s.table? table = none ∧ table ∉ before.map (·.target.table)

instance (s : Schema) (before : List Relation) (table : Text) :
    Decidable (NewlyMissing s before table) :=
  inferInstanceAs (Decidable (_ ∧ _))

def placeholderFigures (s : Schema) (before : List Relation) (table : Text) : List Figure :=
  if NewlyMissing s before table then [placeholder table] else []

def edgeAttributes (label : Text) : Attributes := [("label", label), ("dir", "none")]

/-- The name that the diamond of a relation goes by. -/
def diamondName (index : Nat) : Text := "rel_" ++ ofNat index

/-- The diamond of a relation and its two edges, with as much of their attributes as can be
read. -/
def Relation.figures (index : Nat) (r : Relation) : List Figure :=
  let diamond := token (diamondName index)
  [.node diamond (some [("label", r.cardinality.label), ("fillcolor", "lightgreen"),
      ("fontsize", "9"), ("height", "0.6"), ("shape", "diamond"), ("style", "filled"),
      ("width", "0.8")]),
    .edge (token r.source.table) diamond (edgeAttributes r.source.column).read?,
    .edge diamond (token r.target.table) (edgeAttributes ('→' :: r.target.column)).read?]

def relationFigures (s : Schema) (before : List Relation) : List Relation → List Figure
  | [] => []
  | r :: rest =>
    placeholderFigures s before r.target.table ++ r.figures before.length ++
      relationFigures s (before ++ [r]) rest

-- ---------------------------------------------------------------------------
-- The items of a chart
-- ---------------------------------------------------------------------------

namespace Chart

def placeholderStatements (s : Schema) (before : List Relation) (table : Text) :
    List Dot.Statement :=
  if NewlyMissing s before table then (placeholderItem table).statements else []

def relationStatements (s : Schema) (before : List Relation) : List Relation → List Dot.Statement
  | [] => []
  | r :: rest =>
    placeholderStatements s before r.target.table ++
      (relationItems before.length r).flatMap Item.statements ++
      relationStatements s (before ++ [r]) rest

/-- The placeholders of a chart are those of the relations drawn in it. -/
def Placed (s : Schema) (before : List Relation) (c : Chart) : Prop :=
  ∀ w, w ∈ c.placeholders ↔ s.table? w = none ∧ w ∈ before.map (·.target.table)

variable {s : Schema} {before : List Relation} {c : Chart}

theorem foldl_addItem (items : List Item) (c : Chart) :
    items.foldl addItem c = { c with graph := ⟨c.graph.name, c.graph.items ++ items⟩ } := by
  induction items generalizing c with
  | nil => simp
  | cons item items ih => simp [ih, addItem]

theorem addTables_graph (c : Chart) (s : Schema) :
    c.addTables s =
      { c with graph := ⟨c.graph.name, c.graph.items ++ s.tables.map tableItem⟩ } := by
  rw [addTables, ← foldl_addItem, List.foldl_map]

/-- A relation is drawn behind its placeholder, if it needs one. -/
theorem Placed.addRelation (h : c.Placed s before) (r : Relation) :
    (c.addRelation s before.length r).1.graph = ⟨c.graph.name, c.graph.items ++
        ((placeholderStatements s before r.target.table).map .statement ++
          relationItems before.length r)⟩ ∧
      (c.addRelation s before.length r).1.Placed s (before ++ [r]) := by
  let known := (s.table? r.target.table).isSome || c.placeholders.contains r.target.table
  have known_iff : known = true ↔ ¬NewlyMissing s before r.target.table := by
    rw [Bool.or_eq_true, List.contains_iff_mem, h, Option.isSome_iff_ne_none, NewlyMissing]
    tauto
  have seen (w : Text) : w ∈ (before ++ [r]).map (·.target.table) ↔
      w ∈ before.map (·.target.table) ∨ w = r.target.table := by simp
  rw [Chart.addRelation, addPlaceholder, placeholderStatements]
  by_cases skip : known = true
  · rw [if_pos skip, if_neg (known_iff.mp skip)]
    simp only [foldl_addItem, List.map_nil, List.nil_append]
    refine ⟨trivial, fun w => (h w).trans (and_congr_right fun missing => ?_)⟩
    rw [seen, or_iff_left_of_imp]
    rintro rfl
    by_contra new
    exact known_iff.mp skip ⟨missing, new⟩
  · have missing := not_not.mp (mt known_iff.mpr skip)
    rw [if_neg skip, if_pos missing]
    simp only [foldl_addItem, addItem, List.append_assoc]
    refine ⟨rfl, fun w => ?_⟩
    have grown : w ∈ c.placeholders ++ [r.target.table] ↔
        w ∈ c.placeholders ∨ w = r.target.table := by simp
    rw [seen]
    refine grown.trans ?_
    by_cases same : w = r.target.table
    · simp [same, missing.1]
    · simp [same, h w]

theorem Placed.addRelationsFrom (h : c.Placed s before) (rs : List Relation) :
    (addRelationsFrom s before.length c rs).1.graph =
      ⟨c.graph.name, c.graph.items ++ (relationStatements s before rs).map .statement⟩ := by
  induction rs generalizing c before with
  | nil => simp [Chart.addRelationsFrom, relationStatements]
  | cons r rs ih =>
    obtain ⟨graph, placed⟩ := h.addRelation r
    have rest := ih placed
    rw [List.length_append, List.length_singleton, graph] at rest
    simp only [Chart.addRelationsFrom, rest, relationStatements, List.map_append, List.append_assoc]
    rfl

theorem ofSchema_graph (name : Text) (s : Schema) :
    (ofSchema name s).1.graph =
      ⟨name, graphSettings ++ s.tables.map tableItem ++
        (relationStatements s [] s.relations).map .statement⟩ := by
  have placed : ((new name "png").addTables s).Placed s [] := by
    simp [Placed, addTables_graph, new]
  have drawn := placed.addRelationsFrom s.relations
  rw [List.length_nil] at drawn
  rw [ofSchema, addRelations, drawn]
  simp [addTables_graph, new]

-- ---------------------------------------------------------------------------
-- Names of nodes and texts of attributes
-- ---------------------------------------------------------------------------

theorem isWord_append {v w : Text} (hv : Text.IsWord v) (hw : Text.IsWord w) :
    Text.IsWord (v ++ w) :=
  ⟨by simp [hv.1], List.forall_mem_append.mpr ⟨hv.2, hw.2⟩⟩

theorem isWord_ellipseName {table column : Text} (ht : Text.IsWord table)
    (hc : Text.IsWord column) : Text.IsWord (ellipseName table column) :=
  isWord_append (isWord_append ht (by decide)) hc

theorem isWord_ofNat (n : Nat) : Text.IsWord (ofNat n) := by
  refine ⟨Nat.toDigits_ne_nil, fun c mem => isWord_of_isAlphanum ?_⟩
  simp [Char.isAlphanum, Nat.isDigit_of_mem_toDigits (by decide) (by decide) mem]

theorem isWord_diamondName (index : Nat) : Text.IsWord (diamondName index) :=
  isWord_append (by decide) (isWord_ofNat index)

theorem isEnd_of_isWord {w : Text} (h : Text.IsWord w) : IsEnd w :=
  ⟨Dot.legible_of_isWord h, h.notMem (by decide)⟩

theorem unquoted_append {w s : Text} (hw : Text.IsWord w) (hs : Dot.Unquoted s) :
    Dot.Unquoted (w ++ s) := by
  obtain ⟨line, quote, first, last⟩ := Dot.unquoted_of_isWord hw
  obtain ⟨line', quote', -, last'⟩ := hs
  refine ⟨by simp [line, line'], by simp [quote, quote'], ?_, ?_⟩
  · obtain ⟨c, w, rfl⟩ := List.exists_cons_of_ne_nil hw.1
    exact first
  · rw [List.getLast?_append]
    cases ends : s.getLast? with
    | none => simpa using last
    | some d => simpa [ends] using last'

theorem legible_of_unquoted {a : Attributes} (h : ∀ p ∈ a, Dot.Unquoted p.1 ∧ Dot.Unquoted p.2) :
    a.Legible :=
  fun p mem => ⟨(h p mem).1.legible, (h p mem).2.legible⟩

theorem labelled_legible {label : Text} {more : Attributes} (hl : Dot.Unquoted label)
    (hm : ∀ p ∈ more, Dot.Unquoted p.1 ∧ Dot.Unquoted p.2) :
    Attributes.Legible (("label", label) :: more) :=
  legible_of_unquoted (List.forall_mem_cons.mpr
    ⟨⟨(by decide : Dot.Unquoted "label"), hl⟩, hm⟩)

theorem columnAttributes_eq (c : Column) : columnAttributes c = ellipseAttributes c := by
  rw [columnAttributes, ellipseAttributes, Column.isForeignKey]
  cases c.primaryKey <;> cases c.references <;> rfl

theorem ellipseAttributes_legible {c : Column} (h : Text.IsWord c.name) :
    (ellipseAttributes c).Legible := by
  unfold ellipseAttributes
  split
  · exact labelled_legible (unquoted_append h (by decide)) (by decide)
  · exact labelled_legible (unquoted_append h (by decide)) (by decide)
  · exact labelled_legible (Dot.unquoted_of_isWord h) (by decide)

theorem ellipseAttributes_ne_nil (c : Column) : ellipseAttributes c ≠ [] := by
  unfold ellipseAttributes
  split <;> simp

theorem legible_dir : Attributes.Legible [("dir", "none")] := legible_of_unquoted (by decide)

-- ---------------------------------------------------------------------------
-- What is read from the items
-- ---------------------------------------------------------------------------

theorem graphSettings_readable : ∀ item ∈ graphSettings, item.Readable := by
  have setting : Attributes.Legible [("rankdir", "TB")] := legible_of_unquoted (by decide)
  have node : Attributes.Legible [("fontname", "Arial"), ("fontsize", "10")] :=
    legible_of_unquoted (by decide)
  have edge : Attributes.Legible [("arrowsize", "0.7"), ("penwidth", "1.2")] :=
    legible_of_unquoted (by decide)
  simp only [graphSettings, List.forall_mem_cons, List.not_mem_nil, false_implies, implies_true,
    and_true]
  refine ⟨?_, ?_, ?_⟩
  · exact (Dot.Statement.Readable.setting setting.oneLine (setting _ List.mem_cons_self).1).item
  · exact (Dot.Statement.Readable.defaults node.oneLine (by simp) (by decide) (by decide)).item
  · exact (Dot.Statement.Readable.defaults edge.oneLine (by simp) (by decide) (by decide)).item

theorem columnStatements_readAs {table : Text} {column : Column} (ht : Text.IsWord table)
    (hc : Text.IsWord column.name) :
    ReadAs (columnStatements table column) (column.figures table) := by
  have named : columnNode table column.name = ellipseName table column.name := rfl
  have ends := isEnd_of_isWord (isWord_ellipseName ht hc)
  have edge := ReadAs.edge (isEnd_of_isWord ht) ends (by simp) legible_dir.oneLine .nil
  rw [Attributes.read?_of_legible (by simp) legible_dir] at edge
  rw [columnStatements, named, columnAttributes_eq]
  exact .node ends.legible (ellipseAttributes_ne_nil column) (ellipseAttributes_legible hc) edge

theorem tableItem_read {t : Table} (ht : Text.IsWord t.name)
    (hc : ∀ c ∈ t.columns, Text.IsWord c.name) :
    (tableItem t).Readable ∧ (tableItem t).figures = t.figures := by
  have box : (boxAttributes t.name).Legible :=
    labelled_legible (Dot.unquoted_of_isWord ht) (by decide)
  have drawn := ReadAs.node (Dot.legible_of_isWord ht) (by simp [boxAttributes]) box
    (.flatMap fun c mem => columnStatements_readAs ht (hc c mem))
  have frame := (Dot.legible_of_isWord (isWord_append (v := "cluster_") (by decide) ht)).line
  have invisible : Attributes.Legible [("label", ""), ("style", "invis")] :=
    labelled_legible (by decide) (by decide)
  have setting : (Dot.Statement.setting [("label", ""), ("style", "invis")]).Readable :=
    .setting invisible.oneLine (Dot.legible_of_isWord (by decide))
  refine ⟨⟨?frame, List.forall_mem_cons.mpr ⟨setting, drawn.readable⟩⟩, drawn.filterMap⟩
  rintro name statements same
  cases same
  exact frame

theorem placeholderStatements_readAs {table : Text} (h : Text.IsWord table) (s : Schema)
    (before : List Relation) :
    ReadAs (placeholderStatements s before table) (placeholderFigures s before table) := by
  rw [placeholderStatements, placeholderFigures]
  split
  · exact .node (Dot.legible_of_isWord h) (by simp)
      (labelled_legible (unquoted_append h (by decide)) (by decide)) .nil
  · exact .nil

theorem relationItems_readAs {r : Relation} (hs : Text.IsWord r.source.table) (h : r.Drawable)
    (index : Nat) : ReadAs ((relationItems index r).flatMap Item.statements) (r.figures index) := by
  have named : relationNode index = diamondName index := rfl
  have diamond := isEnd_of_isWord (isWord_diamondName index)
  have line {label : Text} (hl : '\n' ∉ label) :
      (edgeAttributes label).OneLine :=
    List.forall_mem_cons.mpr ⟨⟨(by decide : '\n' ∉ "label".toList), hl⟩, legible_dir.oneLine⟩
  have cardinality : Dot.Unquoted r.cardinality.label := by
    cases r.cardinality <;> decide
  have arrow : '\n' ∉ '→' :: r.target.column := by simp [h.target_line]
  rw [relationItems, named]
  refine .node diamond.legible (by simp) (labelled_legible cardinality (by decide)) ?_
  refine .edge (isEnd_of_isWord hs) diamond (by simp) (line h.source_line) ?_
  exact .edge diamond (isEnd_of_isWord h.target) (by simp) (line arrow) .nil

theorem relationStatements_readAs {rs : List Relation} (s : Schema) (before : List Relation)
    (h : ∀ r ∈ rs, Text.IsWord r.source.table ∧ r.Drawable) :
    ReadAs (relationStatements s before rs) (relationFigures s before rs) := by
  induction rs generalizing before with
  | nil => exact .nil
  | cons r rs ih =>
    obtain ⟨⟨word, drawable⟩, others⟩ := List.forall_mem_cons.mp h
    exact ((placeholderStatements_readAs drawable.target s before).append
      (relationItems_readAs word drawable _)).append (ih _ others)

end Chart

theorem Schema.Drawable.source_isWord {s : Schema} (h : s.Drawable) {r : Relation}
    (mem : r ∈ s.relations) : Text.IsWord r.source.table := by
  obtain ⟨t, declared, same⟩ := h.consistent.sources r mem
  exact same ▸ h.consistent.table_words t declared

theorem Schema.Drawable.relations_readAs {s : Schema} (h : s.Drawable) :
    ReadAs (Chart.relationStatements s [] s.relations) (relationFigures s [] s.relations) :=
  Chart.relationStatements_readAs s [] fun r mem => ⟨h.source_isWord mem, h.relations r mem⟩

theorem mem_tableFigures {t : Table} {f : Figure} : f ∈ t.figures ↔
    f = .node (token t.name) (some (boxAttributes t.name)) ∨ ∃ c ∈ t.columns,
      f = .node (token (ellipseName t.name c.name)) (some (ellipseAttributes c)) ∨
        f = .edge (token t.name) (token (ellipseName t.name c.name))
          (some [("dir".toList, "none".toList)]) := by
  simp [Table.figures, Column.figures]

/-- What no figure of a table gives is not got from any number of tables. -/
theorem filterMap_tables {g : Figure → Option α} (none : ∀ t : Table, ∀ f ∈ t.figures, g f = none)
    (ts : List Table) : (ts.flatMap Table.figures).filterMap g = [] := by
  rw [List.filterMap_eq_nil_iff]
  intro f mem
  obtain ⟨t, -, mem⟩ := List.mem_flatMap.mp mem
  exact none t f mem

/-- The figures of a chart are those of the tables and those of the relations. -/
theorem figures_chart {s : Schema} (h : s.Drawable) {name : Text} (line : '\n' ∉ name) :
    figures (Chart.ofSchema name s).1.source =
      s.tables.flatMap Table.figures ++ relationFigures s [] s.relations := by
  have tables : ∀ t ∈ s.tables,
      (Chart.tableItem t).Readable ∧ (Chart.tableItem t).figures = t.figures := fun t mem =>
    Chart.tableItem_read (h.consistent.table_words t mem) (h.consistent.column_words t mem)
  have relations := h.relations_readAs
  rw [Chart.source, Chart.ofSchema_graph, Dot.figures_source line, List.flatMap_append,
    List.flatMap_append, Dot.figures_statements, relations.filterMap, List.flatMap_map]
  · have read : s.tables.flatMap (fun t => (Chart.tableItem t).figures) =
        s.tables.flatMap Table.figures := List.flatMap_congr fun t mem => (tables t mem).2
    rw [read]
    rfl
  · refine List.forall_mem_append.mpr ⟨List.forall_mem_append.mpr ⟨?_, ?_⟩, ?_⟩
    · exact Chart.graphSettings_readable
    · intro item mem
      obtain ⟨t, declared, rfl⟩ := List.mem_map.mp mem
      exact (tables t declared).1
    · intro item mem
      obtain ⟨st, drawn, rfl⟩ := List.mem_map.mp mem
      exact (relations.readable st drawn).item

end SchemaChart
