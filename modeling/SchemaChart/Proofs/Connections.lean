import SchemaChart.Proofs.Drawing

/-!
# No edge without its nodes

Both ends of every edge of a chart are nodes of it (`chart_connected`): a table that a
relation starts from is declared, and one that it refers to is declared or has a dashed
box, the only one of its name.
-/

namespace SchemaChart

open Text
open Dot (Figure Token Attributes token figures lines)

namespace Dot

def Figure.node? : Figure → Option Token
  | .node name _ => some name
  | .edge .. => none

/-- The nodes that a text states, one for each statement. -/
def nodes (text : Text) : List Token := (figures text).filterMap Figure.node?

/-- The name of a node that is drawn with dashes. -/
def Figure.dashed? : Figure → Option Text
  | .node name (some attributes) =>
    if attributes.lookup "style".toList = some "dashed".toList then some name.value else none
  | _ => none

def dashed (text : Text) : List Text := (figures text).filterMap Figure.dashed?

end Dot

open Dot (nodes dashed)

/-- The tables that relations need a placeholder for, behind other relations. -/
def missingTables (s : Schema) (before : List Relation) : List Relation → List Text
  | [] => []
  | r :: rest =>
    if NewlyMissing s before r.target.table then
      r.target.table :: missingTables s (before ++ [r]) rest
    else missingTables s (before ++ [r]) rest

variable {s : Schema} {before rs : List Relation} {w : Text}

-- ---------------------------------------------------------------------------
-- Placeholders
-- ---------------------------------------------------------------------------

theorem mem_missingTables : w ∈ missingTables s before rs ↔
    NewlyMissing s before w ∧ w ∈ rs.map (·.target.table) := by
  induction rs generalizing before with
  | nil => simp [missingTables]
  | cons r rs ih =>
    have grown : NewlyMissing s (before ++ [r]) w ↔
        NewlyMissing s before w ∧ w ≠ r.target.table := by
      simp [NewlyMissing, and_assoc]
    rw [missingTables, List.map_cons, List.mem_cons]
    split
    · next new =>
      rw [List.mem_cons, ih, grown]
      by_cases same : w = r.target.table
      · simp [same, new]
      · simp [same]
    · next old =>
      rw [ih, grown]
      by_cases same : w = r.target.table
      · simp [same, old]
      · simp [same]

theorem nodup_missingTables (s : Schema) (before rs : List Relation) :
    (missingTables s before rs).Nodup := by
  induction rs generalizing before with
  | nil => exact List.nodup_nil
  | cons r rs ih =>
    rw [missingTables]
    split
    · refine List.nodup_cons.mpr ⟨fun again => ?_, ih _⟩
      exact (mem_missingTables.mp again).1.2 (by simp)
    · exact ih _

theorem dashed_placeholder (h : Text.IsWord w) : (placeholder w).dashed? = some w :=
  congrArg some (Dot.legible_of_isWord h).value_token

theorem dashed_relation (index : Nat) (r : Relation) :
    (r.figures index).filterMap Figure.dashed? = [] := rfl

theorem dashed_relationFigures (h : ∀ r ∈ rs, Text.IsWord r.target.table) :
    (relationFigures s before rs).filterMap Figure.dashed? = missingTables s before rs := by
  induction rs generalizing before with
  | nil => rfl
  | cons r rs ih =>
    obtain ⟨word, words⟩ := List.forall_mem_cons.mp h
    rw [relationFigures, missingTables, placeholderFigures, List.filterMap_append,
      List.filterMap_append, dashed_relation, List.append_nil, ih words]
    split
    · rw [List.filterMap_cons_some (dashed_placeholder word)]
      rfl
    · rfl

theorem dashed_tables (ts : List Table) :
    (ts.flatMap Table.figures).filterMap Figure.dashed? = [] := by
  refine filterMap_tables (fun t f mem => ?_) ts
  rcases mem_tableFigures.mp mem with rfl | ⟨c, -, rfl | rfl⟩
  · rfl
  · unfold ellipseAttributes
    split <;> rfl
  · rfl

theorem token_mem_of_missing (h : w ∈ missingTables s before rs) :
    token w ∈ (relationFigures s before rs).filterMap Figure.node? := by
  induction rs generalizing before with
  | nil => simp [missingTables] at h
  | cons r rs ih =>
    rw [missingTables] at h
    rw [relationFigures, placeholderFigures, List.filterMap_append, List.filterMap_append]
    split at h
    · next new =>
      rw [if_pos new]
      rcases List.mem_cons.mp h with rfl | h
      · exact List.mem_append_left _ (List.mem_append_left _ List.mem_cons_self)
      · exact List.mem_append_right _ (ih h)
    · exact List.mem_append_right _ (ih h)

-- ---------------------------------------------------------------------------
-- The ends of edges
-- ---------------------------------------------------------------------------

/-- Every edge of a table joins its box and the ellipse of a column. -/
theorem ends_of_table {t : Table} {tail head : Token} {a : Option Attributes}
    (h : .edge tail head a ∈ t.figures) :
    tail ∈ t.figures.filterMap Figure.node? ∧ head ∈ t.figures.filterMap Figure.node? := by
  rcases mem_tableFigures.mp h with box | ⟨c, mem, ellipse | same⟩
  · cases box
  · cases ellipse
  · cases same
    have ellipse := mem_tableFigures.mpr (.inr ⟨c, mem, .inl rfl⟩)
    exact ⟨List.mem_cons_self, List.mem_filterMap.mpr ⟨_, ellipse, rfl⟩⟩

/-- Every edge of a relation joins its diamond and one of its tables. -/
theorem ends_of_relations {tail head : Token} {a : Option Attributes}
    (h : .edge tail head a ∈ relationFigures s before rs) :
    ∃ r ∈ rs, ∃ diamond ∈ (relationFigures s before rs).filterMap Figure.node?,
      tail = token r.source.table ∧ head = diamond ∨
        tail = diamond ∧ head = token r.target.table := by
  induction rs generalizing before with
  | nil => simp [relationFigures] at h
  | cons r rs ih =>
    rw [relationFigures, List.filterMap_append, List.filterMap_append]
    rw [relationFigures, List.append_assoc] at h
    rcases List.mem_append.mp h with box | h
    · rw [placeholderFigures] at box
      split at box
      · cases List.mem_singleton.mp box
      · cases box
    · rcases List.mem_append.mp h with own | later
      · refine ⟨r, List.mem_cons_self, token (diamondName before.length), ?_, ?_⟩
        · simp [Relation.figures, Figure.node?]
        · simp only [Relation.figures, List.mem_cons, reduceCtorEq, false_or, List.not_mem_nil,
            or_false, Figure.edge.injEq] at own
          tauto
      · obtain ⟨r', mem, diamond, drawn, ends⟩ := ih later
        exact ⟨r', List.mem_cons_of_mem _ mem, diamond, List.mem_append_right _ drawn, ends⟩

-- ---------------------------------------------------------------------------
-- Charts
-- ---------------------------------------------------------------------------

/-- The chart as it is before the relations are added, but for its last line. -/
def Chart.opening (name : Text) (s : Schema) : Text :=
  (⟨0, Dot.Graph.heading ⟨name, []⟩ ++ "\x7b"⟩ ::
    (graphSettings ++ s.tables.map tableItem).flatMap Dot.Item.lines : List Dot.Line).flatMap
      Dot.Line.written

theorem source_tables (name : Text) (s : Schema) :
    ((Chart.new name "png").addTables s).source = Chart.opening name s ++ "\x7d\n" := by
  rw [Chart.source, Chart.addTables_graph, Dot.Graph.source_eq]
  rfl

theorem source_chart (name : Text) (s : Schema) :
    (Chart.ofSchema name s).1.source = Chart.opening name s ++
      ((Chart.relationStatements s [] s.relations).map fun st =>
        (⟨1, st.text⟩ : Dot.Line)).flatMap Dot.Line.written ++ "\x7d\n" := by
  rw [Chart.source, Chart.ofSchema_graph, Dot.Graph.source_eq, List.flatMap_append,
    Dot.lines_statements, ← List.cons_append, List.flatMap_append]
  rfl

theorem mem_nodes_chart (h : s.Drawable) {name : Text} (line : '\n' ∉ name) {n : Token} :
    n ∈ nodes (Chart.ofSchema name s).1.source ↔
      (∃ t ∈ s.tables, n ∈ t.figures.filterMap Figure.node?) ∨
        n ∈ (relationFigures s [] s.relations).filterMap Figure.node? := by
  rw [nodes, figures_chart h line, List.filterMap_append, List.mem_append, List.filterMap_flatMap,
    List.mem_flatMap]

theorem token_mem_of_declared (h : s.Drawable) {name : Text} (line : '\n' ∉ name) {t : Table}
    (mem : t ∈ s.tables) : token t.name ∈ nodes (Chart.ofSchema name s).1.source :=
  (mem_nodes_chart h line).mpr (.inl ⟨t, mem, List.mem_cons_self⟩)

/-- A relation refers to a table that is declared or has a placeholder. -/
theorem token_mem_of_target (h : s.Drawable) {name : Text} (line : '\n' ∉ name) {r : Relation}
    (mem : r ∈ s.relations) :
    token r.target.table ∈ nodes (Chart.ofSchema name s).1.source := by
  cases found : s.table? r.target.table with
  | some t =>
    have same : t.name = r.target.table := by simpa using List.find?_some found
    exact same ▸ token_mem_of_declared h line (List.mem_of_find?_eq_some found)
  | none =>
    have missing : r.target.table ∈ missingTables s [] s.relations :=
      mem_missingTables.mpr ⟨⟨found, List.not_mem_nil⟩, List.mem_map_of_mem mem⟩
    exact (mem_nodes_chart h line).mpr (.inr (token_mem_of_missing missing))

/-- Both ends of every edge are nodes. -/
theorem ends_of_chart (h : s.Drawable) {name : Text} (line : '\n' ∉ name) {tail head : Token}
    {a : Option Attributes}
    (edge : .edge tail head a ∈ figures (Chart.ofSchema name s).1.source) :
    tail ∈ nodes (Chart.ofSchema name s).1.source ∧
      head ∈ nodes (Chart.ofSchema name s).1.source := by
  rw [figures_chart h line] at edge
  rcases List.mem_append.mp edge with inside | between
  · obtain ⟨t, mem, edge⟩ := List.mem_flatMap.mp inside
    obtain ⟨box, ellipse⟩ := ends_of_table edge
    exact ⟨(mem_nodes_chart h line).mpr (.inl ⟨t, mem, box⟩),
      (mem_nodes_chart h line).mpr (.inl ⟨t, mem, ellipse⟩)⟩
  · obtain ⟨r, mem, diamond, drawn, ends⟩ := ends_of_relations between
    have middle := (mem_nodes_chart h line).mpr (.inr drawn)
    have target := token_mem_of_target h line mem
    obtain ⟨t, declared, same⟩ := h.consistent.sources r mem
    have source := token_mem_of_declared h line declared
    rw [same] at source
    rcases ends with ⟨rfl, rfl⟩ | ⟨rfl, rfl⟩
    · exact ⟨source, middle⟩
    · exact ⟨middle, target⟩

theorem dashed_chart (h : s.Drawable) {name : Text} (line : '\n' ∉ name) :
    dashed (Chart.ofSchema name s).1.source = missingTables s [] s.relations := by
  rw [dashed, figures_chart h line, List.filterMap_append, dashed_tables, List.nil_append]
  exact dashed_relationFigures fun r mem => (h.relations r mem).target

/-- The chart of any script. Both ends of every edge are nodes. What is written for the
relations stands behind the tables and is read, line by line, as their figures. A table has
a dashed box if a relation refers to it and it is not declared, and then only one. -/
theorem chart_connected (name script : Text) (line : '\n' ∉ name) :
    let s := (Schema.read script).schema
    let text := (Chart.ofSchema name s).1.source
    (∀ tail head a, .edge tail head a ∈ figures text → tail ∈ nodes text ∧ head ∈ nodes text) ∧
      (∃ opening part, ((Chart.new name "png").addTables s).source = opening ++ "\x7d\n" ∧
        text = opening ++ part ++ "\x7d\n" ∧
        (lines part).map Figure.ofLine? = (relationFigures s [] s.relations).map some) ∧
      (dashed text).Nodup ∧
      ∀ w, w ∈ dashed text ↔ s.table? w = none ∧ ∃ r ∈ s.relations, r.target.table = w := by
  intro s text
  have drawable : s.Drawable := schema_read_drawable script
  have boxes : dashed text = missingTables s [] s.relations := dashed_chart drawable line
  refine ⟨?ends, ?part, ?once, ?missing⟩
  case ends =>
    intro tail head a edge
    exact ends_of_chart drawable line edge
  case part =>
    exact ⟨_, _, source_tables name s, source_chart name s, drawable.relations_readAs.lines 1⟩
  case once =>
    rw [boxes]
    exact nodup_missingTables s [] s.relations
  case missing =>
    intro w
    rw [boxes, mem_missingTables]
    simp [NewlyMissing]

/-- Two keys to a table that is not declared. -/
theorem chart_connected_missing : '\n' ∉ "ER_Diagram".toList ∧
    (dashed (Chart.ofSchema "ER_Diagram" (Schema.read
      "CREATE TABLE t (a INT REFERENCES r (x), b INT REFERENCES r (y))").schema).1.source).Nodup :=
  ⟨by decide, (chart_connected _ _ (by decide)).2.2.1⟩

example : dashed (Chart.ofSchema "ER_Diagram" (Schema.read "CREATE TABLE t
    (a INT REFERENCES r (x), b INT REFERENCES r (y))").schema).1.source = ["r"] := by
  decide +kernel

end SchemaChart
