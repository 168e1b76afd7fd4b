import SchemaChart.Proofs.Connections

/-!
# Which nodes have names of their own

The nodes of a chart are named in one space: boxes by their tables, ellipses by a table and
a column with an underscore between them, diamonds by numbers. No two nodes have one name
exactly if the schema keeps these names apart (`chart_nodes_distinct`), which is a matter of
the names in the script.
-/

namespace SchemaChart

open Text
open Dot (Figure Token token figures nodes)

/-- The tables that have a box: those that are declared and those that are referred to. -/
def Schema.boxes (s : Schema) : List Text :=
  s.tables.map Table.name ++ s.relations.map (·.target.table)

structure Schema.NodesApart (s : Schema) : Prop where
  /-- No box has the name of a table and one of its columns. -/
  ellipses : ∀ t ∈ s.tables, ∀ c ∈ t.columns, ellipseName t.name c.name ∉ s.boxes
  /-- If a table has the name of another one and more, no column of that one has the rest
  and a column of it. -/
  columns : ∀ t ∈ s.tables, ∀ c ∈ t.columns, ∀ t' ∈ s.tables, ∀ c' ∈ t'.columns, ∀ more,
    t'.name = ellipseName t.name more → c.name ≠ ellipseName more c'.name
  /-- No box has the name of a diamond. -/
  diamonds : ∀ i < s.relations.length, diamondName i ∉ s.boxes
  numerals : ∀ t ∈ s.tables, t.name = "rel".toList → ∀ c ∈ t.columns,
    ∀ i < s.relations.length, c.name ≠ ofNat i

-- ---------------------------------------------------------------------------
-- Names with an underscore
-- ---------------------------------------------------------------------------

theorem ellipseName_eq_cons (table column : Text) :
    ellipseName table column = table ++ '_' :: column := by
  simp [ellipseName]

/-- Two names that are equal are put together from the same parts, or one table has the
name of the other and a part of its column. -/
theorem ellipseName_eq_iff {t c t' c' : Text} : ellipseName t c = ellipseName t' c' ↔
    (t = t' ∧ c = c') ∨ (∃ more, t' = ellipseName t more ∧ c = ellipseName more c') ∨
      ∃ more, t = ellipseName t' more ∧ c' = ellipseName more c := by
  have cut {u d u' d' part : Text} (hu : u' = u ++ part) (hd : '_' :: d = part ++ '_' :: d') :
      (u = u' ∧ d = d') ∨ ∃ more, u' = ellipseName u more ∧ d = ellipseName more d' := by
    cases part with
    | nil => exact .inl ⟨by simp [hu], by simpa using hd⟩
    | cons x more =>
      obtain ⟨rfl, rest⟩ := List.cons.inj hd
      exact .inr ⟨more, by rw [hu, ellipseName_eq_cons], by rw [rest, ellipseName_eq_cons]; rfl⟩
  constructor
  · rw [ellipseName_eq_cons, ellipseName_eq_cons, List.append_eq_append_iff]
    rintro (⟨part, hu, hd⟩ | ⟨part, hu, hd⟩)
    · exact (cut hu hd).imp_right .inl
    · exact (cut hu hd).imp (fun same => ⟨same.1.symm, same.2.symm⟩) .inr
  · rintro (⟨rfl, rfl⟩ | ⟨more, rfl, rfl⟩ | ⟨more, rfl, rfl⟩)
    · rfl
    · simp [ellipseName_eq_cons]
    · simp [ellipseName_eq_cons]

theorem ofNat_inj {i j : Nat} (h : ofNat i = ofNat j) : i = j := by
  have value := congrArg (Nat.ofDigitChars 10 · 0) h
  simpa [ofNat, Nat.ofDigitChars_ten_toDigits] using value

theorem diamondName_eq (i : Nat) : diamondName i = ellipseName "rel" (ofNat i) := rfl

theorem diamondName_inj {i j : Nat} (h : diamondName i = diamondName j) : i = j :=
  ofNat_inj (List.append_cancel_left h)

/-- A column node is a diamond only in a table of the name that diamonds begin with. -/
theorem ellipseName_eq_diamondName_iff {t c : Text} {i : Nat} :
    ellipseName t c = diamondName i ↔ t = "rel".toList ∧ c = ofNat i := by
  rw [diamondName_eq, ellipseName_eq_iff]
  constructor
  · rintro (same | ⟨more, name, -⟩ | ⟨more, -, digits⟩)
    · exact same
    · have mem : '_' ∈ "rel".toList := by
        rw [name, ellipseName_eq_cons]
        simp
      exact absurd mem (by decide)
    · have mem : '_' ∈ ofNat i := by
        rw [digits, ellipseName_eq_cons]
        simp
      exact absurd mem Nat.underscore_not_in_toDigits
  · exact .inl

-- ---------------------------------------------------------------------------
-- The names of all nodes
-- ---------------------------------------------------------------------------

def Table.ellipseNames (t : Table) : List Text := t.columns.map fun c => ellipseName t.name c.name

/-- The names of the nodes among figures. -/
def nodeNames (fs : List Figure) : List Text := (fs.filterMap Figure.node?).map Token.value

theorem nodeNames_append (fs fs' : List Figure) :
    nodeNames (fs ++ fs') = nodeNames fs ++ nodeNames fs' := by
  simp [nodeNames]

theorem value_token {w : Text} (h : Text.IsWord w) : (token w).value = w :=
  (Dot.legible_of_isWord h).value_token

theorem nodeNames_columns {table : Text} (ht : Text.IsWord table) {cs : List Column}
    (hc : ∀ c ∈ cs, Text.IsWord c.name) :
    nodeNames (cs.flatMap (Column.figures table)) = cs.map fun c => ellipseName table c.name := by
  induction cs with
  | nil => rfl
  | cons c cs ih =>
    obtain ⟨word, words⟩ := List.forall_mem_cons.mp hc
    have name := value_token (Chart.isWord_ellipseName ht word)
    rw [List.flatMap_cons, nodeNames_append, ih words, List.map_cons, ← name]
    rfl

theorem nodeNames_table {t : Table} (ht : Text.IsWord t.name)
    (hc : ∀ c ∈ t.columns, Text.IsWord c.name) :
    nodeNames t.figures = t.name :: t.ellipseNames := by
  have box : nodeNames t.figures =
      (token t.name).value :: nodeNames (t.columns.flatMap (Column.figures t.name)) := rfl
  rw [box, value_token ht, nodeNames_columns ht hc, Table.ellipseNames]

theorem nodeNames_tables {ts : List Table} (ht : ∀ t ∈ ts, Text.IsWord t.name)
    (hc : ∀ t ∈ ts, ∀ c ∈ t.columns, Text.IsWord c.name) :
    (nodeNames (ts.flatMap Table.figures)).Perm
      (ts.map Table.name ++ ts.flatMap Table.ellipseNames) := by
  induction ts with
  | nil => exact .nil
  | cons t ts ih =>
    obtain ⟨word, words⟩ := List.forall_mem_cons.mp ht
    obtain ⟨columns, others⟩ := List.forall_mem_cons.mp hc
    rw [List.flatMap_cons, nodeNames_append, nodeNames_table word columns]
    refine .cons t.name ?_
    exact ((ih words others).append_left _).trans (List.perm_append_comm_assoc _ _ _)

theorem nodeNames_relations {s : Schema} {before rs : List Relation}
    (h : ∀ r ∈ rs, Text.IsWord r.target.table) :
    (nodeNames (relationFigures s before rs)).Perm
      (missingTables s before rs ++ (List.range' before.length rs.length).map diamondName) := by
  induction rs generalizing before with
  | nil => exact .nil
  | cons r rs ih =>
    obtain ⟨word, words⟩ := List.forall_mem_cons.mp h
    have diamond : nodeNames (r.figures before.length) = [diamondName before.length] :=
      congrArg (fun w => [w]) (value_token (Chart.isWord_diamondName _))
    have box : nodeNames [placeholder r.target.table] = [r.target.table] :=
      congrArg (fun w => [w]) (value_token word)
    have rest := @ih (before ++ [r]) words
    rw [List.length_append, List.length_singleton] at rest
    have behind := (rest.cons (diamondName before.length)).trans List.perm_middle.symm
    rw [relationFigures, nodeNames_append, nodeNames_append, diamond, placeholderFigures,
      missingTables, List.length_cons, List.range'_succ, List.map_cons]
    split
    · rw [box]
      exact behind.cons r.target.table
    · exact behind

-- ---------------------------------------------------------------------------
-- When they differ
-- ---------------------------------------------------------------------------

theorem Schema.mem_boxes {s : Schema} {w : Text} :
    w ∈ s.boxes ↔ w ∈ s.tables.map Table.name ++ missingTables s [] s.relations := by
  rw [boxes, List.mem_append, List.mem_append, mem_missingTables]
  refine ⟨fun h => ?_, fun h => h.imp_right And.right⟩
  by_cases declared : w ∈ s.tables.map Table.name
  · exact .inl declared
  · refine .inr ⟨⟨?_, List.not_mem_nil⟩, h.resolve_left declared⟩
    rw [Schema.table?_eq_none_iff]
    rintro t mem rfl
    exact declared (List.mem_map_of_mem mem)

theorem nodup_boxes {s : Schema} (h : s.Consistent) :
    (s.tables.map Table.name ++ missingTables s [] s.relations).Nodup := by
  refine List.nodup_append.mpr ⟨h.tables_distinct, nodup_missingTables s [] s.relations, ?_⟩
  rintro w declared w' missing rfl
  obtain ⟨t, mem, rfl⟩ := List.mem_map.mp declared
  exact Schema.table?_eq_none_iff.mp (mem_missingTables.mp missing).1.1 t mem rfl

/-- Table and column, for every column of a schema. -/
def Schema.columnNames (s : Schema) : List (Text × Text) :=
  s.tables.flatMap fun t => t.columns.map fun c => (t.name, c.name)

theorem Schema.mem_columnNames {s : Schema} {p : Text × Text} :
    p ∈ s.columnNames ↔ ∃ t ∈ s.tables, ∃ c ∈ t.columns, (t.name, c.name) = p := by
  simp [columnNames]

theorem Schema.Consistent.nodup_columnNames {s : Schema} (h : s.Consistent) :
    s.columnNames.Nodup := by
  refine List.nodup_flatMap.mpr ⟨fun t mem => ?_, ?_⟩
  · have pairs : t.columns.map (fun c => (t.name, c.name)) =
        (t.columns.map Column.name).map (Prod.mk t.name) := by simp
    rw [pairs]
    exact (h.columns_distinct t mem).map fun _ _ same => congrArg Prod.snd same
  · refine (List.pairwise_map.mp h.tables_distinct).imp ?_
    intro t t' other p first second
    obtain ⟨c, -, rfl⟩ := List.mem_map.mp first
    obtain ⟨c', -, same⟩ := List.mem_map.mp second
    exact other (congrArg Prod.fst same).symm

theorem ellipseNames_eq_map (s : Schema) :
    s.tables.flatMap Table.ellipseNames = s.columnNames.map fun p => ellipseName p.1 p.2 := by
  rw [Schema.columnNames, List.map_flatMap]
  refine List.flatMap_congr fun t _ => ?_
  rw [Table.ellipseNames, List.map_map]
  rfl

theorem nodup_ellipseNames_iff {s : Schema} (h : s.Consistent) :
    (s.tables.flatMap Table.ellipseNames).Nodup ↔
      ∀ t ∈ s.tables, ∀ c ∈ t.columns, ∀ t' ∈ s.tables, ∀ c' ∈ t'.columns, ∀ more,
        t'.name = ellipseName t.name more → c.name ≠ ellipseName more c'.name := by
  rw [ellipseNames_eq_map, List.nodup_map_iff_inj_on h.nodup_columnNames]
  constructor
  · intro inj t ht c hc t' ht' c' hc' more longer same
    have pair := inj _ (Schema.mem_columnNames.mpr ⟨t, ht, c, hc, rfl⟩) _
      (Schema.mem_columnNames.mpr ⟨t', ht', c', hc', rfl⟩)
      (ellipseName_eq_iff.mpr (.inr (.inl ⟨more, longer, same⟩)))
    have size := congrArg (fun p => p.1.length) pair
    simp [longer, ellipseName_eq_cons] at size
  · intro apart p hp q hq same
    obtain ⟨t, ht, c, hc, rfl⟩ := Schema.mem_columnNames.mp hp
    obtain ⟨t', ht', c', hc', rfl⟩ := Schema.mem_columnNames.mp hq
    rcases ellipseName_eq_iff.mp same with ⟨one, other⟩ | ⟨more, longer, rest⟩ |
      ⟨more, longer, rest⟩
    · exact Prod.ext one other
    · exact absurd rest (apart t ht c hc t' ht' c' hc' more longer)
    · exact absurd rest (apart t' ht' c' hc' t ht c hc more longer)

/-- The names of all nodes of a chart, those of boxes first. -/
theorem mem_ellipseNames {ts : List Table} {w : Text} : w ∈ ts.flatMap Table.ellipseNames ↔
    ∃ t ∈ ts, ∃ c ∈ t.columns, ellipseName t.name c.name = w := by
  simp [Table.ellipseNames]

theorem mem_diamondNames {n : Nat} {w : Text} :
    w ∈ (List.range' 0 n).map diamondName ↔ ∃ i < n, diamondName i = w := by
  simp

theorem nodup_diamondNames (n : Nat) : ((List.range' 0 n).map diamondName).Nodup :=
  List.Nodup.map (fun _ _ => diamondName_inj) List.nodup_range'

theorem ellipses_ne_diamonds_iff {s : Schema} :
    (∀ w ∈ s.tables.flatMap Table.ellipseNames,
      ∀ w' ∈ (List.range' 0 s.relations.length).map diamondName, w ≠ w') ↔
    ∀ t ∈ s.tables, t.name = "rel".toList → ∀ c ∈ t.columns,
      ∀ i < s.relations.length, c.name ≠ ofNat i := by
  constructor
  · intro apart t ht rel c hc i bound digits
    exact apart _ (mem_ellipseNames.mpr ⟨t, ht, c, hc, rfl⟩) _
      (mem_diamondNames.mpr ⟨i, bound, rfl⟩) (ellipseName_eq_diamondName_iff.mpr ⟨rel, digits⟩)
  · rintro apart w ellipse w' diamond rfl
    obtain ⟨t, ht, c, hc, rfl⟩ := mem_ellipseNames.mp ellipse
    obtain ⟨i, bound, same⟩ := mem_diamondNames.mp diamond
    obtain ⟨rel, digits⟩ := ellipseName_eq_diamondName_iff.mp same.symm
    exact apart t ht rel c hc i bound digits

theorem boxes_ne_iff {s : Schema} {ws : List Text} :
    (∀ box ∈ s.tables.map Table.name ++ missingTables s [] s.relations, ∀ w ∈ ws, box ≠ w) ↔
      ∀ w ∈ ws, w ∉ s.boxes := by
  constructor
  · intro apart w mem box
    exact apart w (Schema.mem_boxes.mp box) w mem rfl
  · rintro apart w box w' mem rfl
    exact apart w mem (Schema.mem_boxes.mpr box)

theorem nodeNames_chart {s : Schema} (h : s.Drawable) {name : Text} (line : '\n' ∉ name) :
    ((nodes (Chart.ofSchema name s).1.source).map Token.value).Perm
      ((s.tables.map Table.name ++ missingTables s [] s.relations) ++
        (s.tables.flatMap Table.ellipseNames ++
          (List.range' 0 s.relations.length).map diamondName)) := by
  have drawn : (nodes (Chart.ofSchema name s).1.source).map Token.value =
      nodeNames (s.tables.flatMap Table.figures) ++
        nodeNames (relationFigures s [] s.relations) := by
    rw [nodes, figures_chart h line, ← nodeNames, nodeNames_append]
  have tables := nodeNames_tables h.consistent.table_words h.consistent.column_words
  have relations : (nodeNames (relationFigures s [] s.relations)).Perm _ :=
    nodeNames_relations fun r mem => (h.relations r mem).target
  rw [drawn]
  refine (tables.append relations).trans ?_
  rw [List.append_assoc, List.append_assoc]
  exact (List.perm_append_comm_assoc _ _ _).append_left _

/-- In the chart of any script, no two nodes have one name exactly if the names in the script
keep them apart. -/
theorem chart_nodes_distinct (name script : Text) (line : '\n' ∉ name) :
    let s := (Schema.read script).schema
    ((nodes (Chart.ofSchema name s).1.source).map Token.value).Nodup ↔ s.NodesApart := by
  intro s
  have drawable : s.Drawable := schema_read_drawable script
  rw [(nodeNames_chart drawable line).nodup_iff, List.nodup_append, boxes_ne_iff,
    @List.nodup_append _ (s.tables.flatMap Table.ellipseNames),
    nodup_ellipseNames_iff drawable.consistent, ellipses_ne_diamonds_iff]
  constructor
  · rintro ⟨-, ⟨columns, -, numerals⟩, outside⟩
    refine ⟨fun t ht c hc => ?ellipse, columns, fun i bound => ?diamond, numerals⟩
    case ellipse =>
      exact outside _ (List.mem_append_left _ (mem_ellipseNames.mpr ⟨t, ht, c, hc, rfl⟩))
    case diamond =>
      exact outside _ (List.mem_append_right _ (mem_diamondNames.mpr ⟨i, bound, rfl⟩))
  · intro apart
    refine ⟨nodup_boxes drawable.consistent,
      ⟨apart.columns, nodup_diamondNames _, apart.numerals⟩, fun w inside => ?_⟩
    rcases List.mem_append.mp inside with ellipse | diamond
    · obtain ⟨t, ht, c, hc, rfl⟩ := mem_ellipseNames.mp ellipse
      exact apart.ellipses t ht c hc
    · obtain ⟨i, bound, rfl⟩ := mem_diamondNames.mp diamond
      exact apart.diamonds i bound

/-- A key to a table that is not declared. -/
theorem chart_nodes_distinct_missing : '\n' ∉ "ER_Diagram".toList ∧
    (Schema.read "CREATE TABLE t (a INT REFERENCES r (x))").schema.NodesApart :=
  ⟨by decide, (chart_nodes_distinct "ER_Diagram" _ (by decide)).mp (by decide +kernel)⟩

/-- A column and a table with one node, and a diamond that is a table too. -/
theorem chart_nodes_shared :
    let column := (nodes (Chart.ofSchema "ER_Diagram" (Schema.read
      "CREATE TABLE a (b INT); CREATE TABLE a_b (c INT)").schema).1.source).map Token.value
    let diamond := (nodes (Chart.ofSchema "ER_Diagram" (Schema.read
      "CREATE TABLE rel_0 (a INT REFERENCES rel_0 (a))").schema).1.source).map Token.value
    (column = ["a".toList, "a_b".toList, "a_b".toList, "a_b_c".toList] ∧ ¬column.Nodup) ∧
      diamond = ["rel_0".toList, "rel_0_a".toList, "rel_0".toList] ∧ ¬diamond.Nodup := by
  decide +kernel

end SchemaChart
