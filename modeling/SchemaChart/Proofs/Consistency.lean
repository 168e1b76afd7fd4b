import SchemaChart.Proofs.Resolution
import SchemaChart.Proofs.Search

/-!
# Every reading is consistent

`schema_read_consistent`: the schema read from any script at all has distinct names made of
word characters, its primary keys are required, and its relations are tied to its
tables both ways: what a column refers to is a relation, and a relation from a column
that the table has makes that column a foreign key.

The ties are kept clause by clause while a table is drafted (`Draft.Consistent`), where
a key may wait for its column; when the waiting keys are resolved none is left over.
-/

namespace SchemaChart

/-- What holds of a table and its relations while its clauses are read. -/
structure Draft.Consistent (d : Draft) : Prop where
  words : ∀ c ∈ d.table.columns, Text.IsWord c.name
  distinct : (d.table.columns.map Column.name).Nodup
  required : ∀ c ∈ d.table.columns, c.primaryKey = true → c.nullable = false
  sources : ∀ r ∈ d.relations, r.source.table = d.table.name ∧ r.cardinality = .oneToMany
  inline : ∀ c ∈ d.table.columns, ∀ target, c.references = some target →
    Relation.ofKey ⟨d.table.name, c.name⟩ target ∈ d.relations
  keyed : ∀ k ∈ d.keys, Relation.ofKey ⟨d.table.name, k.column⟩ k.target ∈ d.relations
  /-- A relation comes from a column that refers to something or from a waiting key. -/
  origins : ∀ r ∈ d.relations,
    (∃ c ∈ d.table.columns, c.name = r.source.column ∧ c.isForeignKey = true) ∨
      ∃ k ∈ d.keys, k.column = r.source.column

/-- What holds of a table and its relations once its keys are resolved. -/
structure TableReading.Consistent (r : TableReading) : Prop where
  words : ∀ c ∈ r.table.columns, Text.IsWord c.name
  distinct : (r.table.columns.map Column.name).Nodup
  required : ∀ c ∈ r.table.columns, c.primaryKey = true → c.nullable = false
  sources : ∀ rel ∈ r.relations, rel.source.table = r.table.name ∧ rel.cardinality = .oneToMany
  declared : ∀ c ∈ r.table.columns, ∀ target, c.references = some target →
    Relation.ofKey ⟨r.table.name, c.name⟩ target ∈ r.relations
  marked : ∀ rel ∈ r.relations, ∀ c ∈ r.table.columns, c.name = rel.source.column →
    c.isForeignKey = true

structure Schema.Consistent (s : Schema) : Prop where
  table_words : ∀ t ∈ s.tables, Text.IsWord t.name
  tables_distinct : (s.tables.map Table.name).Nodup
  column_words : ∀ t ∈ s.tables, ∀ c ∈ t.columns, Text.IsWord c.name
  columns_distinct : ∀ t ∈ s.tables, (t.columns.map Column.name).Nodup
  keys_required : ∀ t ∈ s.tables, ∀ c ∈ t.columns, c.primaryKey = true → c.nullable = false
  cardinality : ∀ r ∈ s.relations, r.cardinality = .oneToMany
  sources : ∀ r ∈ s.relations, ∃ t ∈ s.tables, t.name = r.source.table
  /-- The relations stand in groups, one for each table, in the order of the tables. -/
  grouped : s.relations =
    s.tables.flatMap fun t => s.relations.filter fun r => r.source.table = t.name
  declared : ∀ t ∈ s.tables, ∀ c ∈ t.columns, ∀ target, c.references = some target →
    Relation.ofKey ⟨t.name, c.name⟩ target ∈ s.relations
  marked : ∀ r ∈ s.relations, ∀ t ∈ s.tables, t.name = r.source.table →
    ∀ c ∈ t.columns, c.name = r.source.column → c.isForeignKey = true

-- ---------------------------------------------------------------------------
-- One clause
-- ---------------------------------------------------------------------------

theorem Draft.start_consistent (name : Text) : (Draft.start name).Consistent where
  words := by simp [Draft.start]
  distinct := by simp [Draft.start]
  required := by simp [Draft.start]
  sources := by simp [Draft.start]
  inline := by simp [Draft.start]
  keyed := by simp [Draft.start]
  origins := by simp [Draft.start]

theorem Draft.Consistent.note {d : Draft} (h : d.Consistent) (n : Notice) :
    (d.note n).Consistent :=
  ⟨h.words, h.distinct, h.required, h.sources, h.inline, h.keyed, h.origins⟩

theorem Column.read?_sound {c : Column} (h : Column.read? clause = some c) :
    Text.IsWord c.name ∧ (c.primaryKey = true → c.nullable = false) := by
  simp only [Column.read?, bind, Option.bind_eq_some_iff, pure, Option.some.injEq] at h
  obtain ⟨⟨name, rest⟩, readName, _, -, _, -, rfl⟩ := h
  obtain ⟨u, hu, -⟩ := Text.name?_sound readName
  refine ⟨hu.isWord, fun key => ?_⟩
  simp only at key ⊢
  rw [key]
  rfl

theorem Draft.Consistent.addColumn {d : Draft} (h : d.Consistent) {c : Column}
    (word : Text.IsWord c.name) (key : c.primaryKey = true → c.nullable = false) :
    (d.addColumn c).Consistent := by
  unfold Draft.addColumn
  split
  · exact h.note _
  · next absent =>
    have fresh : ∀ c' ∈ d.table.columns, c'.name ≠ c.name := by
      apply Table.column?_eq_none_iff.mp
      simpa using absent
    have own : ∀ target, c.references = some target →
        Draft.inlineRelation d.table.name c = [.ofKey ⟨d.table.name, c.name⟩ target] := by
      intro target refers
      simp [Draft.inlineRelation, refers]
    have newRelation : ∀ r ∈ Draft.inlineRelation d.table.name c,
        ∃ target, c.references = some target ∧ r = .ofKey ⟨d.table.name, c.name⟩ target := by
      intro r mem
      cases refers : c.references with
      | none => simp [Draft.inlineRelation, refers] at mem
      | some target => exact ⟨target, rfl, by simpa [own target refers] using mem⟩
    constructor
    case words =>
      intro c' mem
      rcases List.mem_append.mp mem with mem | mem
      · exact h.words c' mem
      · rwa [List.mem_singleton.mp mem]
    case distinct =>
      simp only [Table.columns_addColumn, List.map_append, List.map_cons, List.map_nil]
      refine List.nodup_append.mpr ⟨h.distinct, by simp, ?_⟩
      rintro a ha b hb rfl
      obtain ⟨c', mem, same⟩ := List.mem_map.mp ha
      exact fresh c' mem (same.trans (List.mem_singleton.mp hb))
    case required =>
      intro c' mem
      rcases List.mem_append.mp mem with mem | mem
      · exact h.required c' mem
      · rwa [List.mem_singleton.mp mem]
    case sources =>
      intro r mem
      rcases List.mem_append.mp mem with mem | mem
      · exact h.sources r mem
      · obtain ⟨target, -, rfl⟩ := newRelation r mem
        exact ⟨rfl, rfl⟩
    case inline =>
      intro c' mem target refers
      rcases List.mem_append.mp mem with mem | mem
      · exact List.mem_append_left _ (h.inline c' mem target refers)
      · cases List.mem_singleton.mp mem
        exact List.mem_append_right _ (by simp [own target refers, Table.addColumn])
    case keyed =>
      intro k mem
      exact List.mem_append_left _ (h.keyed k mem)
    case origins =>
      intro r mem
      rcases List.mem_append.mp mem with mem | mem
      · refine (h.origins r mem).imp_left ?_
        rintro ⟨c', inside, same⟩
        exact ⟨c', List.mem_append_left _ inside, same⟩
      · obtain ⟨target, refers, rfl⟩ := newRelation r mem
        refine .inl ⟨c, List.mem_append_right _ (by simp), rfl, ?_⟩
        simp [Column.isForeignKey, refers]

theorem Draft.Consistent.addKeys {d : Draft} (h : d.Consistent) (ks : List Key) :
    (d.addKeys ks).Consistent := by
  refine ⟨h.words, h.distinct, h.required, ?sources, ?inline, ?keyed, ?origins⟩
  case sources =>
    intro r mem
    rcases List.mem_append.mp mem with mem | mem
    · exact h.sources r mem
    · obtain ⟨k, -, rfl⟩ := List.mem_map.mp mem
      exact ⟨rfl, rfl⟩
  case inline =>
    intro c mem target refers
    exact List.mem_append_left _ (h.inline c mem target refers)
  case keyed =>
    intro k mem
    rcases List.mem_append.mp mem with mem | mem
    · exact List.mem_append_left _ (h.keyed k mem)
    · exact List.mem_append_right _ (List.mem_map_of_mem mem)
  case origins =>
    intro r mem
    rcases List.mem_append.mp mem with mem | mem
    · refine (h.origins r mem).imp_right ?_
      rintro ⟨k, waiting, same⟩
      exact ⟨k, List.mem_append_left _ waiting, same⟩
    · obtain ⟨k, new, rfl⟩ := List.mem_map.mp mem
      exact .inr ⟨k, List.mem_append_right _ new, rfl⟩

theorem Entry.column_sound {c : Column} (h : Entry.ofClause clause = .column c) :
    Text.IsWord c.name ∧ (c.primaryKey = true → c.nullable = false) := by
  unfold Entry.ofClause at h
  split at h
  · split at h
    · next read =>
      cases Entry.column.inj h
      exact Column.read?_sound read
    · simp at h
  · simp at h
  · simp at h

theorem Draft.Consistent.addClause {d : Draft} (h : d.Consistent) (clause : Text) :
    (d.addClause clause).Consistent := by
  unfold Draft.addClause
  cases entry : Entry.ofClause clause with
  | column c =>
    obtain ⟨word, key⟩ := Entry.column_sound entry
    exact h.addColumn word key
  | keys ks => exact h.addKeys ks
  | unreadable => exact h.note _
  | constraint kind => exact h.note _

-- ---------------------------------------------------------------------------
-- A table
-- ---------------------------------------------------------------------------

theorem Draft.Consistent.addClauses {d : Draft} (h : d.Consistent) (clauses : List Text) :
    (clauses.foldl Draft.addClause d).Consistent := by
  induction clauses generalizing d with
  | nil => exact h
  | cons clause clauses ih => exact ih (h.addClause clause)

theorem Draft.name_addClause (d : Draft) (clause : Text) :
    (d.addClause clause).table.name = d.table.name := by
  unfold Draft.addClause
  split
  · unfold Draft.addColumn
    split <;> rfl
  all_goals rfl

theorem Draft.name_addClauses (clauses : List Text) (d : Draft) :
    (clauses.foldl Draft.addClause d).table.name = d.table.name := by
  induction clauses generalizing d with
  | nil => rfl
  | cons clause clauses ih => rw [List.foldl_cons, ih, Draft.name_addClause]

/-- Resolving the keys ties every relation to its column. -/
theorem Draft.Consistent.finish {d : Draft} (h : d.Consistent) : d.finish.Consistent := by
  have table := Draft.table_finish h.distinct
  have relations := Draft.relations_finish d
  have column : ∀ c ∈ d.finish.table.columns,
      ∃ c' ∈ d.table.columns, c = c'.assignAll d.keys := by
    intro c mem
    rw [table] at mem
    obtain ⟨c', mem', rfl⟩ := List.mem_map.mp mem
    exact ⟨c', mem', rfl⟩
  constructor
  case words =>
    intro c mem
    obtain ⟨c', mem', rfl⟩ := column c mem
    rw [Column.name_assignAll]
    exact h.words c' mem'
  case distinct =>
    simpa [table, Function.comp_def] using h.distinct
  case required =>
    intro c mem key
    obtain ⟨c', mem', rfl⟩ := column c mem
    rw [Column.primaryKey_assignAll] at key
    rw [Column.nullable_assignAll]
    exact h.required c' mem' key
  case sources =>
    rw [relations, table]
    exact h.sources
  case declared =>
    intro c mem target refers
    obtain ⟨c', mem', rfl⟩ := column c mem
    rw [relations, table, Column.name_assignAll]
    rcases Column.references_assignAll refers with own | ⟨k, waiting, on, rfl⟩
    · exact h.inline c' mem' target own
    · exact on ▸ h.keyed k waiting
  case marked =>
    intro r mem c inside same
    obtain ⟨c', mem', rfl⟩ := column c inside
    rw [Column.name_assignAll] at same
    rw [relations] at mem
    apply Column.isForeignKey_assignAll
    rcases h.origins r mem with ⟨c'', mem'', on, marked⟩ | ⟨k, waiting, on⟩
    · cases List.inj_on_of_nodup_map h.distinct mem' mem'' (same.trans on.symm)
      exact .inl marked
    · exact .inr ⟨k, waiting, on.trans same.symm⟩

theorem Table.read_consistent (name body : Text) : (Table.read name body).Consistent :=
  ((Draft.start_consistent name).addClauses _).finish

theorem Table.name_read (name body : Text) : (Table.read name body).table.name = name := by
  have drafted := ((Draft.start_consistent name).addClauses (clauses true body)).distinct
  rw [Table.read, Draft.table_finish drafted]
  exact Draft.name_addClauses _ _

-- ---------------------------------------------------------------------------
-- A script
-- ---------------------------------------------------------------------------

theorem Schema.empty_consistent : Schema.empty.Consistent where
  table_words := by simp [Schema.empty]
  tables_distinct := by simp [Schema.empty]
  column_words := by simp [Schema.empty]
  columns_distinct := by simp [Schema.empty]
  keys_required := by simp [Schema.empty]
  cardinality := by simp [Schema.empty]
  sources := by simp [Schema.empty]
  grouped := by simp [Schema.empty]
  declared := by simp [Schema.empty]
  marked := by simp [Schema.empty]

theorem Schema.table?_eq_none_iff {s : Schema} {name : Text} :
    s.table? name = none ↔ ∀ t ∈ s.tables, t.name ≠ name := by
  simp [Schema.table?, List.find?_eq_none]

/-- A schema with one more table, unless it has one of that name. -/
def Schema.addReading (s : Schema) (r : TableReading) : Schema :=
  if (s.table? r.table.name).isSome then s
  else ⟨s.tables ++ [r.table], s.relations ++ r.relations⟩

theorem SchemaReading.schema_addFinding_statement (r : SchemaReading) (st : Statement) :
    (r.addFinding (.statement st)).schema = r.schema.addReading (Table.read st.name st.body) := by
  rw [addFinding, Schema.addReading, Table.name_read]
  split <;> rfl

theorem Schema.addReading_of_some {s : Schema} {r : TableReading}
    (h : s.table? r.table.name ≠ none) : s.addReading r = s := by
  rw [addReading, if_pos (Option.isSome_iff_ne_none.mpr h)]

theorem Schema.addReading_of_none {s : Schema} {r : TableReading}
    (h : s.table? r.table.name = none) :
    s.addReading r = ⟨s.tables ++ [r.table], s.relations ++ r.relations⟩ := by
  rw [addReading, if_neg (by simp [h])]

/-- Relations in groups stay so when a table of a new name comes with its own. -/
theorem grouped_append {ts : List Table} {old new : List Relation} {t : Table}
    (grouped : old = ts.flatMap fun t' => old.filter fun r => r.source.table = t'.name)
    (fresh : ∀ t' ∈ ts, t'.name ≠ t.name) (oldSource : ∀ r ∈ old, r.source.table ≠ t.name)
    (newSource : ∀ r ∈ new, r.source.table = t.name) :
    old ++ new =
      (ts ++ [t]).flatMap fun t' => (old ++ new).filter fun r => r.source.table = t'.name := by
  have earlier : ∀ t' ∈ ts, (old ++ new).filter (·.source.table = t'.name) =
      old.filter (·.source.table = t'.name) := by
    intro t' mem
    rw [List.filter_append, List.append_right_eq_self, List.filter_eq_nil_iff]
    intro r added same
    exact fresh t' mem ((of_decide_eq_true same).symm.trans (newSource r added))
  have own : (old ++ new).filter (·.source.table = t.name) = new := by
    have none : old.filter (·.source.table = t.name) = [] := by
      rw [List.filter_eq_nil_iff]
      intro r mem same
      exact oldSource r mem (of_decide_eq_true same)
    have all : new.filter (·.source.table = t.name) = new := by
      rw [List.filter_eq_self]
      intro r mem
      exact decide_eq_true (newSource r mem)
    rw [List.filter_append, none, all, List.nil_append]
  rw [List.flatMap_append, List.flatMap_cons, List.flatMap_nil, List.append_nil, own]
  conv => lhs; rw [grouped]
  rw [List.flatMap_congr earlier]

theorem Schema.Consistent.add {s : Schema} (h : s.Consistent) {r : TableReading}
    (word : Text.IsWord r.table.name) (fresh : ∀ t ∈ s.tables, t.name ≠ r.table.name)
    (ht : r.Consistent) :
    Schema.Consistent ⟨s.tables ++ [r.table], s.relations ++ r.relations⟩ := by
  have table : ∀ t ∈ s.tables ++ [r.table], t ∈ s.tables ∨ t = r.table := by simp
  have oldSource : ∀ rel ∈ s.relations, rel.source.table ≠ r.table.name := by
    intro rel mem same
    obtain ⟨t, inside, named⟩ := h.sources rel mem
    exact fresh t inside (named.trans same)
  constructor
  case table_words =>
    intro t mem
    rcases table t mem with mem | rfl
    · exact h.table_words t mem
    · exact word
  case tables_distinct =>
    simp only [List.map_append, List.map_cons, List.map_nil]
    refine List.nodup_append.mpr ⟨h.tables_distinct, by simp, ?_⟩
    rintro a ha b hb rfl
    obtain ⟨t, mem, same⟩ := List.mem_map.mp ha
    exact fresh t mem (same.trans (List.mem_singleton.mp hb))
  case column_words =>
    intro t mem
    rcases table t mem with mem | rfl
    · exact h.column_words t mem
    · exact ht.words
  case columns_distinct =>
    intro t mem
    rcases table t mem with mem | rfl
    · exact h.columns_distinct t mem
    · exact ht.distinct
  case keys_required =>
    intro t mem
    rcases table t mem with mem | rfl
    · exact h.keys_required t mem
    · exact ht.required
  case cardinality =>
    intro rel mem
    rcases List.mem_append.mp mem with mem | mem
    · exact h.cardinality rel mem
    · exact (ht.sources rel mem).2
  case sources =>
    intro rel mem
    rcases List.mem_append.mp mem with mem | mem
    · obtain ⟨t, inside, named⟩ := h.sources rel mem
      exact ⟨t, by simp [inside], named⟩
    · exact ⟨r.table, by simp, (ht.sources rel mem).1.symm⟩
  case grouped =>
    exact grouped_append h.grouped fresh oldSource fun rel mem => (ht.sources rel mem).1
  case declared =>
    intro t mem c inside target refers
    rcases table t mem with mem | rfl
    · exact List.mem_append_left _ (h.declared t mem c inside target refers)
    · exact List.mem_append_right _ (ht.declared c inside target refers)
  case marked =>
    intro rel mem t inside named
    rcases List.mem_append.mp mem with mem | mem <;> rcases table t inside with inside | rfl
    · exact h.marked rel mem t inside named
    · exact absurd named.symm (oldSource rel mem)
    · exact absurd (named.trans (ht.sources rel mem).1) (fresh t inside)
    · exact ht.marked rel mem

theorem Schema.Consistent.addReading {s : Schema} (h : s.Consistent) {r : TableReading}
    (word : Text.IsWord r.table.name) (hr : r.Consistent) : (s.addReading r).Consistent := by
  by_cases new : s.table? r.table.name = none
  · rw [Schema.addReading_of_none new]
    exact h.add word (Schema.table?_eq_none_iff.mp new) hr
  · rw [Schema.addReading_of_some new]
    exact h

theorem SchemaReading.addFinding_consistent {r : SchemaReading} (h : r.schema.Consistent)
    {f : Finding} (word : ∀ st, f = .statement st → Text.IsWord st.name) :
    (r.addFinding f).schema.Consistent := by
  cases f with
  | unclosed name => exact h
  | statement st =>
    rw [schema_addFinding_statement]
    refine h.addReading ?_ (Table.read_consistent st.name st.body)
    rw [Table.name_read]
    exact word st rfl

theorem SchemaReading.addFindings_consistent {fs : List Finding} {r : SchemaReading}
    (h : r.schema.Consistent)
    (words : ∀ st, .statement st ∈ fs → Text.IsWord st.name) :
    (fs.foldl SchemaReading.addFinding r).schema.Consistent := by
  induction fs generalizing r with
  | nil => exact h
  | cons f fs ih =>
    refine ih (SchemaReading.addFinding_consistent h ?_) fun st mem =>
      words st (List.mem_cons_of_mem _ mem)
    rintro st rfl
    exact words st (List.mem_cons_self ..)

theorem isWord_of_mem_findings (h : .statement st ∈ findings text) : Text.IsWord st.name := by
  obtain ⟨-, ⟨u, hu, -⟩, -⟩ := (search_findings text).liesIn h
  exact hu.isWord

theorem schema_read (script : Text) :
    (Schema.read script).schema =
      ((findings (Text.normalize script)).foldl SchemaReading.addFinding .empty).schema := by
  unfold Schema.read
  split
  · next empty =>
    have nothing : findings (Text.normalize []) = [] := by decide +kernel
    rw [List.isEmpty_iff.mp empty, nothing]
    rfl
  · rfl

/-- Whatever the script is, the schema read from it is consistent. -/
theorem schema_read_consistent (script : Text) : (Schema.read script).schema.Consistent := by
  rw [schema_read]
  exact SchemaReading.addFindings_consistent Schema.empty_consistent
    fun st mem => isWord_of_mem_findings mem

end SchemaChart
