import SchemaChart.Proofs.Declarations

/-!
# What a clause leaves behind

A clause that is read adds a column or relations, and one that is passed over is noted; what
it leaves stays to the end of the reading. `clause_leaves_trace`: this holds of every clause
of every body but for the `Keyless` ones, which begin like a foreign key and have no key that
can be read. Nothing tells that they were there.
-/

namespace SchemaChart

/-- The clause is taken for a foreign key, and there is no key in it. -/
def Keyless (clause : Text) : Prop :=
  ClauseKind.ofClause clause = .foreignKey ∧ Key.ofClause clause = []

instance (clause : Text) : Decidable (Keyless clause) := by
  unfold Keyless
  infer_instance

/-- What tells two drafts apart when a clause has been read in between. -/
inductive Draft.Trace (d d' : Draft) : Prop
  | column (c : Column) : d'.table.columns = d.table.columns ++ [c] → Trace d d'
  | relations (r : Relation) (more : List Relation) :
    d'.relations = d.relations ++ r :: more → Trace d d'
  | notice (n : Notice) : d'.notices = d.notices ++ [n] → Trace d d'

/-- A column apart from what it refers to, which keys may still change. -/
def Column.unlinked (c : Column) : Column := { c with references := none }

/-- What a draft holds stands at the front of a reading. -/
structure Draft.KeptIn (d : Draft) (r : TableReading) : Prop where
  columns : d.table.columns.map Column.unlinked <+: r.table.columns.map Column.unlinked
  relations : d.relations <+: r.relations
  notices : d.notices <+: r.notices

-- ---------------------------------------------------------------------------
-- One clause
-- ---------------------------------------------------------------------------

theorem Draft.Trace.ne {d d' : Draft} (h : d.Trace d') : d' ≠ d := by
  rintro rfl
  cases h with
  | column c added => simp at added
  | relations r more added => simp at added
  | notice n added => simp at added

theorem Draft.addClause_keyless (h : Keyless clause) (d : Draft) : d.addClause clause = d := by
  have entry : Entry.ofClause clause = .keys [] := by
    rw [Entry.ofClause, h.1, h.2]
  rw [addClause, entry]
  simp [addKeys]

theorem Draft.trace_addColumn (d : Draft) (c : Column) : d.Trace (d.addColumn c) := by
  unfold addColumn
  split
  · exact .notice _ rfl
  · exact .column c rfl

theorem Draft.trace_addClause (h : ¬Keyless clause) (d : Draft) :
    d.Trace (d.addClause clause) := by
  rw [addClause, Entry.ofClause]
  cases kind : ClauseKind.ofClause clause with
  | column =>
    cases Column.read? clause with
    | some c => exact d.trace_addColumn c
    | none => exact .notice _ rfl
  | foreignKey =>
    cases keys : Key.ofClause clause with
    | nil => exact absurd ⟨kind, keys⟩ h
    | cons k ks => exact .relations _ _ rfl
  | _ => exact .notice _ rfl

-- ---------------------------------------------------------------------------
-- A whole reading
-- ---------------------------------------------------------------------------

/-- What a draft holds stands at the front of a later draft. -/
structure Draft.Extends (d d' : Draft) : Prop where
  columns : d.table.columns <+: d'.table.columns
  relations : d.relations <+: d'.relations
  notices : d.notices <+: d'.notices

theorem Draft.Extends.refl (d : Draft) : d.Extends d :=
  ⟨List.prefix_rfl, List.prefix_rfl, List.prefix_rfl⟩

theorem Draft.Extends.trans {d d' d'' : Draft} (h : d.Extends d') (h' : d'.Extends d'') :
    d.Extends d'' :=
  ⟨h.columns.trans h'.columns, h.relations.trans h'.relations, h.notices.trans h'.notices⟩

theorem Draft.extends_note (d : Draft) (n : Notice) : d.Extends (d.note n) :=
  ⟨List.prefix_rfl, List.prefix_rfl, List.prefix_append _ _⟩

theorem Draft.extends_addColumn (d : Draft) (c : Column) : d.Extends (d.addColumn c) := by
  unfold addColumn
  split
  · exact d.extends_note _
  · exact ⟨List.prefix_append _ _, List.prefix_append _ _, List.prefix_rfl⟩

theorem Draft.extends_addClause (d : Draft) (clause : Text) : d.Extends (d.addClause clause) := by
  unfold addClause
  cases Entry.ofClause clause with
  | column c => exact d.extends_addColumn c
  | keys ks => exact ⟨List.prefix_rfl, List.prefix_append _ _, List.prefix_rfl⟩
  | unreadable => exact d.extends_note _
  | constraint kind => exact d.extends_note _

theorem Draft.extends_addClauses (cs : List Text) (d : Draft) :
    d.Extends (cs.foldl Draft.addClause d) := by
  induction cs generalizing d with
  | nil => exact .refl d
  | cons clause cs ih => exact (d.extends_addClause clause).trans (ih _)

theorem TableReading.notices_resolve (r : TableReading) (k : Key) :
    r.notices <+: (r.resolve k).notices := by
  unfold resolve
  split
  · exact List.prefix_rfl
  · exact List.prefix_append _ _

theorem TableReading.notices_resolveAll (ks : List Key) (r : TableReading) :
    r.notices <+: (ks.foldl TableReading.resolve r).notices := by
  induction ks generalizing r with
  | nil => exact List.prefix_rfl
  | cons k ks ih => exact (r.notices_resolve k).trans (ih _)

/-- Resolving the keys changes only what columns refer to, and adds notices. -/
theorem Draft.keptIn_finish {d : Draft} (h : d.Consistent) : d.KeptIn d.finish where
  columns := by
    have same : Column.unlinked ∘ (·.assignAll d.keys) = Column.unlinked := by
      funext c
      simp [Column.assignAll_eq_last, Column.unlinked]
    rw [Draft.table_finish h.distinct, List.map_map, same]
  relations := by rw [Draft.relations_finish]
  notices := TableReading.notices_resolveAll d.keys ⟨d.table, d.relations, d.notices⟩

theorem Draft.Extends.keptIn {d d' : Draft} (h : d.Extends d') {r : TableReading}
    (kept : d'.KeptIn r) : d.KeptIn r :=
  ⟨(h.columns.map _).trans kept.columns, h.relations.trans kept.relations,
    h.notices.trans kept.notices⟩

/-- Every clause of a body leaves a trace when its turn comes, and what it leaves stays,
unless it is keyless. -/
theorem clause_leaves_trace (name body : Text)
    (cut : clauses true body = before ++ clause :: after) :
    let d := before.foldl Draft.addClause (.start name)
    (d.Trace (d.addClause clause) ↔ ¬Keyless clause) ∧
      (d.addClause clause).KeptIn (Table.read name body) := by
  intro d
  constructor
  · exact ⟨fun trace keyless => trace.ne (d.addClause_keyless keyless), (d.trace_addClause ·)⟩
  · -- the clauses behind it extend the draft, and so does the end of the reading
    have drafted := (Draft.start_consistent name).addClauses (clauses true body)
    have later := (d.addClause clause).extends_addClauses after
    rw [Table.read]
    refine Draft.Extends.keptIn ?_ (Draft.keptIn_finish drafted)
    rw [cut, List.foldl_append, List.foldl_cons]
    exact later

/-- A repeated column between a key in front of its column and an index. -/
theorem clause_leaves_trace_repeated :
    let body : Text := "FOREIGN KEY (a) REFERENCES r (x), a INT, a TEXT, KEY k (a)"
    let before : List Text := ["FOREIGN KEY (a) REFERENCES r (x)", "a INT"]
    let repeated : Text := "a TEXT"
    let d := before.foldl Draft.addClause (.start "t")
    clauses true body = before ++ repeated :: ["KEY k (a)".toList] ∧
      d.Trace (d.addClause repeated) ∧ (d.addClause repeated).KeptIn (Table.read "t" body) := by
  intro body before repeated d
  have cut : clauses true body = before ++ repeated :: ["KEY k (a)".toList] := by decide
  obtain ⟨trace, kept⟩ := clause_leaves_trace "t" body cut
  exact ⟨cut, trace.mpr (by decide), kept⟩

/-- A foreign key that names no column of the other table is gone without a relation or a
notice. -/
theorem clause_without_trace :
    let body : Text := "a INT, FOREIGN KEY (a) REFERENCES r"
    let d := (Draft.start "t").addClause "a INT"
    clauses true body = ["a INT", "FOREIGN KEY (a) REFERENCES r"] ∧
      ¬d.Trace (d.addClause "FOREIGN KEY (a) REFERENCES r") ∧
      Table.read "t" body = ⟨⟨"t", [⟨"a", "INT", false, true, none⟩]⟩, [], []⟩ := by
  intro body d
  have keyless : Keyless "FOREIGN KEY (a) REFERENCES r" := by decide
  exact ⟨by decide, fun trace => trace.ne (d.addClause_keyless keyless), by decide⟩

end SchemaChart
