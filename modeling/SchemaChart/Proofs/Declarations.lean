import SchemaChart.Proofs.Consistency

/-!
# What a table takes from its clauses

`table_read_declared`: a table has the columns of its column clauses, the first one of
every name, and each refers to the target of the last key on it in the whole body, or to
its own one if there is no key on it. So clauses of one kind may stand anywhere among
those of the other.

The relations are those of the clauses in their order: a repeated column has none, and a
key has one even if its column is never declared.
-/

namespace SchemaChart

/-- The columns that the column clauses declare, repeated ones too. -/
def declaredColumns (cs : List Text) : List Column :=
  (cs.filter (ClauseKind.ofClause · = .column)).filterMap Column.read?

/-- The keys that the foreign key clauses declare. -/
def declaredKeys (cs : List Text) : List Key :=
  (cs.filter (ClauseKind.ofClause · = .foreignKey)).flatMap Key.ofClause

/-- Leaves out every column that has the name of an earlier one. -/
def firstOfName : List Column → List Column
  | [] => []
  | c :: rest => c :: (firstOfName rest).filter (·.name ≠ c.name)

/-- What the last key on a column refers to. -/
def lastTarget? (ks : List Key) (column : Text) : Option ColumnRef :=
  (ks.filter (·.column = column)).getLast?.map Key.target

/-- The relations that a clause declares behind other ones. -/
def clauseRelations (table : Text) (before : List Text) (clause : Text) : List Relation :=
  match ClauseKind.ofClause clause with
  | .column =>
    match Column.read? clause with
    | some c =>
      if (declaredColumns before).any (·.name = c.name) then []
      else
        match c.references with
        | some target => [.ofKey ⟨table, c.name⟩ target]
        | none => []
    | none => []
  | .foreignKey => (Key.ofClause clause).map fun k => .ofKey ⟨table, k.column⟩ k.target
  | _ => []

/-- The relations of a row of clauses, clause by clause. -/
def bodyRelations (table : Text) (before : List Text) : List Text → List Relation
  | [] => []
  | clause :: rest =>
    clauseRelations table before clause ++ bodyRelations table (before ++ [clause]) rest

-- ---------------------------------------------------------------------------
-- One more clause, one more column, one more key
-- ---------------------------------------------------------------------------

theorem declaredColumns_concat (cs : List Text) (clause : Text) :
    declaredColumns (cs ++ [clause]) = declaredColumns cs ++ declaredColumns [clause] := by
  simp [declaredColumns]

theorem declaredKeys_concat (cs : List Text) (clause : Text) :
    declaredKeys (cs ++ [clause]) = declaredKeys cs ++ declaredKeys [clause] := by
  simp [declaredKeys]

theorem bodyRelations_concat (table : Text) (before cs : List Text) (clause : Text) :
    bodyRelations table before (cs ++ [clause]) =
      bodyRelations table before cs ++ clauseRelations table (before ++ cs) clause := by
  induction cs generalizing before with
  | nil => simp [bodyRelations]
  | cons first cs ih => simp [bodyRelations, ih]

theorem firstOfName_concat (xs : List Column) (c : Column) :
    firstOfName (xs ++ [c]) =
      if xs.any (·.name = c.name) then firstOfName xs else firstOfName xs ++ [c] := by
  induction xs with
  | nil => rfl
  | cons x xs ih =>
    rw [List.cons_append, firstOfName, ih, firstOfName, List.any_cons]
    by_cases later : xs.any (·.name = c.name) = true
    · simp [later]
    · by_cases same : x.name = c.name
      · simp [later, same]
      · simp [later, same, Ne.symm same]

theorem any_firstOfName (xs : List Column) (name : Text) :
    (firstOfName xs).any (·.name = name) = xs.any (·.name = name) := by
  induction xs with
  | nil => rfl
  | cons x xs ih =>
    rw [firstOfName, List.any_cons, List.any_cons, ← ih, List.any_filter]
    by_cases same : x.name = name
    · simp [same]
    · have unmoved : ∀ c : Column, (decide (c.name ≠ x.name) && decide (c.name = name)) =
          decide (c.name = name) := by
        intro c
        by_cases named : c.name = name
        · simp [named, Ne.symm same]
        · simp [named]
      simp only [unmoved]

theorem lastTarget?_concat (ks : List Key) (k : Key) (column : Text) :
    lastTarget? (ks ++ [k]) column =
      if k.column = column then some k.target else lastTarget? ks column := by
  by_cases on : k.column = column
  · simp [lastTarget?, on]
  · simp [lastTarget?, on]

/-- Assigning a row of keys leaves the target of the last one. -/
theorem Column.assignAll_eq_last (ks : List Key) (c : Column) :
    c.assignAll ks = { c with references := (lastTarget? ks c.name).or c.references } := by
  induction ks using List.reverseRecOn with
  | nil => rfl
  | append_singleton ks k ih =>
    rw [assignAll, List.foldl_append, List.foldl_cons, List.foldl_nil, ← assignAll, ih,
      lastTarget?_concat]
    by_cases on : k.column = c.name
    · simp [assign, on]
    · simp [assign, on]

-- ---------------------------------------------------------------------------
-- The draft behind a row of clauses
-- ---------------------------------------------------------------------------

/-- What a draft holds when the given clauses have been read. -/
structure Draft.Follows (d : Draft) (name : Text) (cs : List Text) : Prop where
  table : d.table = ⟨name, firstOfName (declaredColumns cs)⟩
  keys : d.keys = declaredKeys cs
  relations : d.relations = bodyRelations name [] cs

theorem Draft.start_follows (name : Text) : (Draft.start name).Follows name [] := ⟨rfl, rfl, rfl⟩

theorem Draft.Follows.isSome_column? {d : Draft} (h : d.Follows name cs) (column : Text) :
    (d.table.column? column).isSome = (declaredColumns cs).any (·.name = column) := by
  rw [← any_firstOfName, Table.column?, h.table, Bool.eq_iff_iff, List.find?_isSome,
    List.any_eq_true]

/-- A clause that adds nothing leaves all but the notices. -/
theorem Draft.Follows.note {d : Draft} (h : d.Follows name cs) (n : Notice)
    (columns : firstOfName (declaredColumns (cs ++ [clause])) = firstOfName (declaredColumns cs))
    (keys : declaredKeys [clause] = []) (relations : clauseRelations name cs clause = []) :
    (d.note n).Follows name (cs ++ [clause]) where
  table := columns ▸ h.table
  keys := by rw [declaredKeys_concat, keys, List.append_nil]; exact h.keys
  relations := by
    rw [bodyRelations_concat, List.nil_append, relations, List.append_nil]
    exact h.relations

theorem Draft.Follows.addColumn {d : Draft} (h : d.Follows name cs)
    (kind : ClauseKind.ofClause clause = .column) (read : Column.read? clause = some c) :
    (d.addColumn c).Follows name (cs ++ [clause]) := by
  have columns : declaredColumns [clause] = [c] := by simp [declaredColumns, kind, read]
  have keys : declaredKeys [clause] = [] := by simp [declaredKeys, kind]
  rw [Draft.addColumn, h.isSome_column?]
  by_cases repeated : (declaredColumns cs).any (·.name = c.name) = true
  · rw [if_pos repeated]
    refine h.note _ ?_ keys (by simp [clauseRelations, kind, read, repeated])
    rw [declaredColumns_concat, columns, firstOfName_concat, if_pos repeated]
  · rw [if_neg repeated]
    constructor
    case table =>
      rw [declaredColumns_concat, columns, firstOfName_concat, if_neg repeated, Table.addColumn,
        h.table]
    case keys =>
      rw [declaredKeys_concat, keys, List.append_nil]
      exact h.keys
    case relations =>
      rw [bodyRelations_concat, clauseRelations, kind, read]
      cases refers : c.references <;>
        simp [repeated, refers, Draft.inlineRelation, h.relations, h.table]

theorem Draft.Follows.addKeys {d : Draft} (h : d.Follows name cs)
    (kind : ClauseKind.ofClause clause = .foreignKey) :
    (d.addKeys (Key.ofClause clause)).Follows name (cs ++ [clause]) where
  table := by
    have columns : declaredColumns [clause] = [] := by simp [declaredColumns, kind]
    rw [declaredColumns_concat, columns, List.append_nil]
    exact h.table
  keys := by
    have keys : declaredKeys [clause] = Key.ofClause clause := by simp [declaredKeys, kind]
    rw [declaredKeys_concat, keys, ← h.keys]
    rfl
  relations := by
    rw [bodyRelations_concat, clauseRelations, kind, ← h.relations]
    simp [Draft.addKeys, h.table]

theorem Draft.Follows.addClause {d : Draft} (h : d.Follows name cs) (clause : Text) :
    (d.addClause clause).Follows name (cs ++ [clause]) := by
  rw [Draft.addClause, Entry.ofClause]
  cases kind : ClauseKind.ofClause clause with
  | column =>
    cases read : Column.read? clause with
    | some c => exact h.addColumn kind read
    | none =>
      exact h.note _ (by simp [declaredColumns, kind, read]) (by simp [declaredKeys, kind])
        (by simp [clauseRelations, kind, read])
  | foreignKey => exact h.addKeys kind
  | _ =>
    exact h.note _ (by simp [declaredColumns, kind]) (by simp [declaredKeys, kind])
      (by simp [clauseRelations, kind])

theorem Draft.Follows.addClauses {d : Draft} (h : d.Follows name before) (cs : List Text) :
    (cs.foldl Draft.addClause d).Follows name (before ++ cs) := by
  induction cs generalizing d before with
  | nil => simpa using h
  | cons clause cs ih => simpa using ih (h.addClause clause)

theorem Table.table_read (name body : Text) : (Table.read name body).table =
    ⟨name, (firstOfName (declaredColumns (clauses true body))).map
      (Column.assignAll (declaredKeys (clauses true body)))⟩ := by
  have drafted := (Draft.start_follows name).addClauses (clauses true body)
  have distinct := ((Draft.start_consistent name).addClauses (clauses true body)).distinct
  rw [List.nil_append] at drafted
  rw [Table.read, Draft.table_finish distinct, drafted.table, drafted.keys]

theorem Table.relations_read (name body : Text) :
    (Table.read name body).relations = bodyRelations name [] (clauses true body) := by
  have drafted := (Draft.start_follows name).addClauses (clauses true body)
  rw [List.nil_append] at drafted
  rw [Table.read, Draft.relations_finish, drafted.relations]

/-- A table and its relations, from the clauses of its body: the columns as declared, with
the target of the last key on them, and the relations clause by clause. -/
theorem table_read_declared (name body : Text) :
    (Table.read name body).table = ⟨name, (firstOfName (declaredColumns (clauses true body))).map
        fun c => { c with references :=
          (lastTarget? (declaredKeys (clauses true body)) c.name).or c.references }⟩ ∧
      (Table.read name body).relations = bodyRelations name [] (clauses true body) := by
  have drafted := (Draft.start_follows name).addClauses (clauses true body)
  have distinct := ((Draft.start_consistent name).addClauses (clauses true body)).distinct
  rw [List.nil_append] at drafted
  constructor
  · rw [Table.read, Draft.table_finish distinct, drafted.table, drafted.keys]
    simp only [Column.assignAll_eq_last]
  · rw [Table.read, Draft.relations_finish, drafted.relations]

/-- A key before its column, a repeated column and a key on no column at all. -/
example :
    Table.read "t" "FOREIGN KEY (a, z) REFERENCES s (x, y), a INT REFERENCES r (x), a TEXT" =
      ⟨⟨"t", [⟨"a", "INT", false, true, some ⟨"s", "x"⟩⟩]⟩,
        [.ofKey ⟨"t", "a"⟩ ⟨"s", "x"⟩, .ofKey ⟨"t", "z"⟩ ⟨"s", "y"⟩,
          .ofKey ⟨"t", "a"⟩ ⟨"r", "x"⟩],
        [.repeatedColumn "t" "a", .unknownColumn "t" "z"]⟩ := by
  decide +kernel

end SchemaChart
