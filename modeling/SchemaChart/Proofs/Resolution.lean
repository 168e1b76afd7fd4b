import SchemaChart.Schema.Reading

/-!
# Resolving keys

Keys are matched with columns one after the other. On a table whose column names are
distinct the whole of it is a map over the columns: every column takes the target of
the last key on it, and nothing else of the table or of its relations changes.
-/

namespace SchemaChart

def Column.assign (c : Column) (k : Key) : Column :=
  if k.column = c.name then { c with references := some k.target } else c

/-- A column after a row of keys; the last one on it counts. -/
def Column.assignAll (ks : List Key) (c : Column) : Column := ks.foldl Column.assign c

/-- With distinct keys the first match is the only one. -/
theorem updateFirst_eq_map [DecidableEq β] {key : α → β} (f : α → α)
    (h : (xs.map key).Nodup) :
    updateFirst (key · = b) f xs = xs.map fun a => if key a = b then f a else a := by
  induction xs with
  | nil => rfl
  | cons a xs ih =>
    obtain ⟨fresh, rest⟩ := List.nodup_cons.mp h
    by_cases same : key a = b
    · have others : ∀ a' ∈ xs, key a' ≠ b := by
        rintro a' mem rfl
        exact fresh (same ▸ List.mem_map_of_mem mem)
      have kept : (xs.map fun a => if key a = b then f a else a) = xs := by
        rw [List.map_congr_left fun a' mem => if_neg (others a' mem), List.map_id']
      simp [updateFirst, same, kept]
    · simp [updateFirst, same, ih rest]

-- ---------------------------------------------------------------------------
-- One column
-- ---------------------------------------------------------------------------

@[simp] theorem Column.name_assign (c : Column) (k : Key) : (c.assign k).name = c.name := by
  unfold Column.assign
  split <;> rfl

@[simp] theorem Column.primaryKey_assign (c : Column) (k : Key) :
    (c.assign k).primaryKey = c.primaryKey := by
  unfold Column.assign
  split <;> rfl

@[simp] theorem Column.nullable_assign (c : Column) (k : Key) :
    (c.assign k).nullable = c.nullable := by
  unfold Column.assign
  split <;> rfl

theorem Column.assignAll_cons (k : Key) (ks : List Key) (c : Column) :
    c.assignAll (k :: ks) = (c.assign k).assignAll ks := rfl

@[simp] theorem Column.name_assignAll (ks : List Key) (c : Column) :
    (c.assignAll ks).name = c.name := by
  induction ks generalizing c with
  | nil => rfl
  | cons k ks ih => rw [assignAll_cons, ih, name_assign]

@[simp] theorem Column.primaryKey_assignAll (ks : List Key) (c : Column) :
    (c.assignAll ks).primaryKey = c.primaryKey := by
  induction ks generalizing c with
  | nil => rfl
  | cons k ks ih => rw [assignAll_cons, ih, primaryKey_assign]

@[simp] theorem Column.nullable_assignAll (ks : List Key) (c : Column) :
    (c.assignAll ks).nullable = c.nullable := by
  induction ks generalizing c with
  | nil => rfl
  | cons k ks ih => rw [assignAll_cons, ih, nullable_assign]

/-- What a column refers to in the end was declared: with the column or by a key. -/
theorem Column.references_assignAll {c : Column} (h : (c.assignAll ks).references = some target) :
    c.references = some target ∨ ∃ k ∈ ks, k.column = c.name ∧ k.target = target := by
  induction ks generalizing c with
  | nil => exact .inl h
  | cons k ks ih =>
    rw [assignAll_cons] at h
    rcases ih h with own | ⟨k', mem, on, same⟩
    · by_cases on : k.column = c.name
      · rw [assign, if_pos on] at own
        exact .inr ⟨k, by simp, on, Option.some.inj own⟩
      · rw [assign, if_neg on] at own
        exact .inl own
    · rw [name_assign] at on
      exact .inr ⟨k', List.mem_cons_of_mem _ mem, on, same⟩

theorem Column.isForeignKey_assign {c : Column} (h : c.isForeignKey = true ∨ k.column = c.name) :
    (c.assign k).isForeignKey = true := by
  unfold Column.assign
  split
  · rfl
  · next other => exact h.resolve_right other

theorem Column.isForeignKey_assignAll {c : Column}
    (h : c.isForeignKey = true ∨ ∃ k ∈ ks, k.column = c.name) :
    (c.assignAll ks).isForeignKey = true := by
  induction ks generalizing c with
  | nil => simpa [assignAll] using h
  | cons k ks ih =>
    rw [assignAll_cons]
    apply ih
    rcases h with own | ⟨k', mem, on⟩
    · exact .inl (isForeignKey_assign (.inl own))
    · rcases List.mem_cons.mp mem with rfl | mem
      · exact .inl (isForeignKey_assign (.inr on))
      · exact .inr ⟨k', mem, by rwa [name_assign]⟩

theorem Column.assignAll_eq_self {c : Column} (h : ∀ k ∈ ks, k.column ≠ c.name) :
    c.assignAll ks = c := by
  induction ks with
  | nil => rfl
  | cons k ks ih =>
    obtain ⟨other, rest⟩ := List.forall_mem_cons.mp h
    rw [assignAll_cons, assign, if_neg other, ih rest]

theorem Column.assignAll_eq {c : Column} (same : ∀ k ∈ ks, k.column = c.name → k.target = target)
    (h : c.references = some target ∨ ∃ k ∈ ks, k.column = c.name) :
    c.assignAll ks = { c with references := some target } := by
  induction ks generalizing c with
  | nil =>
    have own : c.references = some target := by simpa using h
    rw [assignAll, List.foldl_nil, ← own]
  | cons k ks ih =>
    obtain ⟨first, rest⟩ := List.forall_mem_cons.mp same
    rw [assignAll_cons]
    by_cases on : k.column = c.name
    · have step : c.assign k = { c with references := some target } := by
        rw [assign, if_pos on, first on]
      rw [step]
      exact ih rest (.inl rfl)
    · have step : c.assign k = c := if_neg on
      rw [step]
      refine ih rest (h.imp_right ?_)
      rintro ⟨k', mem, on'⟩
      rcases List.mem_cons.mp mem with rfl | mem
      · exact absurd on' on
      · exact ⟨k', mem, on'⟩

-- ---------------------------------------------------------------------------
-- The table
-- ---------------------------------------------------------------------------

theorem Table.column?_eq_none_iff {t : Table} {column : Text} :
    t.column? column = none ↔ ∀ c ∈ t.columns, c.name ≠ column := by
  simp [Table.column?, List.find?_eq_none]

theorem Table.setReference_eq {t : Table} (h : (t.columns.map Column.name).Nodup) (k : Key) :
    t.setReference k.column k.target = { t with columns := t.columns.map (·.assign k) } := by
  have change : (fun c : Column => if c.name = k.column then { c with references := some k.target }
      else c) = fun c => c.assign k := by
    funext c
    rw [Column.assign]
    simp only [eq_comm]
  rw [Table.setReference, updateFirst_eq_map _ h, change]

theorem TableReading.table_resolve {r : TableReading}
    (h : (r.table.columns.map Column.name).Nodup) (k : Key) :
    (r.resolve k).table = { r.table with columns := r.table.columns.map (·.assign k) } := by
  rw [TableReading.resolve, Table.resolve]
  cases found : r.table.column? k.column with
  | some c => exact Table.setReference_eq h k
  | none =>
    have kept : r.table.columns.map (·.assign k) = r.table.columns := by
      have same : ∀ c ∈ r.table.columns, c.assign k = c := fun c mem =>
        if_neg (Ne.symm (Table.column?_eq_none_iff.mp found c mem))
      rw [List.map_congr_left same, List.map_id']
    simp [kept]

@[simp] theorem TableReading.relations_resolve (r : TableReading) (k : Key) :
    (r.resolve k).relations = r.relations := by
  unfold TableReading.resolve
  split <;> rfl

/-- Resolving a row of keys is a map over the columns. -/
theorem TableReading.table_resolveAll {r : TableReading} (ks : List Key)
    (h : (r.table.columns.map Column.name).Nodup) :
    (ks.foldl TableReading.resolve r).table =
      { r.table with columns := r.table.columns.map (·.assignAll ks) } := by
  induction ks generalizing r with
  | nil => simp [Column.assignAll]
  | cons k ks ih =>
    have step := r.table_resolve h k
    have names : ((r.resolve k).table.columns.map Column.name).Nodup := by
      simpa [step, Function.comp_def] using h
    rw [List.foldl_cons, ih names, step]
    simp [Column.assignAll_cons, Function.comp_def]

theorem TableReading.relations_resolveAll (ks : List Key) (r : TableReading) :
    (ks.foldl TableReading.resolve r).relations = r.relations := by
  induction ks generalizing r with
  | nil => rfl
  | cons k ks ih => rw [List.foldl_cons, ih, relations_resolve]

theorem Draft.table_finish {d : Draft} (h : (d.table.columns.map Column.name).Nodup) :
    d.finish.table = { d.table with columns := d.table.columns.map (·.assignAll d.keys) } :=
  TableReading.table_resolveAll d.keys h

theorem Draft.relations_finish (d : Draft) : d.finish.relations = d.relations :=
  TableReading.relations_resolveAll d.keys _

end SchemaChart
