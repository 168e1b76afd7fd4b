import SchemaChart.Proofs.Declarations
import SchemaChart.Proofs.Trimming

/-!
# The names in a relation

The table that a relation refers to is named by a word. Its columns are words too if it
comes from a column clause; those of a key clause are whatever stands between the commas,
but a normal script has no line feed that could get into them (`schema_read_drawable`).
-/

namespace SchemaChart

open Text

/-- What a diagram asks of a relation. -/
structure Relation.Drawable (r : Relation) : Prop where
  target : Text.IsWord r.target.table
  source_line : '\n' ∉ r.source.column
  target_line : '\n' ∉ r.target.column

structure Schema.Drawable (s : Schema) : Prop where
  consistent : s.Consistent
  relations : ∀ r ∈ s.relations, r.Drawable

theorem Text.IsWord.notMem {w : Text} (h : Text.IsWord w) (hd : isWord d = false) : d ∉ w :=
  fun mem => ne_of_isWord (h.2 d mem) hd rfl

-- ---------------------------------------------------------------------------
-- Cutting adds no characters
-- ---------------------------------------------------------------------------

theorem Text.subset_of_mem_pieces (h : piece ∈ pieces sep s) : piece ⊆ s := by
  induction s generalizing piece with
  | nil => simp_all [pieces]
  | cons c s ih =>
    rw [pieces] at h
    split at h
    · rcases List.mem_cons.mp h with rfl | h
      · exact List.nil_subset _
      · exact List.subset_cons_of_subset c (ih h)
    · split at h
      · next none => exact absurd none (pieces_ne_nil sep s)
      · next first more cut =>
        rcases List.mem_cons.mp h with rfl | h
        · exact List.cons_subset_cons c (ih (by rw [cut]; exact List.mem_cons_self))
        · exact List.subset_cons_of_subset c (ih (by rw [cut]; exact List.mem_cons_of_mem _ h))

theorem Text.subset_of_mem_nameList (h : name ∈ nameList s) : name ⊆ s := by
  obtain ⟨piece, mem, rfl⟩ := List.mem_map.mp (List.mem_filter.mp h).1
  exact List.Subset.trans (isInfix_trim _ _).subset
    (List.Subset.trans (isInfix_trim _ _).subset (subset_of_mem_pieces mem))

theorem Text.flatGroup?_subset (h : flatGroup? s = some (inside, rest)) :
    inside ⊆ s ∧ rest ⊆ s := by
  simp only [flatGroup?, bind, Option.bind_eq_some_iff] at h
  obtain ⟨t, opened, h⟩ := h
  obtain ⟨g, -, rfl⟩ := (mark?_eq_some_iff (by decide)).mp opened
  have behind : t ⊆ g ++ '(' :: t :=
    List.subset_append_of_subset_right g (List.subset_cons_self _ _)
  split at h
  · simp at h
  · next c after cut =>
    cases Option.some.inj h
    have tail : rest ⊆ t := fun d mem =>
      (List.dropWhile_sublist _).subset (cut ▸ List.mem_cons_of_mem c mem)
    have head : t.takeWhile (· ≠ ')') ⊆ t := (List.takeWhile_sublist _).subset
    exact ⟨List.Subset.trans head behind, List.Subset.trans tail behind⟩

theorem subset_of_mem_segments (h : piece ∈ segments aware s body) : piece ⊆ body := by
  induction body generalizing s piece with
  | nil => simp_all [segments]
  | cons c body ih =>
    rw [segments] at h
    split at h
    · rcases List.mem_cons.mp h with rfl | h
      · exact List.nil_subset _
      · exact List.subset_cons_of_subset c (ih h)
    · split at h
      · rw [List.mem_singleton.mp h]
        simp
      · next first more cut =>
        rcases List.mem_cons.mp h with rfl | h
        · exact List.cons_subset_cons c (ih (by rw [cut]; exact List.mem_cons_self))
        · exact List.subset_cons_of_subset c (ih (by rw [cut]; exact List.mem_cons_of_mem _ h))

theorem subset_of_mem_clauses (h : clause ∈ clauses aware body) : clause ⊆ body := by
  obtain ⟨piece, mem, rfl⟩ := List.mem_map.mp (List.mem_filter.mp h).1
  exact List.Subset.trans (isInfix_trim _ _).subset (subset_of_mem_segments mem)

theorem mem_collapse (h : c ∈ collapse after s) : c = ' ' ∨ isBlank c = false := by
  induction s generalizing after with
  | nil => simp [collapse] at h
  | cons d s ih =>
    rw [collapse] at h
    split at h
    · split at h
      · exact ih h
      · rcases List.mem_cons.mp h with rfl | h
        · exact .inl rfl
        · exact ih h
    · next letter =>
      rcases List.mem_cons.mp h with rfl | h
      · exact .inr (Bool.eq_false_iff.mpr letter)
      · exact ih h

theorem notMem_normalize (script : Text) : '\n' ∉ normalize script := by
  intro mem
  rcases mem_collapse ((isInfix_trim _ _).subset mem) with same | letter
  · exact absurd same (by decide)
  · exact absurd letter (by decide)

-- ---------------------------------------------------------------------------
-- Keys and references
-- ---------------------------------------------------------------------------

theorem mem_pairKeys (h : k ∈ pairKeys table own other) :
    k.target.table = table ∧ k.column ∈ own ∧
      (k.target.column ∈ own ∨ k.target.column ∈ other) := by
  fun_induction pairKeys table own other with
  | case1 => simp at h
  | case2 name more ih =>
    rcases List.mem_cons.mp h with rfl | h
    · simp
    · obtain ⟨on, column, target⟩ := ih h
      exact ⟨on, List.mem_cons_of_mem _ column, target.imp_left (List.mem_cons_of_mem _)⟩
  | case3 name more first others ih =>
    rcases List.mem_cons.mp h with rfl | h
    · simp
    · obtain ⟨on, column, target⟩ := ih h
      exact ⟨on, List.mem_cons_of_mem _ column,
        target.imp (List.mem_cons_of_mem _) (List.mem_cons_of_mem _)⟩

theorem Key.readList?_subset (h : Key.readList? s = some ks) :
    ∀ k ∈ ks, Text.IsWord k.target.table ∧ k.column ⊆ s ∧ k.target.column ⊆ s := by
  simp only [Key.readList?, bind, Option.bind_eq_some_iff, pure, Option.some.injEq] at h
  obtain ⟨a, readKey, ⟨own, b⟩, readOwn, c, readWord, d, readGap, ⟨table, e⟩, readTable,
    ⟨other, f⟩, readOther, rfl⟩ := h
  obtain ⟨u, -, rfl⟩ := phrase?_sound readKey
  obtain ⟨g, -, skipped⟩ := exists_skipBlanks b
  obtain ⟨v, -, cut⟩ := phrase?_sound readWord
  obtain ⟨g', -, rfl, -⟩ := blanks?_eq_some_iff.mp readGap
  obtain ⟨w, hw, rfl⟩ := qualifiedName?_sound readTable
  have inOwn := flatGroup?_subset readOwn
  have inOther := flatGroup?_subset readOther
  have after : other ⊆ b := by
    intro x mem
    rw [skipped, cut]
    simp [inOther.1 mem]
  have key {name : Text} (h : name ∈ nameList own ∨ name ∈ nameList other) : name ⊆ u ++ a := by
    refine List.subset_append_of_subset_right u ?_
    rcases h with mem | mem
    · exact List.Subset.trans (subset_of_mem_nameList mem) inOwn.1
    · exact List.Subset.trans (subset_of_mem_nameList mem) (List.Subset.trans after inOwn.2)
  intro k mem
  obtain ⟨on, column, target⟩ := mem_pairKeys mem
  exact ⟨on ▸ hw.isWord, key (.inl column), key target⟩

theorem Key.ofClause_subset (clause : Text) :
    ∀ k ∈ Key.ofClause clause,
      Text.IsWord k.target.table ∧ k.column ⊆ clause ∧ k.target.column ⊆ clause := by
  fun_induction Key.ofClause clause with
  | case1 => simp
  | case2 c rest ks read => exact Key.readList?_subset read
  | case3 c rest none ih =>
    intro k mem
    obtain ⟨word, column, target⟩ := ih k mem
    exact ⟨word, List.subset_cons_of_subset c column, List.subset_cons_of_subset c target⟩

theorem Text.reference?_words (h : reference? s = some target) :
    Text.IsWord target.table ∧ Text.IsWord target.column := by
  simp only [reference?, bind, Option.bind_eq_some_iff, pure, Option.some.injEq] at h
  obtain ⟨a, -, b, -, ⟨table, c⟩, readTable, d, -, ⟨column, e⟩, readColumn, f, -, rfl⟩ := h
  obtain ⟨u, hu, -⟩ := qualifiedName?_sound readTable
  obtain ⟨v, hv, -⟩ := name?_sound readColumn
  exact ⟨hu.isWord, hv.isWord⟩

theorem Text.firstReference?_words (h : firstReference? inWord s = some target) :
    Text.IsWord target.table ∧ Text.IsWord target.column := by
  fun_induction firstReference? inWord s with
  | case1 => simp at h
  | case2 inWord c rest found read =>
    split at read
    · simp at read
    · cases h
      exact reference?_words read
  | case3 inWord c rest none ih => exact ih h

-- ---------------------------------------------------------------------------
-- Relations
-- ---------------------------------------------------------------------------

theorem clauseRelations_drawable {before : List Text} (line : '\n' ∉ clause) :
    ∀ r ∈ clauseRelations table before clause, r.Drawable := by
  have blank : isWord '\n' = false := by decide
  intro r mem
  unfold clauseRelations at mem
  split at mem
  · split at mem
    · next c read =>
      split at mem
      · simp at mem
      · split at mem
        · next target referred =>
          rw [List.mem_singleton.mp mem]
          have name := (Column.read?_sound read).1
          simp only [Column.read?, bind, Option.bind_eq_some_iff, pure, Option.some.injEq] at read
          obtain ⟨_, -, _, -, _, -, rfl⟩ := read
          obtain ⟨table, column⟩ := firstReference?_words referred
          exact ⟨table, name.notMem blank, column.notMem blank⟩
        · simp at mem
    · simp at mem
  · obtain ⟨k, listed, rfl⟩ := List.mem_map.mp mem
    obtain ⟨word, column, target⟩ := Key.ofClause_subset clause k listed
    exact ⟨word, fun mem => line (column mem), fun mem => line (target mem)⟩
  · simp at mem

theorem bodyRelations_drawable {before : List Text} (lines : ∀ clause ∈ cs, '\n' ∉ clause) :
    ∀ r ∈ bodyRelations table before cs, r.Drawable := by
  induction cs generalizing before with
  | nil => simp [bodyRelations]
  | cons clause cs ih =>
    obtain ⟨line, lines⟩ := List.forall_mem_cons.mp lines
    exact List.forall_mem_append.mpr ⟨clauseRelations_drawable line, ih lines⟩

theorem Table.read_drawable {name : Text} (line : '\n' ∉ body) :
    ∀ r ∈ (Table.read name body).relations, r.Drawable := by
  rw [Table.relations_read]
  exact bodyRelations_drawable fun clause mem feed => line (subset_of_mem_clauses mem feed)

theorem Schema.empty_drawable : Schema.empty.Drawable where
  consistent := Schema.empty_consistent
  relations := by simp [Schema.empty]

theorem Schema.Drawable.addReading {s : Schema} (h : s.Drawable) {r : TableReading}
    (word : Text.IsWord r.table.name) (hr : r.Consistent)
    (drawable : ∀ rel ∈ r.relations, rel.Drawable) : (s.addReading r).Drawable where
  consistent := h.consistent.addReading word hr
  relations := by
    by_cases new : s.table? r.table.name = none
    · rw [Schema.addReading_of_none new]
      exact List.forall_mem_append.mpr ⟨h.relations, drawable⟩
    · rw [Schema.addReading_of_some new]
      exact h.relations

theorem SchemaReading.addFindings_drawable {fs : List Finding} {r : SchemaReading}
    (h : r.schema.Drawable) (words : ∀ st, .statement st ∈ fs → Text.IsWord st.name)
    (lines : ∀ st, .statement st ∈ fs → '\n' ∉ st.body) :
    (fs.foldl SchemaReading.addFinding r).schema.Drawable := by
  induction fs generalizing r with
  | nil => exact h
  | cons f fs ih =>
    refine ih ?_ (fun st mem => words st (List.mem_cons_of_mem _ mem))
      fun st mem => lines st (List.mem_cons_of_mem _ mem)
    cases f with
    | unclosed name => exact h
    | statement st =>
      rw [schema_addFinding_statement]
      refine h.addReading ?_ (Table.read_consistent st.name st.body)
        (Table.read_drawable (lines st List.mem_cons_self))
      rw [Table.name_read]
      exact words st List.mem_cons_self

/-- Whatever the script is, the schema read from it can be drawn. -/
theorem schema_read_drawable (script : Text) : (Schema.read script).schema.Drawable := by
  rw [schema_read]
  refine SchemaReading.addFindings_drawable Schema.empty_drawable
    (fun st mem => isWord_of_mem_findings mem) fun st mem feed => ?_
  have body := ((search_findings (normalize script)).liesIn mem).2.body
  rw [body] at feed
  exact notMem_normalize script (List.mem_of_mem_drop (List.mem_of_mem_take feed))

end SchemaChart
