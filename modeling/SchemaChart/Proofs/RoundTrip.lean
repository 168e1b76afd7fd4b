import SchemaChart.Proofs.Clauses
import SchemaChart.Proofs.Consistency

/-!
# Printed tables are read back

`schema_read_print`: a script that prints tables gives these tables in their order, and
every reference as a relation, in the order of the clauses. Neither the marks around
names, nor the case of keywords, nor the place of a key among the clauses matters.
-/

namespace SchemaChart

open Text

-- ---------------------------------------------------------------------------
-- A body
-- ---------------------------------------------------------------------------

theorem Draft.inlineRelation_eq (table : Text) (c : Column) :
    inlineRelation table c = c.relations table := by
  rw [inlineRelation, Column.relations]
  cases c.references <;> rfl

theorem Draft.addClause_eq {d : Draft}
    (fresh : ∀ c ∈ (Entry.ofClause clause).ownColumns, d.table.column? c.name = none) :
    (d.addClause clause).table =
        ⟨d.table.name, d.table.columns ++ (Entry.ofClause clause).ownColumns⟩ ∧
      (d.addClause clause).keys = d.keys ++ (Entry.ofClause clause).ownKeys ∧
      (d.addClause clause).relations =
        d.relations ++ (Entry.ofClause clause).relations d.table.name := by
  rw [Draft.addClause]
  cases entry : Entry.ofClause clause with
  | column c =>
    have new : d.table.column? c.name = none := fresh c (by simp [entry, Entry.ownColumns])
    simp only [Draft.addColumn, new, Option.isSome_none, Bool.false_eq_true, if_false,
      Draft.inlineRelation_eq]
    exact ⟨rfl, (List.append_nil _).symm, rfl⟩
  | keys ks => exact ⟨by simp [Draft.addKeys, Entry.ownColumns], rfl, rfl⟩
  | unreadable =>
    simp [Draft.note, Entry.ownColumns, Entry.ownKeys, Entry.relations]
  | constraint kind =>
    simp [Draft.note, Entry.ownColumns, Entry.ownKeys, Entry.relations]

/-- Clauses that declare distinct columns are all taken over, in their order. -/
theorem Draft.addClauses_eq {cs : List Text} {d : Draft}
    (distinct : ((d.table.columns ++ (cs.map Entry.ofClause).flatMap Entry.ownColumns).map
      Column.name).Nodup) :
    (cs.foldl Draft.addClause d).table = ⟨d.table.name,
        d.table.columns ++ (cs.map Entry.ofClause).flatMap Entry.ownColumns⟩ ∧
      (cs.foldl Draft.addClause d).keys =
        d.keys ++ (cs.map Entry.ofClause).flatMap Entry.ownKeys ∧
      (cs.foldl Draft.addClause d).relations =
        d.relations ++ (cs.map Entry.ofClause).flatMap (Entry.relations d.table.name) := by
  induction cs generalizing d with
  | nil => simp
  | cons clause cs ih =>
    simp only [List.map_cons, List.flatMap_cons, List.foldl_cons, ← List.append_assoc]
      at distinct ⊢
    have fresh : ∀ c ∈ (Entry.ofClause clause).ownColumns, d.table.column? c.name = none := by
      intro c mem
      rw [Table.column?_eq_none_iff]
      intro c' old same
      rw [List.map_append, List.map_append] at distinct
      have apart := (List.nodup_append.mp (List.nodup_append.mp distinct).1).2.2
      exact apart _ (List.mem_map_of_mem old) _ (List.mem_map_of_mem mem) same
    obtain ⟨table, keys, relations⟩ := Draft.addClause_eq fresh
    have rest := @ih (d.addClause clause) (by rw [table]; exact distinct)
    rw [table, keys, relations] at rest
    exact rest

/-- With its keys resolved, a column of the printed body is the column itself. -/
theorem Layout.assignAll_inClause (l : Layout) {c : Column} (mem : c ∈ l.table.columns) :
    (c.inClause l.apart).assignAll (l.clauses.flatMap Entry.ownKeys) = c := by
  have origin : ∀ k ∈ l.clauses.flatMap Entry.ownKeys, k.column = c.name →
      l.apart c = true ∧ c.references = some k.target := by
    intro k waiting on
    obtain ⟨c', inside, own⟩ := List.mem_flatMap.mp (l.keys_clauses.mem_iff.mp waiting)
    obtain ⟨mem', apart⟩ := List.mem_filter.mp inside
    obtain ⟨target, refers, rfl⟩ := List.mem_map.mp own
    cases List.inj_on_of_nodup_map l.distinct mem' mem on
    exact ⟨apart, Option.mem_toList.mp refers⟩
  cases apart : l.apart c with
  | false =>
    rw [Column.inClause, if_neg (by simp [apart])]
    refine Column.assignAll_eq_self fun k waiting on => ?_
    simp [(origin k waiting on).1] at apart
  | true =>
    rw [Column.inClause, if_pos apart]
    cases refers : c.references with
    | none =>
      have bare : { c with references := none } = c := by rw [← refers]
      rw [bare]
      refine Column.assignAll_eq_self fun k waiting on => ?_
      simp [(origin k waiting on).2] at refers
    | some target =>
      have key : ⟨c.name, target⟩ ∈ l.clauses.flatMap Entry.ownKeys := by
        refine l.keys_clauses.mem_iff.mpr (List.mem_flatMap.mpr ⟨c, ?_, ?_⟩)
        · exact List.mem_filter.mpr ⟨mem, apart⟩
        · simp [Column.ownKeys, refers]
      have same : ∀ k ∈ l.clauses.flatMap Entry.ownKeys, k.column = c.name →
          k.target = target := fun k waiting on =>
        Option.some.inj ((origin k waiting on).2.symm.trans refers)
      have taken := @Column.assignAll_eq _ target { c with references := none } same
        (.inr ⟨_, key, rfl⟩)
      rw [taken, ← refers]

/-- A printed body gives the table and the relations of its clauses. -/
theorem BodyText.read {l : Layout} (h : BodyText l.clauses b) :
    (Table.read l.table.name b).table = l.table ∧
      (Table.read l.table.name b).relations = l.relations := by
  have entries := h.entries l.printable_clauses
  have names : (l.clauses.flatMap Entry.ownColumns).map Column.name =
      l.table.columns.map Column.name := by
    have kept : ∀ c : Column, (c.inClause l.apart).name = c.name := by
      intro c
      unfold Column.inClause
      split <;> rfl
    rw [l.columns_clauses, List.map_map]
    exact List.map_congr_left fun c _ => kept c
  have drafted := @Draft.addClauses_eq (clauses true b) (.start l.table.name) (by
    rw [entries, Draft.start, List.nil_append, names]
    exact l.distinct)
  rw [entries] at drafted
  obtain ⟨table, keys, relations⟩ := drafted
  have distinct : ((List.foldl Draft.addClause (Draft.start l.table.name)
      (clauses true b)).table.columns.map Column.name).Nodup := by
    rw [table, Draft.start, List.nil_append, names]
    exact l.distinct
  constructor
  · have resolved : (l.table.columns.map (Column.inClause l.apart)).map
        (Column.assignAll (l.clauses.flatMap Entry.ownKeys)) = l.table.columns := by
      have each : ∀ c ∈ l.table.columns, (Column.assignAll (l.clauses.flatMap Entry.ownKeys) ∘
          Column.inClause l.apart) c = c := fun c mem => l.assignAll_inClause mem
      rw [List.map_map, List.map_congr_left each, List.map_id']
    rw [Table.read, Draft.table_finish distinct, table, keys, Draft.start, List.nil_append,
      List.nil_append, l.columns_clauses, resolved]
  · rw [Table.read, Draft.relations_finish, relations]
    rfl

-- ---------------------------------------------------------------------------
-- A statement
-- ---------------------------------------------------------------------------

theorem TableText.header {l : Layout} (h : TableText l s) :
    ∃ u b, HeaderText l.table.name u ∧ BodyText l.clauses b ∧
      s = u ++ '(' :: (b ++ [')', ';']) := by
  cases h with
  | @mk u e d n b hu he hd hn hb =>
    have name := hn.name l.named
    have qualified : QualifiedText l.table.name (d ++ n) := by
      rcases hd with rfl | ⟨other, v, word, hv, rfl⟩
      · exact .bare name
      · simpa using QualifiedText.qualified (hv.name word) allBlank_nil allBlank_nil name
    have guard : GuardText e := by
      rcases he with rfl | ⟨v, hv, rfl⟩
      · exact .inl rfl
      · exact .inr ⟨v, [' '], hv.phrase (by decide), gap_space, rfl⟩
    refine ⟨_, b, .mk (hu.phrase (by decide)) gap_space guard qualified allBlank_space, hb, ?_⟩
    simp

/-- A printed table is found at its beginning, and the search goes on behind it. -/
theorem TableText.findingsFrom {l : Layout} (h : TableText l s) (origin : Nat) (r : Text) :
    ∃ st origin', st.name = l.table.name ∧ BodyText l.clauses st.body ∧
      findingsFrom origin (s ++ r) = .statement st :: SchemaChart.findingsFrom origin' r := by
  obtain ⟨u, b, hu, hb, rfl⟩ := h.header
  have read := Header.read?_append hu (b ++ ')' :: ';' :: r)
  have body : bodyLength? (b ++ ')' :: ';' :: r) = some b.length := by
    have ends : closing? true ⟨.outside, 1⟩ (')' :: ';' :: r) = some 0 := by
      simp [closing?, Scan.closes]
    rw [bodyLength?, (hb.balanced l.printable_clauses).closing?, ends]
    simp
  obtain ⟨c, rest, cut⟩ := List.exists_cons_of_ne_nil
    (by simp : u ++ '(' :: (b ++ ')' :: ';' :: r) ≠ [])
  have whole : u ++ '(' :: (b ++ [')', ';']) ++ r = c :: rest := by simp [← cut]
  rw [cut] at read
  rw [whole, findingsFrom_statement read body]
  have semicolon : Header.read? (';' :: r) = none := Header.read?_of_head (by decide) r
  have behind : (b ++ ')' :: ';' :: r).drop (b.length + 1) = ';' :: r := by
    rw [List.drop_append]
    simp
  simp only [behind, findingsFrom_cons semicolon]
  exact ⟨_, _, rfl, by simpa using hb, rfl⟩

-- ---------------------------------------------------------------------------
-- A script
-- ---------------------------------------------------------------------------

theorem ScriptText.addFindings (h : ScriptText ls s) {origin : Nat} {r : SchemaReading}
    (distinct : (r.schema.tables.map Table.name ++ ls.map (·.table.name)).Nodup) :
    ((findingsFrom origin s).foldl SchemaReading.addFinding r).schema =
      ⟨r.schema.tables ++ ls.map Layout.table,
        r.schema.relations ++ ls.flatMap Layout.relations⟩ := by
  induction h generalizing origin r with
  | @nil g hg =>
    have none := findingsFrom_blanks hg origin []
    rw [List.append_nil] at none
    rw [none, findingsFrom]
    simp
  | @cons g l s ls t hg ht hr ih =>
    obtain ⟨st, origin', named, body, found⟩ := ht.findingsFrom (origin + g.length) t
    obtain ⟨table, relations⟩ := body.read
    have new : r.schema.table? l.table.name = none := by
      rw [Schema.table?_eq_none_iff]
      intro old mem same
      exact (List.nodup_append.mp distinct).2.2 _ (List.mem_map_of_mem mem) _ (by simp) same
    have step : (r.addFinding (.statement st)).schema =
        ⟨r.schema.tables ++ [l.table], r.schema.relations ++ l.relations⟩ := by
      rw [SchemaReading.schema_addFinding_statement, named,
        Schema.addReading_of_none (by rw [table]; exact new), table, relations]
    rw [findingsFrom_blanks hg, found, List.foldl_cons, ih, step]
    · simp
    · rw [step]
      simpa using distinct

-- ---------------------------------------------------------------------------
-- Relations by columns
-- ---------------------------------------------------------------------------

def Key.relation (table : Text) (k : Key) : Relation := .ofKey ⟨table, k.column⟩ k.target

theorem Entry.relations_eq (table : Text) (e : Entry) :
    e.relations table =
      e.ownColumns.flatMap (Column.relations table) ++ e.ownKeys.map (Key.relation table) := by
  cases e <;> simp [Entry.relations, Entry.ownColumns, Entry.ownKeys, Key.relation]

theorem flatMap_filter (p : α → Bool) (f : α → List β) (xs : List α) :
    (xs.filter p).flatMap f = xs.flatMap fun a => if p a then f a else [] := by
  induction xs with
  | nil => rfl
  | cons a xs ih => by_cases ha : p a <;> simp [ha, ih]

/-- A reference is declared with its column or by a key, not by both. -/
theorem Column.relations_inClause (table : Text) (apart : Column → Bool) (c : Column) :
    (c.inClause apart).relations table ++
        (if apart c then c.ownKeys else []).map (Key.relation table) =
      c.relations table := by
  cases set : apart c with
  | false => simp [Column.inClause, set]
  | true => cases refers : c.references <;>
      simp [Column.inClause, set, Column.relations, Column.ownKeys, refers, Key.relation]

/-- The relations of a layout are the references of its table, whatever the order of the
clauses. -/
theorem Layout.relations_perm (l : Layout) : l.relations.Perm l.table.references := by
  have declared : l.clauses.flatMap (fun e => e.ownColumns.flatMap
      (Column.relations l.table.name)) = l.table.columns.flatMap fun c =>
        (c.inClause l.apart).relations l.table.name := by
    rw [← List.flatMap_assoc, l.columns_clauses, List.flatMap_map]
  have keyed : (l.clauses.flatMap fun e => e.ownKeys.map (Key.relation l.table.name)).Perm
      (l.table.columns.flatMap fun c =>
        (if l.apart c then c.ownKeys else []).map (Key.relation l.table.name)) := by
    rw [← List.map_flatMap, ← List.map_flatMap, ← flatMap_filter]
    exact l.keys_clauses.map _
  have split : l.relations = l.clauses.flatMap fun e =>
      e.ownColumns.flatMap (Column.relations l.table.name) ++
        e.ownKeys.map (Key.relation l.table.name) :=
    List.flatMap_congr fun e _ => e.relations_eq l.table.name
  have whole : l.table.references = l.table.columns.flatMap fun c =>
      (c.inClause l.apart).relations l.table.name ++
        (if l.apart c then c.ownKeys else []).map (Key.relation l.table.name) :=
    List.flatMap_congr fun c _ => (c.relations_inClause l.table.name l.apart).symm
  rw [split, whole]
  refine (List.flatMap_append_perm _ _ _).symm.trans ?_
  rw [declared]
  exact (keyed.append_left _).trans (List.flatMap_append_perm _ _ _)

/-- Printing tables and reading the script gives the tables back, in their order. The
relations are those of the clauses, table by table; up to their order inside a table,
they are the references of the columns. -/
theorem schema_read_print {ls : List Layout} {script : Text}
    (distinct : (ls.map (·.table.name)).Nodup) (h : ScriptText ls script) :
    (Schema.read script).schema.tables = ls.map Layout.table ∧
      (Schema.read script).schema.relations = ls.flatMap Layout.relations ∧
      ∀ l ∈ ls, l.relations.Perm l.table.references := by
  have read := @ScriptText.addFindings _ _ h.normalize 0 .empty distinct
  rw [schema_read, findings, read]
  exact ⟨rfl, rfl, fun l _ => l.relations_perm⟩

/-- A table whose names are keywords; the key of the first column comes before it. -/
def keywordLayout : Layout where
  table := ⟨"order", [⟨"references", "DECIMAL(10,NOT)", false, false, some ⟨"users", "id"⟩⟩,
    ⟨"primary", "KEY", true, false, some ⟨"order", "primary"⟩⟩]⟩
  clauses := [.keys [⟨"references", ⟨"users", "id"⟩⟩],
    .column ⟨"references", "DECIMAL(10,NOT)", false, false, none⟩,
    .column ⟨"primary", "KEY", true, false, some ⟨"order", "primary"⟩⟩]
  apart c := !c.primaryKey
  named := by decide +kernel
  distinct := by decide +kernel
  printable := by
    have sized : TypeText "DECIMAL(10,NOT)" :=
      @TypeText.sized "DECIMAL" "10,NOT" (by decide +kernel) (by decide +kernel)
    refine List.forall_mem_cons.mpr ⟨⟨by decide +kernel, sized, by decide +kernel, by decide, ?_⟩,
      List.forall_mem_singleton.mpr
        ⟨by decide +kernel, .plain (by decide +kernel), by decide +kernel, by decide, ?_⟩⟩
    · intro t refers
      cases Option.some.inj refers
      decide +kernel
    · intro t refers
      cases Option.some.inj refers
      decide +kernel
  columns_clauses := by decide +kernel
  keys_clauses := by decide +kernel

def keywordScript : Text :=
  ("Create TABLE if NOT exists 'shop'.'order' (" : Text) ++
    "foreign Key ('references') REFERENCES \x60users\x60 ('id'), " ++
    "\x60references\x60 DECIMAL(10,NOT) not NULL, " ++
    "'primary' KEY PRIMARY key References 'order' ('primary'));\n"

theorem scriptText_keywordScript : ScriptText [keywordLayout] keywordScript := by
  have quoted : ∀ name : Text, QuotedText name ('\x27' :: (name ++ ['\x27'])) := fun name =>
    ⟨'\x27', by decide, rfl⟩
  have marked : ∀ name : Text, QuotedText name ('\x60' :: (name ++ ['\x60'])) := fun name =>
    ⟨'\x60', by decide, rfl⟩
  have key := KeyText.mk (k := ⟨"references", ⟨"users", "id"⟩⟩)
    (by decide +kernel : Spelled ["foreign", "key"] "foreign Key") (quoted _)
    (.mk (by decide +kernel : Spelled ["references"] "REFERENCES") (marked _) (quoted _))
  have first := ColumnText.mk (c := ⟨"references", "DECIMAL(10,NOT)", false, false, none⟩)
    (marked _) (.required rfl rfl (by decide +kernel : Spelled ["not", "null"] "not NULL")) .none
  have second := ColumnText.mk
    (c := ⟨"primary", "KEY", true, false, some ⟨"order", "primary"⟩⟩) (quoted _)
    (.key rfl (by decide +kernel : Spelled ["primary", "key"] "PRIMARY key"))
    (.some (.mk (by decide +kernel : Spelled ["references"] "References") (quoted _) (quoted _)))
  have body : BodyText keywordLayout.clauses _ :=
    .cons (.key key) (.cons (.column first) (.last (.column second)))
  have table : TableText keywordLayout _ := .mk
    (by decide +kernel : Spelled ["create", "table"] "Create TABLE")
    (.inr ⟨_, (by decide +kernel : Spelled ["if", "not", "exists"] "if NOT exists"), rfl⟩)
    (.inr ⟨"shop", _, by decide +kernel, quoted _, rfl⟩) (quoted _) body
  have feed : AllBlank ['\n'] := by
    intro c mem
    rw [List.mem_singleton.mp mem]
    decide
  refine cast (congrArg (ScriptText [keywordLayout]) ?_) (.cons allBlank_nil table (.nil feed))
  decide +kernel

/-- Keywords in the place of names are read as names. -/
theorem schema_read_print_keywords :
    (Schema.read keywordScript).schema = ⟨[keywordLayout.table],
      [.ofKey ⟨"order", "references"⟩ ⟨"users", "id"⟩,
        .ofKey ⟨"order", "primary"⟩ ⟨"order", "primary"⟩]⟩ := by
  obtain ⟨tables, relations, -⟩ := schema_read_print (by simp) scriptText_keywordScript
  cases read : (Schema.read keywordScript).schema
  rw [read] at tables relations
  cases tables
  cases relations
  rfl

end SchemaChart
