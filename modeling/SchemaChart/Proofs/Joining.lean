import SchemaChart.Proofs.Consistency
import SchemaChart.Proofs.Normal

/-!
# Scripts one behind the other

`schema_read_join`: when a script leaves no block comment and no statement open, a
second one can follow it behind a semicolon on a line of its own, and the schema read
from both is the first schema followed by what the second one adds. A table that the
first script declares keeps its place, and the later table goes with its relations.

Nothing leaks over the seam: a line comment ends with its line, no block comment is
open, and no header holds a semicolon.
-/

namespace SchemaChart

namespace Text

/-- The normal form over a seam: both normal forms, a semicolon between them, and
blanks only where something stands beside them. -/
theorem normalize_join (h : mentions "/*" (normalize a) = false) (b : Text) :
    ∃ g g', AllBlank g ∧ AllBlank g' ∧
      normalize (a ++ "\n;\n" ++ b) = normalize a ++ g ++ ';' :: (g' ++ normalize b) := by
  have shut : ¬['/', '*'] <:+: dropBlockComments (dropLineComments false (a.map straighten)) := by
    intro opened
    have solid : ∀ c ∈ ['/', '*'], isBlank c = false := by decide
    have kept := infix_strip (infix_collapse opened solid false) (by simp) solid
    rw [Bool.eq_false_iff] at h
    exact h (mentions_iff.mpr kept)
  have straight : (a ++ "\n;\n" ++ b).map straighten =
      a.map straighten ++ '\n' :: ([';'] ++ '\n' :: b.map straighten) := by
    have seam : ("\n;\n" : Text).map straighten = ['\n', ';', '\n'] := by decide
    rw [List.map_append, List.map_append, seam]
    simp
  have semicolon : dropBlockComments
      (';' :: '\n' :: dropLineComments false (b.map straighten)) =
      [';'] ++ '\n' :: dropBlockComments (dropLineComments false (b.map straighten)) := by
    rw [dropBlockComments_cons (by simp), dropBlockComments_cons (by simp)]
    rfl
  have parts : fields (dropBlockComments (dropLineComments false
      ((a ++ "\n;\n" ++ b).map straighten))) =
      fields (dropBlockComments (dropLineComments false (a.map straighten))) ++
        [';'] :: fields (dropBlockComments (dropLineComments false (b.map straighten))) := by
    have feed : isBlank '\n' = true := by decide
    have one : fields [';'] = [[';']] := by decide
    have line : dropLineComments false [';'] = [';'] := by decide
    rw [straight, dropLineComments_append_feed, dropLineComments_append_feed, line,
      dropBlockComments_append_feed shut, fields_append_blank feed, List.cons_append,
      List.nil_append, semicolon, fields_append_blank feed, one]
    rfl
  rw [normalize_eq, normalize_eq a, normalize_eq b, parts]
  cases fields (dropBlockComments (dropLineComments false (a.map straighten))) with
  | nil =>
    cases fields (dropBlockComments (dropLineComments false (b.map straighten))) with
    | nil => exact ⟨[], [], allBlank_nil, allBlank_nil, rfl⟩
    | cons t ys => exact ⟨[], [' '], allBlank_nil, allBlank_space, rfl⟩
  | cons s xs =>
    rw [joinWith_append]
    cases fields (dropBlockComments (dropLineComments false (b.map straighten))) with
    | nil => exact ⟨[' '], [], allBlank_space, allBlank_nil, rfl⟩
    | cons t ys => exact ⟨[' '], [' '], allBlank_space, allBlank_space, rfl⟩

end Text

open Text

-- ---------------------------------------------------------------------------
-- Statements over the seam
-- ---------------------------------------------------------------------------

/-- A finding is a statement, and its group is closed with quotes respected. -/
def Finding.ClosedIn (text : Text) (f : Finding) : Prop :=
  ∃ st, f = .statement st ∧ closingFrom true text st.opening = .ok (some (st.closing : Int))

/-- No header runs over a semicolon. -/
theorem Header.read?_seam (h : Header.read? s = none) (hg : AllBlank g) (t : Text) :
    Header.read? (s ++ (g ++ ';' :: t)) = none := by
  cases read : Header.read? (s ++ (g ++ ';' :: t)) with
  | none => rfl
  | some header =>
    exfalso
    obtain ⟨u, hu, cut⟩ := Header.read?_sound read
    have semicolon : ';' ∉ u := hu.not_mem (by decide)
    have paren : '(' ∉ g := fun mem => absurd (hg '(' mem) (by decide)
    rw [← List.append_assoc, List.append_eq_append_iff] at cut
    rcases cut with ⟨v, rfl, seam⟩ | ⟨v, inside, seam⟩
    · cases v with
      | nil => simp at seam
      | cons d v =>
        cases seam
        exact semicolon (by simp)
    · obtain ⟨w, rfl⟩ : ∃ w, v = '(' :: w := by
        cases v with
        | nil => simp at seam
        | cons d w => exact ⟨w, by rw [(List.cons.inj seam).1]⟩
      rcases List.append_eq_append_iff.mp inside with ⟨x, rfl, blank⟩ | ⟨x, rfl, blank⟩
      · exact paren (by simp [blank])
      · cases x with
        | nil =>
          have start : g = '(' :: w := blank.symm
          exact paren (by simp [start])
        | cons d x =>
          cases blank
          exact absurd (h.symm.trans (Header.read?_append hu x)) (by simp)

theorem closing?_of_closingFrom (cut : text.drop opening = '(' :: after)
    (h : closingFrom true text (opening : Nat) = .ok (some ((opening + 1 + n : Nat) : Int))) :
    closing? true ⟨.outside, 1⟩ after = some n := by
  rw [closingFrom_opening true cut] at h
  obtain ⟨m, found, same⟩ := Option.map_eq_some_iff.mp (Except.ok.inj h)
  have : m = n := by omega
  rw [found, this]

/-- The findings of a text whose statements are all closed stay the same when a
semicolon and more text come behind. -/
theorem findingsFrom_append (cut : text.drop pos = s)
    (closed : ∀ f ∈ findingsFrom pos s, f.ClosedIn text) (hg : AllBlank g) (t : Text) :
    findingsFrom pos (s ++ (g ++ ';' :: t)) =
      findingsFrom pos s ++ findingsFrom (pos + s.length + g.length) (';' :: t) := by
  fun_induction findingsFrom pos s with
  | case1 pos => exact findingsFrom_blanks hg pos _
  | case2 pos c rest none ih =>
    have none' : Header.read? (c :: (rest ++ (g ++ ';' :: t))) = .none :=
      Header.read?_seam none hg t
    rw [List.cons_append, findingsFrom_cons none',
      ih (by rw [← List.drop_drop, cut]; rfl) closed]
    congr 2
    simp only [List.length_cons]
    omega
  | case3 pos c rest header read opening n found ih =>
    obtain ⟨here, after⟩ := headerAt_of_read? cut read
    obtain ⟨st, same, shut⟩ := closed _ (List.mem_cons_self ..)
    cases Finding.statement.inj same
    have aware := closing?_of_closingFrom (after ▸ here.drop_opening) shut
    have inside := closing?_lt aware
    have short := Header.length_after_lt read
    have body : bodyLength? (header.after ++ (g ++ ';' :: t)) = some n := by
      rw [bodyLength?, closing?_append aware, Option.some_or]
    have cut' : text.drop (opening + n + 2) = header.after.drop (n + 1) := by
      rw [show opening + n + 2 = opening + 1 + (n + 1) by omega, ← List.drop_drop, after]
    have wide : (rest ++ (g ++ ';' :: t)).length - (header.after ++ (g ++ ';' :: t)).length =
        rest.length - header.after.length := by
      simp only [List.length_append]
      omega
    have read' : Header.read? (c :: (rest ++ (g ++ ';' :: t))) =
        some ⟨header.name, header.after ++ (g ++ ';' :: t)⟩ := Header.read?_extend read _
    rw [List.cons_append, findingsFrom_statement read' body]
    simp only [wide]
    rw [List.take_append_of_le_length (by omega), List.drop_append_of_le_length (by omega),
      ih cut' (fun f mem => closed f (List.mem_cons_of_mem _ mem)), List.cons_append]
    congr 3
    simp only [List.length_cons, List.length_drop, opening] at short ⊢
    omega
  | case4 pos c rest header read opening missed ih =>
    obtain ⟨st, same, -⟩ := closed _ (List.mem_cons_self ..)
    simp at same

/-- The same findings further on in a text. -/
def Finding.shift (n : Nat) : Finding → Finding
  | .statement st => .statement { st with
      start := st.start + n, opening := st.opening + n, closing := st.closing + n }
  | .unclosed name => .unclosed name

theorem findingsFrom_shift (n origin : Nat) (s : Text) :
    findingsFrom (origin + n) s = (findingsFrom origin s).map (Finding.shift n) := by
  have swap : ∀ a b : Nat, a + n + b = a + b + n := fun a b => Nat.add_right_comm a n b
  fun_induction findingsFrom origin s with
  | case1 => simp [findingsFrom]
  | case2 origin c rest none ih => rw [findingsFrom_cons none, swap, ih]
  | case3 origin c rest header read opening m found ih =>
    rw [findingsFrom_statement read found]
    simp only [swap]
    simp only [List.map_cons, Finding.shift, ← ih, opening]
  | case4 origin c rest header read opening missed ih =>
    rw [findingsFrom]
    split
    · next none => simp [none] at read
    · next header' read' =>
      cases Option.some.inj (read.symm.trans read')
      simp only [missed, List.map_cons, Finding.shift, ← ih, opening, swap]

theorem SchemaReading.addFinding_shift (r : SchemaReading) (n : Nat) (f : Finding) :
    r.addFinding (f.shift n) = r.addFinding f := by
  cases f <;> rfl

theorem SchemaReading.foldl_shift (n : Nat) (fs : List Finding) (r : SchemaReading) :
    (fs.map (Finding.shift n)).foldl SchemaReading.addFinding r =
      fs.foldl SchemaReading.addFinding r := by
  rw [List.foldl_map]
  congr
  funext r f
  exact r.addFinding_shift n f

-- ---------------------------------------------------------------------------
-- The first table of a name counts
-- ---------------------------------------------------------------------------

/-- A schema followed by what another one adds: tables of new names, and relations
from such tables. -/
def Schema.merge (s t : Schema) : Schema where
  tables := s.tables ++ t.tables.filter fun table => (s.table? table.name).isNone
  relations := s.relations ++ t.relations.filter fun r => (s.table? r.source.table).isNone

theorem Schema.table?_merge_eq_none_iff {s t : Schema} {name : Text} :
    (s.merge t).table? name = none ↔ s.table? name = none ∧ t.table? name = none := by
  simp only [Schema.table?_eq_none_iff, Schema.merge, List.mem_append, List.mem_filter,
    Option.isNone_iff_eq_none]
  constructor
  · intro h
    have old : ∀ table ∈ s.tables, table.name ≠ name := fun table mem => h table (.inl mem)
    refine ⟨old, fun table mem same => ?_⟩
    exact h table (.inr ⟨mem, same ▸ old⟩) same
  · rintro ⟨old, new⟩ table (mem | ⟨mem, -⟩)
    · exact old table mem
    · exact new table mem

theorem Schema.merge_empty (s : Schema) : s.merge .empty = s := by
  simp [Schema.merge, Schema.empty]

/-- A table added to the second schema is added to the merged one, unless the first
schema has a table of that name. -/
theorem Schema.merge_addReading (s t : Schema) {r : TableReading} (hr : r.Consistent) :
    s.merge (t.addReading r) = (s.merge t).addReading r := by
  have sources : ∀ rel ∈ r.relations, rel.source.table = r.table.name := fun rel mem =>
    (hr.sources rel mem).1
  by_cases new : t.table? r.table.name = none
  · rw [addReading_of_none new]
    by_cases old : s.table? r.table.name = none
    · have kept : r.relations.filter (fun rel => (s.table? rel.source.table).isNone) =
          r.relations := by
        rw [List.filter_eq_self]
        intro rel mem
        rw [sources rel mem, old]
        rfl
      rw [addReading_of_none (table?_merge_eq_none_iff.mpr ⟨old, new⟩)]
      simp [merge, old, kept]
    · have gone : r.relations.filter (fun rel => (s.table? rel.source.table).isNone) = [] := by
        rw [List.filter_eq_nil_iff]
        intro rel mem
        rw [sources rel mem]
        simpa using old
      rw [addReading_of_some fun both => old (table?_merge_eq_none_iff.mp both).1]
      simp [merge, old, gone]
  · rw [addReading_of_some new,
      addReading_of_some fun both => new (table?_merge_eq_none_iff.mp both).2]

theorem SchemaReading.schema_addFindings_merge {s : Schema} {fs : List Finding}
    {r r' : SchemaReading} (h : r'.schema = s.merge r.schema) :
    (fs.foldl addFinding r').schema = s.merge (fs.foldl addFinding r).schema := by
  induction fs generalizing r r' with
  | nil => exact h
  | cons f fs ih =>
    refine ih ?_
    cases f with
    | unclosed name => exact h
    | statement st =>
      rw [schema_addFinding_statement, schema_addFinding_statement, h]
      exact (Schema.merge_addReading s r.schema (Table.read_consistent _ _)).symm

/-- If the first script leaves no block comment open and its statements are all closed
with quotes respected, the second one adds its tables of new names, with their
relations, and nothing else. -/
theorem schema_read_join {a : Text} (shut : mentions "/*" (normalize a) = false)
    (closed : ∀ f ∈ findings (normalize a), f.ClosedIn (normalize a)) (b : Text) :
    (Schema.read (a ++ "\n;\n" ++ b)).schema =
      (Schema.read a).schema.merge (Schema.read b).schema := by
  obtain ⟨g, g', hg, hg', joined⟩ := normalize_join shut b
  have found : findings (normalize (a ++ "\n;\n" ++ b)) = findings (normalize a) ++
      (findings (normalize b)).map
        (Finding.shift ((normalize a).length + g.length + 1 + g'.length)) := by
    have semicolon : Header.read? (';' :: (g' ++ normalize b)) = none :=
      Header.read?_of_head (by decide) _
    have further := findingsFrom_shift ((normalize a).length + g.length + 1 + g'.length) 0
      (normalize b)
    rw [Nat.zero_add] at further
    rw [joined, List.append_assoc, findings,
      findingsFrom_append (List.drop_zero (l := normalize a)) closed hg, Nat.zero_add,
      findingsFrom_cons semicolon, findingsFrom_blanks hg', further]
    rfl
  rw [schema_read, schema_read a, schema_read b, found, List.foldl_append,
    SchemaReading.foldl_shift]
  exact SchemaReading.schema_addFindings_merge (Schema.merge_empty _).symm

/-- The later table of a known name goes with its relation, and the line comment at the
end of the first script ends there. -/
theorem schema_read_join_repeated :
    (Schema.read ("CREATE TABLE a (x INT) -- (" ++ "\n;\n" ++
        "CREATE TABLE A (x INT REFERENCES b(y)); create table a (z INT REFERENCES b(y))")).schema =
      ⟨[⟨"a", [⟨"x", "INT", false, true, none⟩]⟩,
        ⟨"A", [⟨"x", "INT", false, true, some ⟨"b", "y"⟩⟩]⟩],
        [.ofKey ⟨"A", "x"⟩ ⟨"b", "y"⟩]⟩ := by
  have found : findings (normalize "CREATE TABLE a (x INT) -- (") =
      [.statement ⟨"a", "x INT", 0, 15, 21⟩] := by decide +kernel
  refine (schema_read_join (by decide +kernel) ?_ _).trans (by decide +kernel)
  intro f mem
  rw [found] at mem
  cases List.mem_singleton.mp mem
  exact ⟨_, rfl, by decide +kernel⟩

end SchemaChart
