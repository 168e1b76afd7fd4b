import SchemaChart.Proofs.Tokens

/-!
# Figures of DOT text

Every statement of a graph is a line of its own, and the text is read line by line. A line
that begins with an identifier and has a list of attributes behind it states a node; with
an arrow and a second identifier in front of the list it states an edge. Settings, defaults
and the frames of clusters are no figures. What is read from a graph are the figures of its
statements (`figures_source`); how much of an attribute list can be read is a matter of the
texts in it.
-/

namespace SchemaChart.Dot

open Text

-- ---------------------------------------------------------------------------
-- The reader
-- ---------------------------------------------------------------------------

theorem length_stringBody?_le (h : stringBody? slashed s = some (inside, rest)) :
    rest.length ≤ s.length := by
  induction s generalizing slashed inside with
  | nil => simp [stringBody?] at h
  | cons c s ih =>
    rw [stringBody?] at h
    split at h
    · simp at h
    · split at h
      · cases h
        exact Nat.le_succ _
      · obtain ⟨read, found, same⟩ := Option.map_eq_some_iff.mp h
        cases same
        exact (ih found).trans (Nat.le_succ _)

theorem length_unsigned?_le (h : unsigned? s = some (number, rest)) : rest.length ≤ s.length := by
  have behind := (List.dropWhile_sublist (l := s) Char.isDigit).length_le
  unfold unsigned? at h
  simp only at h
  split at h
  · next none =>
    split at h
    · simp at h
    · cases h
      simp
  · next c places cut =>
    rw [cut, List.length_cons] at behind
    have after := (List.dropWhile_sublist (l := places) Char.isDigit).length_le
    split at h
    · split at h
      · simp at h
      · cases h
        omega
    · split at h
      · simp at h
      · cases h
        simpa using behind

theorem length_numeral?_le (h : numeral? s = some (number, rest)) : rest.length ≤ s.length := by
  cases s with
  | nil => simp [numeral?] at h
  | cons c s =>
    rw [numeral?] at h
    split at h
    · obtain ⟨read, found, same⟩ := Option.map_eq_some_iff.mp h
      cases same
      exact (length_unsigned?_le found).trans (Nat.le_succ _)
    · exact length_unsigned?_le h

theorem Token.length_read?_le (h : Token.read? s = some (t, rest)) : rest.length ≤ s.length := by
  cases s with
  | nil => simp [read?] at h
  | cons c s =>
    have behind := (List.dropWhile_sublist (l := s) isLetterOrDigit).length_le
    rw [read?] at h
    split at h
    · obtain ⟨read, found, same⟩ := Option.map_eq_some_iff.mp h
      cases same
      exact (length_stringBody?_le found).trans (Nat.le_succ _)
    · split at h
      · simp only at h
        split at h
        · simp at h
        · cases h
          exact behind.trans (Nat.le_succ _)
      · obtain ⟨read, found, same⟩ := Option.map_eq_some_iff.mp h
        cases same
        exact length_numeral?_le found

/-- A name, an equals sign and a value. -/
def attribute? (s : Text) : Option ((Text × Text) × Text) := do
  let (name, rest) ← Token.read? s
  let rest ← after? ['='] rest
  let (value, rest) ← Token.read? rest
  return ((name.value, value.value), rest)

theorem length_attribute?_lt (h : attribute? s = some (a, rest)) : rest.length < s.length := by
  simp only [attribute?, bind, Option.bind_eq_some_iff, pure, Option.some.injEq] at h
  obtain ⟨⟨name, b⟩, readName, c, equals, ⟨value, d⟩, readValue, same⟩ := h
  cases same
  have first := Token.length_read?_le readName
  have last := Token.length_read?_le readValue
  rw [eq_append_of_after? (s := b) equals, List.length_append, List.length_singleton] at first
  show d.length < s.length
  omega

/-- A list of attributes up to the bracket that ends the line. -/
def attributes? (s : Text) : Option Attributes :=
  match _h : attribute? s with
  | some (a, [']']) => some [a]
  | some (a, ' ' :: rest) => (attributes? rest).map (a :: ·)
  | _ => none
termination_by s.length
decreasing_by exact (Nat.lt_succ_self _).trans (length_attribute?_lt _h)

inductive Figure
  | node (name : Token) (attributes : Option Attributes)
  | edge (tail head : Token) (attributes : Option Attributes)
  deriving DecidableEq, Repr

/-- The figure that a line states. -/
def Figure.ofLine? (line : Text) : Option Figure := do
  let (name, rest) ← Token.read? (line.dropWhile (· = '\t'))
  match after? " -> " rest with
  | some rest =>
    let (head, rest) ← Token.read? rest
    let rest ← after? " [" rest
    return .edge name head (attributes? rest)
  | none =>
    let rest ← after? " [" rest
    return .node name (attributes? rest)

/-- The lines of a text that ends with a line feed. -/
def lines (text : Text) : List Text := (pieces '\n' text).dropLast

def figures (text : Text) : List Figure := (lines text).filterMap Figure.ofLine?

-- ---------------------------------------------------------------------------
-- Lines
-- ---------------------------------------------------------------------------

def Line.body (l : Line) : Text := List.replicate l.depth '\t' ++ l.text

def Line.figure? (l : Line) : Option Figure := Figure.ofLine? l.body

theorem Line.notMem_body {l : Line} (h : '\n' ∉ l.text) : '\n' ∉ l.body := by
  simp [body, h]

theorem lines_written {ls : List Line} (h : ∀ l ∈ ls, '\n' ∉ l.text) :
    lines (ls.flatMap Line.written) = ls.map Line.body := by
  induction ls with
  | nil => rfl
  | cons l ls ih =>
    obtain ⟨hl, hls⟩ := List.forall_mem_cons.mp h
    have cut : (l :: ls).flatMap Line.written = l.body ++ '\n' :: ls.flatMap Line.written := by
      simp [Line.written, Line.body]
    rw [cut, lines, pieces_append (Line.notMem_body hl),
      List.dropLast_cons_of_ne_nil (pieces_ne_nil _ _), List.map_cons, ← ih hls, lines]

theorem notMem_escapeQuotes (h : '\n' ∉ s) (escaped : Bool) : '\n' ∉ escapeQuotes escaped s := by
  induction s generalizing escaped with
  | nil => simp [escapeQuotes]
  | cons c s ih =>
    obtain ⟨hc, hs⟩ := List.ne_and_not_mem_of_not_mem_cons h
    rw [escapeQuotes_cons]
    split
    · simp [hc, ih hs]
    · split <;> simp [hc, ih hs]

theorem notMem_identifier (h : '\n' ∉ s) : '\n' ∉ identifier s := by
  rw [identifier]
  split
  · exact h
  · simp [notMem_escapeQuotes h]

-- ---------------------------------------------------------------------------
-- Attributes
-- ---------------------------------------------------------------------------

/-- What is read from a list of attributes as it is written. -/
def Attributes.read? (a : Attributes) : Option Attributes := attributes? (a.text ++ [']'])

def Attributes.OneLine (a : Attributes) : Prop := ∀ p ∈ a, '\n' ∉ p.1 ∧ '\n' ∉ p.2

def Attributes.Legible (a : Attributes) : Prop := ∀ p ∈ a, Dot.Legible p.1 ∧ Dot.Legible p.2

theorem Attributes.Legible.oneLine {a : Attributes} (h : a.Legible) : a.OneLine :=
  fun p mem => ⟨(h p mem).1.line, (h p mem).2.line⟩

theorem attributes?_last (h : attribute? s = some (a, [']'])) : attributes? s = some [a] := by
  rw [attributes?]
  split <;> simp_all

theorem attributes?_more (h : attribute? s = some (a, ' ' :: rest)) :
    attributes? s = (attributes? rest).map (a :: ·) := by
  rw [attributes?]
  split <;> simp_all

theorem attributes?_eq_none (h : attribute? s = none) : attributes? s = none := by
  rw [attributes?]
  split <;> simp_all

theorem attribute?_written (h : Legible n) (v rest : Text) :
    attribute? (identifier n ++ '=' :: (identifier v ++ rest)) =
      (Token.read? (identifier v ++ rest)).map fun read => ((n, read.1.value), read.2) := by
  have name : Token.read? (identifier n ++ '=' :: (identifier v ++ rest)) = some (token n, _) :=
    read?_identifier h.line h.plain h.ends (clear_cons.mpr (by decide)) (clear_cons.mpr (by decide))
  have equals : after? ['='] ('=' :: (identifier v ++ rest)) = some (identifier v ++ rest) := rfl
  simp only [attribute?, name, equals, h.value_token, bind, Option.bind_some, pure]
  cases Token.read? (identifier v ++ rest) <;> rfl

theorem Attributes.text_single (n v : Text) :
    Attributes.text [(n, v)] = identifier n ++ '=' :: identifier v := by
  simp [Attributes.text, joinWith]

theorem Attributes.text_cons (n v : Text) (b : Text × Text) (more : Attributes) :
    Attributes.text ((n, v) :: b :: more) =
      identifier n ++ '=' :: (identifier v ++ ' ' :: Attributes.text (b :: more)) := by
  simp [Attributes.text, joinWith]

/-- A value in front of others is read, and the others from behind it. -/
theorem Attributes.read?_cons {more : Attributes} (hn : Dot.Legible n) (line : '\n' ∉ v)
    (plain : isMarkup v = false) (ends : slashes v = 0) (ne : more ≠ []) :
    Attributes.read? ((n, v) :: more) = more.read?.map ((n, (token v).value) :: ·) := by
  obtain ⟨second, more, rfl⟩ := List.exists_cons_of_ne_nil ne
  have value : Token.read? (identifier v ++ ' ' :: (Attributes.text (second :: more) ++ [']'])) =
      some (token v, _) :=
    read?_identifier line plain ends (clear_cons.mpr (by decide)) (clear_cons.mpr (by decide))
  rw [read?, text_cons, List.append_assoc, List.cons_append, List.append_assoc, List.cons_append]
  apply attributes?_more
  rw [attribute?_written hn, value]
  rfl

/-- No list is read from a value that is none, nor from one that runs into the others. -/
theorem Attributes.read?_cons_eq_none {more : Attributes} (hn : Dot.Legible n) (line : '\n' ∉ v)
    (h : isMarkup v = true ∨ slashes v ≠ 0) (ne : more ≠ []) (last : '\x22' ∉ more.text) :
    Attributes.read? ((n, v) :: more) = none := by
  obtain ⟨second, more, rfl⟩ := List.exists_cons_of_ne_nil ne
  rw [read?, text_cons, List.append_assoc, List.cons_append, List.append_assoc, List.cons_append]
  apply attributes?_eq_none
  rw [attribute?_written hn, read?_identifier_eq_none line h (by simp [last])]
  rfl

theorem Attributes.read?_of_legible {a : Attributes} (ne : a ≠ []) (h : a.Legible) :
    a.read? = some a := by
  induction a with
  | nil => exact absurd rfl ne
  | cons first more ih =>
    obtain ⟨n, v⟩ := first
    obtain ⟨⟨hn, hv⟩, hmore⟩ := List.forall_mem_cons.mp h
    by_cases single : more = []
    · have value : Token.read? (identifier v ++ [']']) = some (token v, [']']) :=
        read?_identifier hv.line hv.plain hv.ends (clear_cons.mpr (by decide))
          (clear_cons.mpr (by decide))
      rw [single, read?, text_single, List.append_assoc, List.cons_append]
      apply attributes?_last
      rw [attribute?_written hn, value, Option.map_some, hv.value_token]
    · rw [read?_cons hn hv.line hv.plain hv.ends single, ih single hmore, hv.value_token]
      rfl

theorem Attributes.notMem_text {a : Attributes} (h : a.OneLine) : '\n' ∉ a.text := by
  induction a with
  | nil => simp [Attributes.text, joinWith]
  | cons first more ih =>
    obtain ⟨n, v⟩ := first
    obtain ⟨⟨hn, hv⟩, hmore⟩ := List.forall_mem_cons.mp h
    cases more with
    | nil => simp [text_single, notMem_identifier hn, notMem_identifier hv]
    | cons second more => simp [text_cons, notMem_identifier hn, notMem_identifier hv, ih hmore]

-- ---------------------------------------------------------------------------
-- Statements
-- ---------------------------------------------------------------------------

/-- The figure that a statement stands for. -/
def Statement.figure? : Statement → Option Figure
  | .node name attributes => some (.node (token name) attributes.read?)
  | .edge tail head attributes => some (.edge (token tail) (token head) attributes.read?)
  | _ => none

/-- The end of an edge that names a node and no anchor of it. -/
structure IsEnd (s : Text) : Prop where
  legible : Legible s
  anchor : ':' ∉ s

/-- Fits a line and can be told from statements of other kinds. -/
inductive Statement.Readable : Statement → Prop
  | setting : Attributes.OneLine ((n, v) :: more) → Legible n →
      Readable (.setting ((n, v) :: more))
  | defaults : Attributes.OneLine a → a ≠ [] → isBareWord kind = true → isKeyword kind = true →
      Readable (.defaults kind a)
  | node : Attributes.OneLine a → a ≠ [] → Legible name → Readable (.node name a)
  | edge : Attributes.OneLine a → a ≠ [] → IsEnd tail → IsEnd head →
      Readable (.edge tail head a)

theorem edgeEnd_of_notMem (h : ':' ∉ s) : edgeEnd s = identifier s := by
  have split : splitColon s = (s, []) := by
    induction s with
    | nil => rfl
    | cons c s ih =>
      obtain ⟨hc, hs⟩ := List.ne_and_not_mem_of_not_mem_cons h
      rw [splitColon, if_neg hc.symm, ih hs]
  simp [edgeEnd, split, splitColon]

theorem Attributes.bracketed_of_ne {a : Attributes} (ne : a ≠ []) :
    a.bracketed = ' ' :: '[' :: (a.text ++ [']']) := by
  rw [bracketed, if_neg (by simpa using ne), List.append_assoc]
  rfl

theorem Line.figure?_of_clear {l : Line} (h : Clear (· = '\t') l.text) :
    l.figure? = Figure.ofLine? l.text := by
  have tabs : ∀ c ∈ List.replicate l.depth '\t', decide (c = '\t') = true := by simp
  rw [figure?, Figure.ofLine?, Figure.ofLine?, body, dropWhile_run tabs h, dropWhile_clear h]

theorem clear_tab_of_read? (h : Token.read? s = some t) : Clear (· = '\t') s := by
  cases s with
  | nil => exact clear_nil
  | cons c s =>
    refine clear_cons.mpr (decide_eq_false ?_)
    rintro rfl
    cases h

theorem clear_tab_of_isBareWord (h : isBareWord s = true) (rest : Text) :
    Clear (· = '\t') (s ++ rest) := by
  cases s with
  | nil => cases h
  | cons c s =>
    refine clear_cons.mpr (decide_eq_false ?_)
    rintro rfl
    cases h

theorem Legible.read?_append (h : Legible s) (hc : isLetterOrDigit c = false ∧ c ≠ '.')
    (rest : Text) : Token.read? (identifier s ++ c :: rest) = some (token s, c :: rest) :=
  read?_identifier h.line h.plain h.ends (clear_cons.mpr hc.1) (by simp [hc.2])

theorem Attributes.exists_text (n v : Text) (more : Attributes) :
    ∃ rest, Attributes.text ((n, v) :: more) = identifier n ++ '=' :: rest := by
  cases more with
  | nil => exact ⟨_, Attributes.text_single n v⟩
  | cons second more => exact ⟨_, Attributes.text_cons n v second more⟩

theorem Statement.text_node (name : Text) {a : Attributes} (ne : a ≠ []) :
    (Statement.node name a).text = identifier name ++ ' ' :: '[' :: (a.text ++ [']']) := by
  rw [Statement.text, Attributes.bracketed_of_ne ne]

theorem Statement.text_edge (ht : ':' ∉ tail) (hh : ':' ∉ head) {a : Attributes} (ne : a ≠ []) :
    (Statement.edge tail head a).text = identifier tail ++ ' ' :: '-' :: '>' :: ' ' ::
      (identifier head ++ ' ' :: '[' :: (a.text ++ [']'])) := by
  rw [Statement.text, edgeEnd_of_notMem ht, edgeEnd_of_notMem hh, Attributes.bracketed_of_ne ne,
    List.append_assoc, List.append_assoc]
  rfl

theorem Statement.Readable.clear_text {st : Statement} (h : st.Readable) :
    Clear (· = '\t') st.text := by
  cases h with
  | @setting n v more _ hn =>
    obtain ⟨rest, cut⟩ := Attributes.exists_text n v more
    rw [Statement.text, cut]
    exact clear_tab_of_read? (hn.read?_append (by decide) rest)
  | defaults _ _ word _ => exact clear_tab_of_isBareWord word _
  | node _ ne hn =>
    rw [text_node _ ne]
    exact clear_tab_of_read? (hn.read?_append (by decide) _)
  | edge _ ne ht hh =>
    rw [text_edge ht.anchor hh.anchor ne]
    exact clear_tab_of_read? (ht.legible.read?_append (by decide) _)

theorem Statement.Readable.ofLine?_text {st : Statement} (h : st.Readable) :
    Figure.ofLine? st.text = st.figure? := by
  rw [Figure.ofLine?, dropWhile_clear h.clear_text]
  cases h with
  | @setting n v more _ hn =>
    obtain ⟨rest, cut⟩ := Attributes.exists_text n v more
    rw [Statement.text, cut, hn.read?_append (by decide)]
    rfl
  | @defaults a kind _ ne word keyword =>
    have read : Token.read? (kind ++ ' ' :: '[' :: (a.text ++ [']'])) = none := by
      rw [read?_of_isBareWord word (clear_cons.mpr (by decide)), if_pos keyword]
    rw [Statement.text, Attributes.bracketed_of_ne ne, read]
    rfl
  | node _ ne hn =>
    rw [text_node _ ne, hn.read?_append (by decide)]
    rfl
  | @edge a tail head _ ne ht hh =>
    have arrow : after? " -> " (' ' :: '-' :: '>' :: ' ' ::
        (identifier head ++ ' ' :: '[' :: (a.text ++ [']']))) = some (identifier head ++ _) := rfl
    rw [text_edge ht.anchor hh.anchor ne, ht.legible.read?_append (by decide)]
    simp only [bind, Option.bind_some, arrow, hh.legible.read?_append (c := ' ') (by decide)]
    rfl

theorem Statement.Readable.notMem_text {st : Statement} (h : st.Readable) : '\n' ∉ st.text := by
  have bracketed {a : Attributes} (line : a.OneLine) : '\n' ∉ a.bracketed := by
    rw [Attributes.bracketed]
    split <;> simp [Attributes.notMem_text line]
  cases h with
  | setting line _ => exact Attributes.notMem_text line
  | defaults line _ word _ =>
    refine List.not_mem_append (fun mem => ?_) (bracketed line)
    exact absurd (letters_of_isBare (.inl word) _ mem) (by decide)
  | node line _ hn => exact List.not_mem_append (notMem_identifier hn.line) (bracketed line)
  | edge line ne ht hh =>
    rw [text_edge ht.anchor hh.anchor ne]
    simp [notMem_identifier ht.legible.line, notMem_identifier hh.legible.line,
      Attributes.notMem_text line]

theorem Statement.Readable.figure?_line {st : Statement} (h : st.Readable) (depth : Nat) :
    Line.figure? ⟨depth, st.text⟩ = st.figure? := by
  rw [Line.figure?_of_clear h.clear_text, h.ofLine?_text]

/-- Nodes and edges, each of which states a figure. -/
structure ReadAs (sts : List Statement) (figures : List Figure) : Prop where
  readable : ∀ st ∈ sts, st.Readable
  figures : sts.map Statement.figure? = figures.map some

namespace ReadAs

variable {sts sts' : List Statement} {fs fs' : List Figure} {a : Attributes}

theorem nil : ReadAs [] [] := ⟨by simp, rfl⟩

theorem node (hn : Legible name) (ne : a ≠ []) (h : a.Legible) (rest : ReadAs sts fs) :
    ReadAs (.node name a :: sts) (.node (token name) (some a) :: fs) where
  readable := List.forall_mem_cons.mpr ⟨.node h.oneLine ne hn, rest.readable⟩
  figures := by
    simp [Statement.figure?, Attributes.read?_of_legible ne h, rest.figures]

theorem edge (ht : IsEnd tail) (hh : IsEnd head) (ne : a ≠ []) (line : a.OneLine)
    (rest : ReadAs sts fs) :
    ReadAs (.edge tail head a :: sts) (.edge (token tail) (token head) a.read? :: fs) where
  readable := List.forall_mem_cons.mpr ⟨.edge line ne ht hh, rest.readable⟩
  figures := by simp [Statement.figure?, rest.figures]

theorem append (h : ReadAs sts fs) (h' : ReadAs sts' fs') : ReadAs (sts ++ sts') (fs ++ fs') where
  readable := List.forall_mem_append.mpr ⟨h.readable, h'.readable⟩
  figures := by rw [List.map_append, List.map_append, h.figures, h'.figures]

theorem flatMap {xs : List α} {f : α → List Statement} {g : α → List Figure}
    (h : ∀ x ∈ xs, ReadAs (f x) (g x)) : ReadAs (xs.flatMap f) (xs.flatMap g) := by
  induction xs with
  | nil => exact nil
  | cons x xs ih =>
    obtain ⟨first, others⟩ := List.forall_mem_cons.mp h
    exact first.append (ih others)

theorem filterMap (h : ReadAs sts fs) : sts.filterMap Statement.figure? = fs := by
  have read : sts.filterMap Statement.figure? = (sts.map Statement.figure?).filterMap id := by
    rw [List.filterMap_map]
    rfl
  rw [read, h.figures, List.filterMap_map]
  exact List.filterMap_some

/-- On lines of their own, the figures are read one by one. -/
theorem lines (h : ReadAs sts fs) (depth : Nat) :
    (Dot.lines ((sts.map fun st => (⟨depth, st.text⟩ : Line)).flatMap Line.written)).map
      Figure.ofLine? = fs.map some := by
  have whole : ∀ l ∈ sts.map fun st => (⟨depth, st.text⟩ : Line), '\n' ∉ l.text := by
    intro l mem
    obtain ⟨st, inside, rfl⟩ := List.mem_map.mp mem
    exact (h.readable st inside).notMem_text
  rw [lines_written whole, List.map_map, List.map_map, ← h.figures]
  exact List.map_congr_left fun st mem => (h.readable st mem).figure?_line depth

end ReadAs

-- ---------------------------------------------------------------------------
-- Graphs
-- ---------------------------------------------------------------------------

def Item.statements : Item → List Statement
  | .statement s => [s]
  | .cluster _ statements => statements

structure Item.Readable (item : Item) : Prop where
  frame : ∀ name statements, item = .cluster name statements → '\n' ∉ name
  statements : ∀ s ∈ item.statements, s.Readable

def Item.figures (item : Item) : List Figure := item.statements.filterMap Statement.figure?

/-- The line that opens a frame begins with a keyword. -/
theorem Line.figure?_opening (word : isBareWord s = true) (keyword : isKeyword s = true)
    (depth : Nat) (rest : Text) : Line.figure? ⟨depth, s ++ ' ' :: rest⟩ = none := by
  have read : Token.read? (s ++ ' ' :: rest) = none := by
    rw [read?_of_isBareWord word (clear_cons.mpr (by decide)), if_pos keyword]
  have clear := clear_tab_of_isBareWord word (' ' :: rest)
  rw [figure?_of_clear clear, Figure.ofLine?, dropWhile_clear clear, read]
  rfl

theorem Line.figure?_closing (depth : Nat) : Line.figure? ⟨depth, "\x7d"⟩ = none := by
  rw [figure?_of_clear (clear_cons.mpr (by decide))]
  rfl

theorem Item.Readable.notMem_lines {item : Item} (h : item.Readable) :
    ∀ l ∈ item.lines, '\n' ∉ l.text := by
  cases item with
  | statement s =>
    have line := (h.statements s (List.mem_singleton_self s)).notMem_text
    simpa [Item.lines] using line
  | cluster name statements =>
    have frame := notMem_identifier (h.frame name statements rfl)
    have inside : ∀ s ∈ statements, '\n' ∉ s.text := fun s mem => (h.statements s mem).notMem_text
    simpa [Item.lines, or_imp, forall_and, frame] using inside

theorem Item.Readable.figure?_lines {item : Item} (h : item.Readable) :
    item.lines.filterMap Line.figure? = item.figures := by
  cases item with
  | statement s =>
    have read := (h.statements s (List.mem_singleton_self s)).figure?_line 1
    simp [Item.lines, Item.figures, Item.statements, List.filterMap_cons, read]
  | cluster name statements =>
    have opening : Line.figure? ⟨1, "subgraph " ++ identifier name ++ " \x7b"⟩ = none :=
      Line.figure?_opening (s := "subgraph") (by decide) (by decide) 1 (identifier name ++ " \x7b")
    have inside : (statements.map fun s => (⟨2, s.text⟩ : Line)).filterMap Line.figure? =
        statements.filterMap Statement.figure? := by
      rw [List.filterMap_map]
      exact List.filterMap_congr fun s mem => (h.statements s mem).figure?_line 2
    rw [Item.lines, List.filterMap_append, List.filterMap_cons_none opening, inside,
      List.filterMap_cons_none (Line.figure?_closing 1), List.filterMap_nil, List.append_nil]
    rfl

/-- The items of a graph that can be read, and the lines in which they are written. -/
theorem figure?_lines {items : List Item} (h : ∀ item ∈ items, item.Readable) :
    (∀ l ∈ items.flatMap Item.lines, '\n' ∉ l.text) ∧
      (items.flatMap Item.lines).filterMap Line.figure? = items.flatMap Item.figures := by
  induction items with
  | nil => simp
  | cons item items ih =>
    obtain ⟨first, others⟩ := List.forall_mem_cons.mp h
    obtain ⟨lines, figures⟩ := ih others
    rw [List.flatMap_cons, List.flatMap_cons, List.filterMap_append, first.figure?_lines, figures]
    exact ⟨List.forall_mem_append.mpr ⟨first.notMem_lines, lines⟩, rfl⟩

theorem figures_written {ls : List Line} (h : ∀ l ∈ ls, '\n' ∉ l.text) :
    figures (ls.flatMap Line.written) = ls.filterMap Line.figure? := by
  rw [figures, lines_written h, List.filterMap_map]
  rfl

theorem Graph.exists_heading {g : Graph} (line : '\n' ∉ g.name) :
    ∃ rest, g.heading ++ "\x7b".toList = "digraph".toList ++ ' ' :: rest ∧ '\n' ∉ rest := by
  rw [Graph.heading]
  split
  · exact ⟨"\x7b", rfl, by decide⟩
  · exact ⟨identifier g.name ++ " \x7b", by simp, by simp [notMem_identifier line]⟩

theorem figures_statements (sts : List Statement) :
    (sts.map Item.statement).flatMap Item.figures = sts.filterMap Statement.figure? := by
  induction sts with
  | nil => rfl
  | cons st sts ih =>
    rw [List.map_cons, List.flatMap_cons, ih, Item.figures, Item.statements,
      ← List.filterMap_append]
    rfl

theorem lines_statements (sts : List Statement) :
    (sts.map Item.statement).flatMap Item.lines = sts.map fun st => (⟨1, st.text⟩ : Line) := by
  induction sts with
  | nil => rfl
  | cons st sts ih =>
    rw [List.map_cons, List.flatMap_cons, ih]
    rfl

theorem Statement.Readable.item {st : Statement} (h : st.Readable) :
    (Item.statement st).Readable where
  frame := by simp
  statements := by simpa [Item.statements] using h

/-- What is read from a graph are the figures of its statements. -/
theorem figures_source {g : Graph} (line : '\n' ∉ g.name) (h : ∀ item ∈ g.items, item.Readable) :
    figures g.source = g.items.flatMap Item.figures := by
  obtain ⟨rest, heading, hr⟩ := g.exists_heading line
  obtain ⟨inside, read⟩ := figure?_lines h
  have opening : Line.figure? ⟨0, g.heading ++ "\x7b".toList⟩ = none := by
    rw [heading]
    exact Line.figure?_opening (by decide) (by decide) 0 rest
  have lines : ∀ l ∈ g.lines, '\n' ∉ l.text := by
    refine List.forall_mem_append.mpr ⟨List.forall_mem_cons.mpr ⟨?_, inside⟩, ?_⟩
    · show '\n' ∉ g.heading ++ "\x7b".toList
      rw [heading]
      simp [hr]
    · simp
  rw [Graph.source, figures_written lines, Graph.lines, List.filterMap_append,
    List.filterMap_cons_none opening, List.filterMap_cons_none (Line.figure?_closing 0),
    List.filterMap_nil, List.append_nil, read]

/-- The text up to the closing bracket, in which further items would be written. -/
theorem Graph.source_eq (g : Graph) :
    g.source = (⟨0, g.heading ++ "\x7b".toList⟩ :: g.items.flatMap Item.lines).flatMap
      Line.written ++ "\x7d\n".toList := by
  rw [Graph.source, Graph.lines, List.flatMap_append]
  rfl

end SchemaChart.Dot
