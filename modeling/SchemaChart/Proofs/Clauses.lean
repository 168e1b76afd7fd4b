import SchemaChart.Proofs.Capitals
import SchemaChart.Proofs.ClauseKinds
import SchemaChart.Proofs.Nesting
import SchemaChart.Proofs.References
import SchemaChart.Proofs.Tidy

/-!
# Printed clauses are read back

A printed body is cut at its own commas, and every clause is read as the entry it was
printed for (`BodyText.entries`).
-/

namespace SchemaChart

open Text

-- ---------------------------------------------------------------------------
-- The type of a column
-- ---------------------------------------------------------------------------

theorem flatGroup?_append (hg : AllBlank g) (hp : ')' ∉ p) (r : Text) :
    flatGroup? (g ++ '(' :: (p ++ ')' :: r)) = some (p, r) := by
  have opened : mark? '(' (g ++ '(' :: (p ++ ')' :: r)) = some (p ++ ')' :: r) :=
    (mark?_eq_some_iff (by decide)).mpr ⟨g, hg, rfl⟩
  have inner : ∀ c ∈ p, decide (c ≠ ')') = true := by
    intro c mem
    refine decide_eq_true ?_
    rintro rfl
    exact hp mem
  have stop : Clear (fun c => decide (c ≠ ')')) (')' :: r) := clear_cons.mpr (by decide)
  have behind : (p ++ ')' :: r).dropWhile (· ≠ ')') = ')' :: r := by
    rw [List.dropWhile_append_of_pos inner, dropWhile_clear stop]
  have front : (p ++ ')' :: r).takeWhile (· ≠ ')') = p := by
    rw [List.takeWhile_append_of_pos inner, takeWhile_clear stop, List.append_nil]
  simp only [flatGroup?, opened, bind, Option.bind_some, behind, front]

theorem TypeText.mem (h : TypeText type) (hc : c ∈ type) : isSolid c = true := by
  cases h with
  | plain hw => exact isSolid_of_isWord (hw.2 c hc)
  | sized hw hp =>
    simp only [List.mem_append, List.mem_cons, List.not_mem_nil, or_false] at hc
    rcases hc with hc | rfl | hc | rfl
    · exact isSolid_of_isWord (hw.2 c hc)
    · decide
    · rcases hp c hc with word | rfl
      · exact isSolid_of_isWord word
      · decide
    · decide

theorem TypeText.typeName? (h : TypeText type) (capital : upper type = type) (hs : Tail s) :
    typeName? (type ++ s) = some type := by
  have solid : type.filter (!isBlank ·) = type := by
    rw [List.filter_eq_self]
    intro c mem
    simp [isBlank_of_isSolid (h.mem mem)]
  cases h with
  | plain hw =>
    have clear := hs.apart.clear.mono (q := isWord) fun c hc => by simp [isNameChar, hc]
    have read : word? (type ++ s) = some (type, s) := word?_eq_some_iff.mpr ⟨hw, rfl, clear⟩
    have bare : flatGroup? s = none := by
      simp only [flatGroup?, hs.apart.mark? (m := '(') (by decide), bind, Option.bind_none]
    simp only [Text.typeName?, read, bare, bind, Option.bind_some, solid, capital, pure]
  | @sized w p hw hp =>
    have assoc : w ++ '(' :: (p ++ [')']) ++ s = w ++ '(' :: (p ++ ')' :: s) := by simp
    have read : word? (w ++ '(' :: (p ++ ')' :: s)) = some (w, '(' :: (p ++ ')' :: s)) :=
      word?_eq_some_iff.mpr ⟨hw, rfl, clear_cons.mpr (by decide)⟩
    have open_ : ')' ∉ p := by
      intro mem
      rcases hp _ mem with word | comma
      · simp [(by decide : isWord ')' = false)] at word
      · simp at comma
    have group := flatGroup?_append allBlank_nil open_ s
    have written : w ++ "(" ++ p ++ ")" = w ++ '(' :: (p ++ [')']) := by simp
    rw [assoc]
    simp only [Text.typeName?, read, bind, Option.bind_some, pure]
    simp only [List.nil_append] at group
    simp only [group, written, solid, capital]

-- ---------------------------------------------------------------------------
-- The flags of a column
-- ---------------------------------------------------------------------------

theorem upper_quote (hq : isQuote q = true) (s : Text) : upper (q :: s) = q :: upper s := by
  simp only [isQuote, Bool.or_eq_true, decide_eq_true_eq] at hq
  rcases hq with (rfl | rfl) | rfl <;> rfl

theorem space_notMem_quoted {name s : Text} (h : QuotedText name s) (hn : Text.IsWord name) :
    ' ' ∉ s := by
  intro mem
  have part := (h.name hn).mem mem
  simp [(by decide +kernel : isNameChar ' ' = false)] at part

theorem QuotedText.upper_ends {name s : Text} (h : QuotedText name s) :
    ∃ q t, isQuote q = true ∧ upper s = q :: t ∧ (upper s).getLast? = some q := by
  obtain ⟨q, hq, rfl⟩ := h
  refine ⟨q, upper name ++ [q], hq, ?_, ?_⟩
  · rw [upper_quote hq, upper_append, upper_quote hq]
    rfl
  · rw [upper_quote hq, upper_append, upper_quote hq, ← List.cons_append]
    exact List.getLast?_concat

/-- A reference behind a word holds no phrase whose second keyword begins with another
letter than its own keyword. -/
theorem ReferenceText.not_window (h : ReferenceText o r)
    (words : ∀ t, o = .some t → Text.IsWord t.table ∧ Text.IsWord t.column) (hx : ' ' ∉ x)
    (ha : a ≠ ' ') (hb : b ≠ 'R' ∧ b ≠ '(' ∧ isQuote b = false) :
    ¬[a, ' ', b] <:+: x ++ upper r := by
  intro window
  cases h with
  | none => exact not_infix_window hx (by simpa [upper] using window)
  | @some t s ht =>
    cases ht with
    | @mk w name column hw hname hcolumn =>
      have spaceless := space_notMem_upper (space_notMem_quoted hname (words t rfl).1)
      have group : ' ' ∉ upper ('(' :: (column ++ [')'])) := by
        refine space_notMem_upper fun mem => ?_
        rcases List.mem_append.mp (List.mem_of_ne_of_mem (by decide) mem) with inner | last
        · exact space_notMem_quoted hcolumn (words t rfl).2 inner
        · simp at last
      obtain ⟨q, rest, hq, first, -⟩ := hname.upper_ends
      have keyword : upper w = "REFERENCES" := (hw.upper (by decide)).trans (by decide)
      have capitals : upper (' ' :: (w ++ ' ' :: (name ++ ' ' :: '(' :: (column ++ [')'])))) =
          ' ' :: ("REFERENCES" ++
            ' ' :: (upper name ++ ' ' :: upper ('(' :: (column ++ [')'])))) := by
        rw [← keyword, upper_cons_space, upper_space, upper_space]
      rw [capitals] at window
      rcases infix_window ha hx window with ⟨-, head⟩ | window
      · exact hb.1 (Option.some.inj head).symm
      rcases infix_window ha (by decide) window with ⟨-, head⟩ | window
      · rw [first] at head
        cases Option.some.inj head
        simp [hq] at hb
      rcases infix_window ha spaceless window with ⟨-, head⟩ | window
      · exact hb.2.1 (Option.some.inj head).symm
      · exact not_infix_window group window

/-- A printed name ends with a mark, so no phrase reaches over the space behind it. -/
theorem QuotedText.infix_behind {name n : Text} (h : QuotedText name n) (word : Text.IsWord name)
    (quote : isQuote a = false) (space : a ≠ ' ')
    (window : [a, ' ', b] <:+: upper n ++ ' ' :: s) : [a, ' ', b] <:+: s := by
  obtain ⟨q, -, hq, -, last⟩ := h.upper_ends
  have whole := space_notMem_upper (space_notMem_quoted h word)
  rcases infix_window space whole window with ⟨ends, -⟩ | inner
  · cases Option.some.inj (last.symm.trans ends)
    simp [hq] at quote
  · exact inner

theorem Column.Printable.space_notMem {c : Column} (h : c.Printable) : ' ' ∉ c.type := fun mem =>
  absurd (isBlank_of_isSolid (h.typed.mem mem)) (by decide)

theorem Spelled.key (h : Spelled ["primary", "key"] u) :
    Text.upper (' ' :: u) = ' ' :: "PRIMARY KEY" := by
  rw [upper_cons_space, h.upper (by decide)]
  decide

theorem Spelled.required (h : Spelled ["not", "null"] u) :
    Text.upper (' ' :: u) = ' ' :: "NOT NULL" := by
  rw [upper_cons_space, h.upper (by decide)]
  decide

theorem FlagText.not_window_key {c : Column} (h : FlagText c f) (key : c.primaryKey = false)
    (hc : c.Printable) (hr : ReferenceText c.references r) :
    ¬['Y', ' ', 'K'] <:+: c.type ++ (upper f ++ upper r) := by
  cases h with
  | key set => simp [key] at set
  | @required u _ _ hu =>
    rw [hu.required]
    intro window
    rcases infix_window (by decide) hc.space_notMem window with ⟨-, head⟩ | window
    · simp at head
    · have window : ['Y', ' ', 'K'] <:+: ("NOT" : Text) ++ ' ' :: ("NULL" ++ upper r) := window
      rcases infix_window (by decide) (by decide) window with ⟨-, head⟩ | window
      · simp at head
      · exact hr.not_window hc.target (by decide) (by decide) (by decide) window
  | none => exact hr.not_window hc.target hc.space_notMem (by decide) (by decide)

theorem ColumnText.mentions_key {c : Column} (h : ColumnText c s) (hc : c.Printable) :
    mentions "PRIMARY KEY" (upper s) = c.primaryKey := by
  cases h with
  | @mk n f r hn hf hr =>
    rw [upper_space, upper_append, upper_append, hc.capital]
    cases key : c.primaryKey with
    | true =>
      cases hf with
      | key _ hu =>
        rw [mentions_iff, hu.key]
        exact ⟨upper n ++ ' ' :: (c.type ++ [' ']), upper r, by simp⟩
      | required set => simp [key] at set
      | none set => simp [key] at set
    | false =>
      rw [Bool.eq_false_iff]
      intro found
      have window : ['Y', ' ', 'K'] <:+: ("PRIMARY KEY" : Text) := mentions_iff.mp (by decide)
      have whole := window.trans (mentions_iff.mp found)
      have inner := hn.infix_behind hc.word (by decide) (by decide) whole
      exact hf.not_window_key key hc hr inner

theorem ColumnText.mentions_required {c : Column} (h : ColumnText c s) (hc : c.Printable)
    (key : c.primaryKey = false) : mentions "NOT NULL" (upper s) = !c.nullable := by
  cases h with
  | @mk n f r hn hf hr =>
    rw [upper_space, upper_append, upper_append, hc.capital]
    cases hf with
    | key set => simp [key] at set
    | required _ required hu =>
      rw [required, Bool.not_false, mentions_iff, hu.required]
      exact ⟨upper n ++ ' ' :: (c.type ++ [' ']), upper r, by simp⟩
    | none _ nullable =>
      rw [nullable, Bool.not_true, Bool.eq_false_iff]
      intro found
      have window : ['T', ' ', 'N'] <:+: ("NOT NULL" : Text) := mentions_iff.mp (by decide)
      have whole := window.trans (mentions_iff.mp found)
      have inner := hn.infix_behind hc.word (by decide) (by decide) whole
      exact hr.not_window hc.target hc.space_notMem (by decide) (by decide) inner

theorem ColumnText.read? {c : Column} (h : ColumnText c s) (hc : c.Printable) :
    Column.read? s = some c := by
  have clean := (h.inherits inherited_tidy hc).strip
  have key := h.mentions_key hc
  have required := h.mentions_required hc
  have reference := h.firstReference? hc
  cases h with
  | @mk n f r hn hf hr =>
    have named : name? (n ++ ' ' :: (c.type ++ (f ++ r))) =
        some (c.name, ' ' :: (c.type ++ (f ++ r))) :=
      name?_append (hn.name hc.word) (clear_cons.mpr (by decide))
    have gap : blanks? (' ' :: (c.type ++ (f ++ r))) = some (c.type ++ (f ++ r)) :=
      blanks?_eq_some_iff.mpr ⟨[' '], gap_space, rfl, hc.typed.tidy.clear _⟩
    have typed := hc.typed.typeName? hc.capital (hf.tail (hr.tail hc.target))
    have nullable : (!c.primaryKey &&
        !Text.mentions "NOT NULL" (upper (n ++ ' ' :: (c.type ++ (f ++ r))))) = c.nullable := by
      cases primary : c.primaryKey with
      | true => simp [hc.required primary]
      | false => rw [required primary, Bool.not_not, Bool.not_false, Bool.true_and]
    simp only [Column.read?, clean, named, gap, typed, key, nullable, reference, bind,
      Option.bind_some, pure]

-- ---------------------------------------------------------------------------
-- Keys
-- ---------------------------------------------------------------------------

theorem isPlainMark_of_isQuote (h : isQuote c = true) : isPlainMark c = true := by
  simp only [isQuote, Bool.or_eq_true, decide_eq_true_eq] at h
  rcases h with (rfl | rfl) | rfl <;> decide

theorem isNameMark_of_isPlainMark (h : isPlainMark c = true) : isNameMark c = true := by
  simp only [isPlainMark, Bool.or_eq_true, decide_eq_true_eq] at h
  rcases h with (rfl | rfl) | rfl <;> decide

theorem isPlainMark_of_isWord (h : isWord d = true) : isPlainMark d = false := by
  rw [Bool.eq_false_iff]
  intro mark
  simp [isWord_of_isNameMark (isNameMark_of_isPlainMark mark)] at h

theorem Text.NameText.notMem {name s : Text} (h : NameText name s) (hd : isNameChar d = false) :
    d ∉ s := fun mem => by simp [h.mem mem] at hd

theorem Text.NameText.strip {name s : Text} (h : NameText name s) : strip s = s :=
  trim_of_forall fun _ mem => isBlank_of_isNameChar (h.mem mem)

/-- The only entry of a list that is one written name is the name, trimmed. -/
theorem Text.NameText.nameList {name s : Text} (h : NameText name s)
    (hne : trim isPlainMark s ≠ []) : nameList s = [trim isPlainMark s] := by
  have one : pieces ',' s = [s] := pieces_of_notMem (h.notMem (by decide))
  simp [Text.nameList, one, h.strip, hne]

theorem QuotedText.notMem {name s : Text} (h : QuotedText name s) (hn : Text.IsWord name)
    (hd : isNameChar d = false) : d ∉ s := (h.name hn).notMem hd

theorem QuotedText.trim {name s : Text} (h : QuotedText name s) (hn : Text.IsWord name) :
    trim isPlainMark s = name := by
  obtain ⟨q, hq, rfl⟩ := h
  have plain : ∀ c ∈ name, isPlainMark c = false := fun c mem => isPlainMark_of_isWord (hn.2 c mem)
  rw [trim_marked hn.1 plain, if_pos (isPlainMark_of_isQuote hq), List.nil_append, List.append_nil]

theorem QuotedText.nameList {name s : Text} (h : QuotedText name s) (hn : Text.IsWord name) :
    nameList s = [name] := by
  have entry := (h.name hn).nameList
  rw [h.trim hn] at entry
  exact entry hn.1

theorem KeyText.readList? {k : Key} (h : KeyText k s) (hk : k.Printable) :
    Key.readList? s = some [k] := by
  cases h with
  | @mk w n t hw hn ht =>
    obtain ⟨a, b, x, keyword, gap, named, hx⟩ := ht.table hk.2
    have start := phrase?_append (r := ' ' :: '(' :: (n ++ ')' :: ' ' :: t))
      (hw.phrase (by decide)) (by decide)
    have own : flatGroup? (' ' :: '(' :: (n ++ ')' :: ' ' :: t)) = some (n, ' ' :: t) :=
      flatGroup?_append allBlank_space (hn.notMem hk.1 (by decide)) _
    have skipped : skipBlanks (' ' :: t) = t := by
      have clear := (ht.inherits inherited_tidy hk.2).clear []
      rw [List.append_nil] at clear
      exact skipBlanks_append allBlank_space clear
    have other : flatGroup? (' ' :: '(' :: (x ++ [')'])) = some (x, []) :=
      flatGroup?_append allBlank_space (hx.notMem hk.2.2 (by decide)) []
    simp only [Key.readList?, start, own, skipped, keyword, gap, named, other,
      hn.nameList hk.1, hx.nameList hk.2.2, pairKeys, bind, Option.bind_some, pure]

theorem KeyText.ofClause {k : Key} (h : KeyText k s) (hk : k.Printable) :
    Key.ofClause s = [k] := by
  have read := h.readList? hk
  cases s with
  | nil => exact absurd rfl (h.inherits inherited_tidy hk).ne_nil
  | cons c s => rw [Key.ofClause, read]

-- ---------------------------------------------------------------------------
-- The clauses of a body
-- ---------------------------------------------------------------------------

/-- A printed clause is read as what it was printed for. -/
theorem ClauseText.ofClause (h : ClauseText e s) (he : e.Printable) : Entry.ofClause s = e := by
  cases h with
  | @column c s hc =>
    have read := hc.read? he
    have kind : ClauseKind.ofClause s = .column := by
      cases hc with
      | mk hn =>
        obtain ⟨q, hq, rfl⟩ := hn
        exact ClauseKind.ofClause_of_mark (isNameMark_of_isQuote hq) _
    simp only [Entry.ofClause, kind, read]
  | @key k s hk =>
    have read := hk.ofClause (he k (by simp))
    have kind : ClauseKind.ofClause s = .foreignKey := by
      cases hk with
      | mk hw =>
        exact ClauseKind.ofClause_of_opening (by decide) (hw.phrase (by decide))
          (clear_cons.mpr (by decide))
    simp only [Entry.ofClause, kind, read]

theorem strip_cons_blank (hc : isBlank c = true) (s : Text) : strip (c :: s) = strip s := by
  rw [strip, trim, List.dropWhile_cons_of_pos hc]
  rfl

/-- The cuts of a printed body: its clauses, all but the first with a space in front. -/
theorem BodyText.segments (h : BodyText es b) (hne : es ≠ []) (hes : ∀ e ∈ es, e.Printable) :
    ∃ s ss, segments true .start b = s :: ss.map (' ' :: ·) ∧
      (s :: ss).map Entry.ofClause = es ∧ ∀ t ∈ s :: ss, Tidy t := by
  induction h with
  | nil => exact absurd rfl hne
  | @last e s he =>
    have printable := hes e (by simp)
    have whole := (he.balanced printable).segments
      (rfl : SchemaChart.segments true .start [] = [[]])
    rw [List.append_nil] at whole
    exact ⟨s, [], whole, by simp [he.ofClause printable], by simpa using he.tidy printable⟩
  | @cons e s e' es r he hr ih =>
    have printable := hes e (by simp)
    obtain ⟨t, ts, cut, read, tidy⟩ := ih (by simp) fun e mem => hes e (List.mem_cons_of_mem _ mem)
    have space : Balanced false [' '] := .plain (by decide)
    have comma : SchemaChart.segments true .start (',' :: ' ' :: r) =
        [] :: (' ' :: t) :: ts.map (' ' :: ·) := by
      have spaced : SchemaChart.segments true .start (' ' :: r) =
          (' ' :: t) :: ts.map (' ' :: ·) := space.segments cut
      rw [← spaced]
      rfl
    refine ⟨s, t :: ts, ?_, by rw [List.map_cons, read, he.ofClause printable], ?_⟩
    · rw [(he.balanced printable).segments comma, List.append_nil]
      rfl
    · exact List.forall_mem_cons.mpr ⟨he.tidy printable, tidy⟩

/-- A printed body is read as the entries it was printed for. -/
theorem BodyText.entries (h : BodyText es b) (hes : ∀ e ∈ es, e.Printable) :
    (clauses true b).map Entry.ofClause = es := by
  have outside : endsInLiteral b = false := by
    have ends : Scan.run true .start b = .start := (h.balanced hes).run 0
    rw [endsInLiteral, ends]
    rfl
  by_cases none : es = []
  · rw [none] at h ⊢
    cases h
    rfl
  · obtain ⟨s, ss, cut, read, tidy⟩ := h.segments none hes
    have stripped : ((s :: ss.map (' ' :: ·)).map strip) = s :: ss := by
      have behind : ss.map (strip ∘ (' ' :: ·)) = ss := by
        have same : ∀ t ∈ ss, (strip ∘ (' ' :: ·)) t = t := fun t mem =>
          (strip_cons_blank (by decide) t).trans (tidy t (List.mem_cons_of_mem _ mem)).strip
        rw [List.map_congr_left same, List.map_id']
      rw [List.map_cons, List.map_map, behind, (tidy s (by simp)).strip]
    have full : (s :: ss).filter (!·.isEmpty) = s :: ss := by
      rw [List.filter_eq_self]
      intro t mem
      simpa using (tidy t mem).ne_nil
    simp only [SchemaChart.clauses, outside, Bool.not_false, Bool.and_true, cut, stripped, full,
      read]

end SchemaChart
