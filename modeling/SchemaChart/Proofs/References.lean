import SchemaChart.Proofs.Layout

/-!
# The reference of a column clause

The search for a reference tries every word of a clause. In a printed clause only the
keyword itself has blanks, a name and an opening parenthesis behind it, so nothing in
front of it is taken for a reference, whatever the column and its type are called
(`firstReference?_clause`).
-/

namespace SchemaChart

open Text

/-- What must follow the keyword of a reference: blanks, a name and a parenthesis. -/
def opening? (s : Text) : Option Text := do
  let s ← blanks? (s.dropWhile isWord)
  let (_, s) ← qualifiedName? s
  mark? '(' s

theorem reference?_eq_none (h : opening? s = none) : reference? s = none := by
  cases read : reference? s with
  | none => rfl
  | some t =>
    exfalso
    simp only [reference?, bind, Option.bind_eq_some_iff] at read
    obtain ⟨a, readWord, b, readGap, ⟨table, c⟩, readName, d, readMark, -⟩ := read
    have run := (keyword?_whole (by decide : IsKeyword "references") readWord
      (clear_of_blanks? readGap)).2
    simp [opening?, run, readGap, readName, readMark] at h

theorem reference?_of_head (hc : isWord c = false) (s : Text) : reference? (c :: s) = none := by
  have none : phrase? ["references"] (c :: s) = none := phrase?_of_head (by decide) hc s
  simp only [reference?, none, bind, Option.bind_none]

theorem opening?_eq_none (h : Clear isBlank (s.dropWhile isWord)) : opening? s = none := by
  have stop : blanks? (s.dropWhile isWord) = none := by
    cases run : s.dropWhile isWord with
    | nil => rfl
    | cons c r =>
      rw [run] at h
      exact if_neg (by simp [clear_cons.mp h])
  simp only [opening?, stop, bind, Option.bind_none]

/-- A word that ends at something else than a blank is no keyword of a reference. -/
theorem opening?_of_clear (hw : ∀ c ∈ w, isWord c = true) (hr : Clear isWord r)
    (hb : Clear isBlank r) : opening? (w ++ r) = none := by
  apply opening?_eq_none
  rw [List.dropWhile_append_of_pos hw, dropWhile_clear hr]
  exact hb

-- ---------------------------------------------------------------------------
-- Going on with the search
-- ---------------------------------------------------------------------------

theorem firstReference?_mark (hc : isWord c = false) (inWord : Bool) (r : Text) :
    firstReference? inWord (c :: r) = firstReference? false r := by
  rw [firstReference?, reference?_of_head hc, hc]
  cases inWord <;> rfl

theorem firstReference?_inWord (hw : ∀ c ∈ w, isWord c = true) (r : Text) :
    firstReference? true (w ++ r) = firstReference? true r := by
  induction w with
  | nil => rfl
  | cons c w ih =>
    obtain ⟨hc, hw⟩ := List.forall_mem_cons.mp hw
    rw [List.cons_append, firstReference?, hc, if_pos rfl]
    exact ih hw

theorem firstReference?_clear (hr : Clear isWord r) (inWord : Bool) :
    firstReference? inWord r = firstReference? false r := by
  cases r with
  | nil => rfl
  | cons c r =>
    have mark := clear_cons.mp hr
    rw [firstReference?_mark mark, firstReference?_mark mark]

theorem firstReference?_word (hw : Text.IsWord w) (hr : Clear isWord r)
    (none : opening? (w ++ r) = none) :
    firstReference? false (w ++ r) = firstReference? false r := by
  obtain ⟨hne, hw⟩ := hw
  obtain ⟨c, w, rfl⟩ := List.exists_cons_of_ne_nil hne
  obtain ⟨hc, hw⟩ := List.forall_mem_cons.mp hw
  rw [List.cons_append] at none ⊢
  rw [firstReference?, if_neg (by simp), reference?_eq_none none, hc]
  exact (firstReference?_inWord hw r).trans (firstReference?_clear hr true)

theorem firstReference?_quoted {name s : Text} (h : QuotedText name s) (hn : Text.IsWord name)
    (r : Text) : firstReference? false (s ++ r) = firstReference? false r := by
  obtain ⟨q, hq, rfl⟩ := h
  have mark := isNameMark_of_isQuote hq
  have ends : isWord q = false := isWord_of_isNameMark mark
  have none : opening? (name ++ q :: r) = none :=
    opening?_of_clear hn.2 (clear_cons.mpr ends) (clear_cons.mpr (isBlank_of_isNameMark mark))
  rw [List.cons_append, List.append_assoc, firstReference?_mark ends]
  exact (firstReference?_word hn (clear_cons.mpr ends) none).trans (firstReference?_mark ends _ _)

theorem clear_dropWhile_parameters (hp : ∀ c ∈ p, isWord c = true ∨ c = ',') (r : Text) :
    Clear isBlank ((p ++ ')' :: r).dropWhile isWord) := by
  induction p with
  | nil =>
    have paren : isWord ')' = false := by decide
    simpa [paren] using (by decide : isBlank ')' = false)
  | cons c p ih =>
    obtain ⟨hc, hp⟩ := List.forall_mem_cons.mp hp
    rcases hc with word | rfl
    · rw [List.cons_append, List.dropWhile_cons_of_pos word]
      exact ih hp
    · have comma : isWord ',' = false := by decide
      simpa [comma] using (by decide : isBlank ',' = false)

theorem firstReference?_parameters (hp : ∀ c ∈ p, isWord c = true ∨ c = ',') (inWord : Bool)
    (r : Text) : firstReference? inWord (p ++ ')' :: r) = firstReference? false r := by
  induction p generalizing inWord with
  | nil => exact firstReference?_mark (by decide) inWord r
  | cons c p ih =>
    have none : opening? (c :: (p ++ ')' :: r)) = none :=
      opening?_eq_none (clear_dropWhile_parameters hp r)
    rw [List.cons_append, firstReference?, reference?_eq_none none]
    cases inWord <;> exact ih (fun d mem => hp d (List.mem_cons_of_mem _ mem)) _

-- ---------------------------------------------------------------------------
-- What stands behind a word
-- ---------------------------------------------------------------------------

/-- Nothing, or a space and the beginning of a name. -/
def Apart (s : Text) : Prop := s = [] ∨ ∃ c r, s = ' ' :: c :: r ∧ isNameChar c = true

/-- Nothing, or a space and a word that is not followed by a parenthesis. -/
def Tail (s : Text) : Prop := s = [] ∨ ∃ w r, s = ' ' :: (w ++ r) ∧ Text.IsWord w ∧ Apart r

theorem Apart.clear (h : Apart s) : Clear isNameChar s := by
  rcases h with rfl | ⟨c, r, rfl, -⟩
  · exact clear_nil
  · exact clear_cons.mpr (by decide)

theorem Apart.clear_skipBlanks (h : Apart s) (hm : isNameChar m = false) :
    Clear (· = m) (skipBlanks s) := by
  rcases h with rfl | ⟨c, r, rfl, hc⟩
  · exact clear_nil
  · have skipped : skipBlanks (' ' :: c :: r) = c :: r :=
      skipBlanks_append allBlank_space (clear_cons.mpr (isBlank_of_isNameChar hc))
    rw [skipped, clear_cons, decide_eq_false_iff_not]
    rintro rfl
    simp [hc] at hm

theorem mark?_eq_none (h : Clear (· = m) (skipBlanks s)) : mark? m s = none := by
  unfold Text.mark?
  split
  · rfl
  · next c r skipped =>
    rw [skipped, clear_cons, decide_eq_false_iff_not] at h
    exact if_neg h

theorem Apart.mark? (h : Apart s) (hm : isNameChar m = false) : mark? m s = none :=
  mark?_eq_none (h.clear_skipBlanks hm)

theorem Tail.apart (h : Tail s) : Apart s := by
  rcases h with rfl | ⟨w, r, rfl, ⟨hne, hw⟩, -⟩
  · exact .inl rfl
  · obtain ⟨c, w, rfl⟩ := List.exists_cons_of_ne_nil hne
    exact .inr ⟨c, w ++ r, rfl, by simp [isNameChar, hw c (by simp)]⟩

theorem Tail.opening? (h : Tail s) (hw : ∀ c ∈ w, isWord c = true) : opening? (w ++ s) = none := by
  rcases h with rfl | ⟨v, r, rfl, hv, hr⟩
  · exact opening?_of_clear hw clear_nil clear_nil
  · have stop : Clear isWord (' ' :: (v ++ r)) := clear_cons.mpr (by decide)
    have run : (w ++ ' ' :: (v ++ r)).dropWhile isWord = ' ' :: (v ++ r) := by
      rw [List.dropWhile_append_of_pos hw, dropWhile_clear stop]
    have gap : blanks? (' ' :: (v ++ r)) = some (v ++ r) :=
      blanks?_eq_some_iff.mpr ⟨[' '], gap_space, rfl, hv.clear_isBlank⟩
    have name : NameText v v := by simpa using @NameText.mk v [] [] (.inl rfl) hv (.inl rfl)
    have read := qualifiedName?_append (.bare name) hr.clear (hr.clear_skipBlanks (by decide))
    simp [SchemaChart.opening?, run, gap, read, hr.mark? (m := '(') (by decide)]

theorem Tail.firstReference? (h : Tail s) (hw : Text.IsWord w) :
    firstReference? false (w ++ s) = Text.firstReference? false s :=
  firstReference?_word hw (h.apart.clear.mono fun c hc => by simp [isNameChar, hc])
    (h.opening? hw.2)

theorem ReferenceText.tail (h : ReferenceText o r)
    (words : ∀ t, o = .some t → Text.IsWord t.table ∧ Text.IsWord t.column) : Tail r := by
  cases h with
  | none => exact .inl rfl
  | @some t _ ht =>
    cases ht with
    | @mk w r x hw hr hx =>
      have word : Text.IsWord w := IsKeyword.isWord (by decide) (map_foldLetter hw (by decide))
      obtain ⟨q, hq, rfl⟩ := hr
      have mark : isNameChar q = true := by simp [isNameChar, isNameMark_of_isQuote hq]
      exact .inr ⟨w, _, rfl, word, .inr ⟨q, _, rfl, mark⟩⟩

/-- The words that a flag puts in front of a text. -/
theorem FlagText.cases_words {c : Column} (h : FlagText c f) :
    f = [] ∨ ∃ u v, f = ' ' :: (u ++ ' ' :: v) ∧ Text.IsWord u ∧ Text.IsWord v := by
  have words : ∀ first second u, IsKeyword first → IsKeyword second →
      Spelled [first, second] u → ∃ v w, ' ' :: u = ' ' :: (v ++ ' ' :: w) ∧
        Text.IsWord v ∧ Text.IsWord w := by
    intro first second u hfirst hsecond hu
    obtain ⟨v, w, rfl, hv, hw⟩ := hu.split
    exact ⟨v, w, rfl, hfirst.isWord (map_foldLetter hv hfirst),
      hsecond.isWord (map_foldLetter hw hsecond)⟩
  cases h with
  | key _ hu => exact .inr (words _ _ _ (by decide) (by decide) hu)
  | required _ _ hu => exact .inr (words _ _ _ (by decide) (by decide) hu)
  | none => exact .inl rfl

theorem FlagText.tail {c : Column} (h : FlagText c f) (hr : Tail r) : Tail (f ++ r) := by
  rcases h.cases_words with rfl | ⟨u, v, rfl, hu, hv⟩
  · exact hr
  · refine .inr ⟨u, ' ' :: (v ++ r), by simp, hu, .inr ?_⟩
    obtain ⟨c, v, rfl⟩ := List.exists_cons_of_ne_nil hv.1
    exact ⟨c, v ++ r, rfl, by simp [isNameChar, hv.2 c (by simp)]⟩

-- ---------------------------------------------------------------------------
-- The reference itself
-- ---------------------------------------------------------------------------

/-- The steps up to the group of the column, as every reader of a target takes them. -/
theorem TargetText.table {t : ColumnRef} (h : TargetText t s)
    (words : Text.IsWord t.table ∧ Text.IsWord t.column) :
    ∃ a b x, phrase? ["references"] s = some a ∧ blanks? a = some b ∧
      qualifiedName? b = some (t.table, ' ' :: '(' :: (x ++ [')'])) ∧ QuotedText t.column x := by
  cases h with
  | @mk w r x hw hr hx =>
    have table := hr.name words.1
    have keyword : phrase? ["references"] (w ++ ' ' :: (r ++ ' ' :: '(' :: (x ++ [')']))) =
        some (' ' :: (r ++ ' ' :: '(' :: (x ++ [')']))) :=
      phrase?_append (hw.phrase (by decide)) (by decide)
    have gap : blanks? (' ' :: (r ++ ' ' :: '(' :: (x ++ [')']))) =
        some (r ++ ' ' :: '(' :: (x ++ [')'])) :=
      blanks?_eq_some_iff.mpr ⟨[' '], gap_space, rfl, table.clear_isBlank⟩
    have behind : skipBlanks (' ' :: '(' :: (x ++ [')'])) = '(' :: (x ++ [')']) :=
      skipBlanks_append allBlank_space (clear_cons.mpr (by decide))
    have dot : Clear (· = '.') (skipBlanks (' ' :: '(' :: (x ++ [')']))) := by
      rw [behind]
      exact clear_cons.mpr (by decide)
    have named := qualifiedName?_append (.bare table) (clear_cons.mpr (by decide)) dot
    exact ⟨_, _, x, keyword, gap, named, hx⟩

theorem TargetText.reference? {t : ColumnRef} (h : TargetText t s)
    (words : Text.IsWord t.table ∧ Text.IsWord t.column) : reference? s = some t := by
  obtain ⟨a, b, x, keyword, gap, named, hx⟩ := h.table words
  have column := hx.name words.2
  have opened : mark? '(' (' ' :: '(' :: (x ++ [')'])) = some (x ++ [')']) :=
    (mark?_eq_some_iff (by decide)).mpr ⟨[' '], allBlank_space, rfl⟩
  have closed : mark? ')' [')'] = some [] :=
    (mark?_eq_some_iff (by decide)).mpr ⟨[], allBlank_nil, rfl⟩
  have inner : name? (x ++ [')']) = some (t.column, [')']) :=
    name?_append column (clear_cons.mpr (by decide))
  simp only [Text.reference?, keyword, gap, named, opened,
    skipBlanks_clear column.clear_isBlank, inner, closed, bind, Option.bind_some, pure]

theorem ReferenceText.firstReference? (h : ReferenceText o r)
    (words : ∀ t, o = .some t → Text.IsWord t.table ∧ Text.IsWord t.column) :
    firstReference? false r = o := by
  cases h with
  | none => rfl
  | @some t s ht =>
    have read := ht.reference? (words t rfl)
    rw [firstReference?_mark (by decide)]
    cases s with
    | nil => simp [Text.reference?, phrase?, keyword?] at read
    | cons c s => rw [Text.firstReference?, if_neg (by simp), read]

theorem TypeText.firstReference? (h : TypeText type) (hs : Tail s) :
    firstReference? false (type ++ s) = Text.firstReference? false s := by
  cases h with
  | plain hw => exact hs.firstReference? hw
  | @sized w p hw hp =>
    have stop : Clear isWord ('(' :: (p ++ ')' :: s)) := clear_cons.mpr (by decide)
    have none : SchemaChart.opening? (w ++ '(' :: (p ++ ')' :: s)) = none :=
      opening?_of_clear hw.2 stop (clear_cons.mpr (by decide))
    have assoc : w ++ '(' :: (p ++ [')']) ++ s = w ++ '(' :: (p ++ ')' :: s) := by simp
    rw [assoc, firstReference?_word hw stop none, firstReference?_mark (by decide),
      firstReference?_parameters hp]

/-- The search finds what the reference of the clause says, be it nothing. -/
theorem ColumnText.firstReference? {c : Column} (h : ColumnText c s) (hc : c.Printable) :
    firstReference? false s = c.references := by
  cases h with
  | @mk n f r hn hf hr =>
    have last := hr.tail hc.target
    have found : Text.firstReference? false (f ++ r) = c.references := by
      rw [← hr.firstReference? hc.target]
      rcases hf.cases_words with rfl | ⟨u, v, rfl, hu, hv⟩
      · rfl
      · have second : Tail (' ' :: (v ++ r)) := .inr ⟨v, r, rfl, hv, last.apart⟩
        rw [List.cons_append, List.append_assoc, List.cons_append,
          firstReference?_mark (by decide), second.firstReference? hu,
          firstReference?_mark (by decide), last.firstReference? hv]
    rw [firstReference?_quoted hn hc.word, firstReference?_mark (by decide),
      hc.typed.firstReference? (hf.tail last), found]

end SchemaChart
