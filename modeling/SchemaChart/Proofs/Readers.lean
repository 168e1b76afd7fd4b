import SchemaChart.Proofs.Letters

/-!
# What the small readers accept

Blanks, words, marks, keywords and names as sets of texts, apart from the functions
that read them. A reader takes such a text off the front of any text that cannot make
it longer, and whatever a reader takes is such a text.
-/

namespace SchemaChart.Text

/-- What holds of all letters of a text is decided on the text, never on all characters. -/
instance (priority := 2000) decidableLetters (s : Text) (p : Char → Prop) [DecidablePred p] :
    Decidable (∀ c ∈ s, p c) := List.decidableBAll p s

/-- The text is empty or begins with a character outside the class. -/
def Clear (p : Char → Bool) (s : Text) : Prop := ∀ c ∈ s.head?, p c = false

def AllBlank (s : Text) : Prop := ∀ c ∈ s, isBlank c = true

def Gap (s : Text) : Prop := s ≠ [] ∧ AllBlank s

def IsWord (s : Text) : Prop := s ≠ [] ∧ ∀ c ∈ s, isWord c = true

instance (s : Text) : Decidable (IsWord s) := by
  unfold IsWord
  infer_instance

@[simp] theorem clear_nil : Clear p [] := by simp [Clear]

@[simp] theorem clear_cons : Clear p (c :: s) ↔ p c = false := by simp [Clear]

theorem Clear.mono (h : Clear p s) (hpq : ∀ c, q c = true → p c = true) : Clear q s := by
  intro c hc
  rw [Bool.eq_false_iff]
  intro hq
  simpa [h c hc] using hpq c hq

theorem allBlank_nil : AllBlank [] := by simp [AllBlank]

theorem allBlank_space : AllBlank [' '] := by
  intro c mem
  rw [List.mem_singleton.mp mem]
  decide

theorem gap_space : Gap [' '] := ⟨by simp, allBlank_space⟩

theorem takeWhile_clear (h : Clear p s) : s.takeWhile p = [] := by
  cases s with
  | nil => rfl
  | cons c s => simp [clear_cons.mp h]

theorem dropWhile_clear (h : Clear p s) : s.dropWhile p = s := by
  cases s with
  | nil => rfl
  | cons c s => simp [clear_cons.mp h]

theorem takeWhile_run (hs : ∀ c ∈ s, p c = true) (hr : Clear p r) :
    (s ++ r).takeWhile p = s := by
  rw [List.takeWhile_append_of_pos hs, takeWhile_clear hr, List.append_nil]

theorem dropWhile_run (hs : ∀ c ∈ s, p c = true) (hr : Clear p r) :
    (s ++ r).dropWhile p = r := by
  rw [List.dropWhile_append_of_pos hs, dropWhile_clear hr]

theorem clear_dropWhile (p : Char → Bool) (s : Text) : Clear p (s.dropWhile p) := by
  induction s with
  | nil => exact clear_nil
  | cons c s ih =>
    rw [List.dropWhile_cons]
    split
    · exact ih
    · next hc => exact clear_cons.mpr (Bool.eq_false_iff.mpr hc)

theorem before_cases (sep : Char) (s : Text) :
    s = before sep s ∨ ∃ t, s = before sep s ++ sep :: t := by
  have cut : before sep s ++ s.dropWhile (· ≠ sep) = s := List.takeWhile_append_dropWhile
  have clear := clear_dropWhile (· ≠ sep) s
  cases behind : s.dropWhile (· ≠ sep) with
  | nil =>
    rw [behind, List.append_nil] at cut
    exact .inl cut.symm
  | cons d t =>
    rw [behind, clear_cons] at clear
    obtain rfl : d = sep := by simpa using clear
    rw [behind] at cut
    exact .inr ⟨t, cut.symm⟩

theorem not_mem_before (sep : Char) (s : Text) : sep ∉ before sep s := fun mem => by
  simpa using List.mem_takeWhile_imp mem

theorem pieces_of_notMem (h : sep ∉ s) : pieces sep s = [s] := by
  induction s with
  | nil => rfl
  | cons c s ih =>
    obtain ⟨hc, hs⟩ := List.ne_and_not_mem_of_not_mem_cons h
    rw [pieces, if_neg hc.symm, ih hs]

theorem pieces_append (h : sep ∉ s) (rest : Text) :
    pieces sep (s ++ sep :: rest) = s :: pieces sep rest := by
  induction s with
  | nil => simp [pieces]
  | cons c s ih =>
    obtain ⟨hc, hs⟩ := List.ne_and_not_mem_of_not_mem_cons h
    rw [List.cons_append, pieces, if_neg hc.symm, ih hs]

-- ---------------------------------------------------------------------------
-- Blanks
-- ---------------------------------------------------------------------------

theorem AllBlank.notMem (hg : AllBlank g) (hd : isBlank d = false) : d ∉ g := fun mem => by
  simp [hg d mem] at hd

theorem AllBlank.clear_isWord (hg : AllBlank g) (hr : Clear isWord r) : Clear isWord (g ++ r) := by
  cases g with
  | nil => exact hr
  | cons c g => exact clear_cons.mpr (isWord_of_isBlank (hg c (by simp)))

theorem Gap.clear_isWord (hg : Gap g) (r : Text) : Clear isWord (g ++ r) := by
  obtain ⟨c, g, rfl⟩ := List.exists_cons_of_ne_nil hg.1
  exact clear_cons.mpr (isWord_of_isBlank (hg.2 c (by simp)))

theorem skipBlanks_append (hg : AllBlank g) (hs : Clear isBlank s) : skipBlanks (g ++ s) = s := by
  rw [skipBlanks, List.dropWhile_append_of_pos hg, dropWhile_clear hs]

theorem skipBlanks_clear (hs : Clear isBlank s) : skipBlanks s = s := dropWhile_clear hs

theorem clear_skipBlanks (s : Text) : Clear isBlank (skipBlanks s) := clear_dropWhile isBlank s

theorem exists_skipBlanks (s : Text) : ∃ g, AllBlank g ∧ s = g ++ skipBlanks s := by
  refine ⟨s.takeWhile isBlank, ?_, List.takeWhile_append_dropWhile.symm⟩
  intro c hc
  exact List.all_eq_true.mp List.all_takeWhile c hc

theorem blanks?_eq_some_iff :
    blanks? s = some r ↔ ∃ g, Gap g ∧ s = g ++ r ∧ Clear isBlank r := by
  constructor
  · intro h
    cases s with
    | nil => simp [blanks?] at h
    | cons c s =>
      simp only [blanks?] at h
      split at h
      · next hc =>
        cases Option.some.inj h
        obtain ⟨g, hg, same⟩ := exists_skipBlanks s
        refine ⟨c :: g, ⟨by simp, ?_⟩, by rw [List.cons_append, ← same], clear_skipBlanks s⟩
        exact List.forall_mem_cons.mpr ⟨hc, hg⟩
      · simp at h
  · rintro ⟨g, ⟨hne, hg⟩, rfl, hr⟩
    cases g with
    | nil => exact absurd rfl hne
    | cons c g =>
      obtain ⟨hc, hg⟩ := List.forall_mem_cons.mp hg
      rw [List.cons_append, blanks?, if_pos hc, skipBlanks_append hg hr]

theorem mark?_eq_some_iff (hm : isBlank m = false) :
    mark? m s = some r ↔ ∃ g, AllBlank g ∧ s = g ++ m :: r := by
  constructor
  · intro h
    obtain ⟨g, hg, same⟩ := exists_skipBlanks s
    unfold mark? at h
    split at h
    · simp at h
    · next c rest skipped =>
      split at h
      · next hc =>
        cases Option.some.inj h
        exact ⟨g, hg, by rw [same, skipped, hc]⟩
      · simp at h
  · rintro ⟨g, hg, rfl⟩
    simp [mark?, skipBlanks_append hg (clear_cons.mpr hm)]

-- ---------------------------------------------------------------------------
-- Words and keywords
-- ---------------------------------------------------------------------------

theorem word?_eq_some_iff :
    word? s = some (w, r) ↔ IsWord w ∧ s = w ++ r ∧ Clear isWord r := by
  constructor
  · intro h
    have cut := eq_append_of_word? h
    unfold word? at h
    split at h
    · simp at h
    · next c more run =>
      simp only [Option.some.injEq, Prod.mk.injEq] at h
      refine ⟨⟨by simp [← h.1], ?_⟩, cut, h.2 ▸ clear_dropWhile isWord s⟩
      intro d hd
      rw [← h.1, ← run] at hd
      exact List.all_eq_true.mp List.all_takeWhile d hd
  · rintro ⟨⟨hne, hw⟩, rfl, hr⟩
    have run : (w ++ r).takeWhile isWord = w := by
      rw [List.takeWhile_append_of_pos hw, takeWhile_clear hr, List.append_nil]
    cases w with
    | nil => exact absurd rfl hne
    | cons c w =>
      rw [word?, run, List.dropWhile_append_of_pos hw, dropWhile_clear hr]

theorem IsWord.clear_isBlank (h : IsWord w) : Clear isBlank (w ++ r) := by
  obtain ⟨hne, hw⟩ := h
  cases w with
  | nil => exact absurd rfl hne
  | cons c w => exact clear_cons.mpr (isBlank_of_isWord (hw c (by simp)))

theorem keyword?_eq_some_iff :
    keyword? k s = some r ↔ ∃ u, u.map foldLetter = k ∧ s = u ++ r := by
  induction k generalizing s with
  | nil =>
    simp only [keyword?, Option.some.injEq, List.map_eq_nil_iff]
    constructor
    · intro h
      exact ⟨[], rfl, h⟩
    · rintro ⟨u, rfl, rfl⟩
      rfl
  | cons a k ih =>
    cases s with
    | nil =>
      simp only [keyword?, reduceCtorEq, false_iff, not_exists, not_and]
      rintro u hu none
      simp [(List.append_eq_nil_iff.mp none.symm).1] at hu
    | cons c s =>
      simp only [keyword?]
      constructor
      · intro h
        split at h
        · next hc =>
          obtain ⟨u, hu, rfl⟩ := ih.mp h
          exact ⟨c :: u, by simp [hc, hu], rfl⟩
        · simp at h
      · rintro ⟨u, hu, same⟩
        cases u with
        | nil => simp at hu
        | cons d u =>
          simp only [List.map_cons, List.cons.injEq] at hu
          simp only [List.cons_append, List.cons.injEq] at same
          rw [if_pos (same.1 ▸ hu.1)]
          exact ih.mpr ⟨u, hu.2, same.2⟩

/-- A row of keywords in any spelling with blanks between them. -/
inductive PhraseText : List Text → Text → Prop
  | nil : PhraseText [] []
  | last {word u} : u.map foldLetter = word → PhraseText [word] u
  | cons {word next more u g v} : u.map foldLetter = word → Gap g →
      PhraseText (next :: more) v → PhraseText (word :: next :: more) (u ++ g ++ v)

/-- A keyword as the readers are given it: lower-case letters. -/
def IsKeyword (word : Text) : Prop := word ≠ [] ∧ ∀ k ∈ word, k.isLower = true

instance (word : Text) : Decidable (IsKeyword word) := by
  unfold IsKeyword
  infer_instance

theorem IsKeyword.isWord (h : IsKeyword word) (hu : u.map foldLetter = word) : IsWord u := by
  subst hu
  refine ⟨fun none => h.1 (by simp [none]), ?_⟩
  intro c hc
  exact isWord_of_foldLetter (h.2 (foldLetter c) (List.mem_map_of_mem hc))

theorem clear_of_blanks? (h : blanks? s = some r) : Clear isWord s := by
  obtain ⟨g, gap, rfl, -⟩ := blanks?_eq_some_iff.mp h
  exact gap.clear_isWord r

/-- A keyword with no word character behind it is the whole run that it stands in. -/
theorem keyword?_whole (hk : IsKeyword word) (read : keyword? word s = some a)
    (clear : Clear isWord a) :
    (s.takeWhile isWord).map foldLetter = word ∧ s.dropWhile isWord = a := by
  obtain ⟨u, hu, rfl⟩ := keyword?_eq_some_iff.mp read
  have letters := (hk.isWord hu).2
  rw [takeWhile_run letters clear, dropWhile_run letters clear]
  exact ⟨hu, rfl⟩

theorem PhraseText.spelled (h : PhraseText [word] u) : u.map foldLetter = word := by
  cases h with
  | last hu => exact hu

theorem PhraseText.clear_isBlank (h : PhraseText (word :: more) u) (hw : IsKeyword word) :
    Clear isBlank (u ++ r) := by
  cases h with
  | last hu => exact (hw.isWord hu).clear_isBlank
  | cons hu =>
    rw [List.append_assoc, List.append_assoc]
    exact (hw.isWord hu).clear_isBlank

theorem phrase?_append (h : PhraseText words u) (hw : ∀ word ∈ words, IsKeyword word) :
    phrase? words (u ++ r) = some r := by
  induction h with
  | nil => rfl
  | last hu => exact keyword?_eq_some_iff.mpr ⟨_, hu, rfl⟩
  | @cons word next more u g v hu hg hv ih =>
    have read : keyword? word (u ++ (g ++ (v ++ r))) = some (g ++ (v ++ r)) :=
      keyword?_eq_some_iff.mpr ⟨u, hu, rfl⟩
    have clear : Clear isBlank (v ++ r) := hv.clear_isBlank (hw next (by simp))
    have skip : blanks? (g ++ (v ++ r)) = some (v ++ r) :=
      blanks?_eq_some_iff.mpr ⟨g, hg, rfl, clear⟩
    have rest := ih fun word mem => hw word (List.mem_cons_of_mem _ mem)
    rw [List.append_assoc, List.append_assoc]
    simp only [phrase?, read, skip, rest, bind, Option.bind_some]

theorem phrase?_eq_none {word : Text} (hw : IsKeyword word)
    (h : word.head? ≠ some (foldLetter c)) : phrase? (word :: more) (c :: s) = none := by
  obtain ⟨k, word, rfl⟩ := List.exists_cons_of_ne_nil hw.1
  have other : foldLetter c ≠ k := fun same => h (congrArg some same.symm)
  have first : keyword? (k :: word) (c :: s) = none := if_neg other
  cases more with
  | nil => exact first
  | cons next more => simp only [phrase?, first, bind, Option.bind_none]

theorem phrase?_of_head {word : Text} (hw : IsKeyword word) (hc : isWord c = false) (s : Text) :
    phrase? (word :: more) (c :: s) = none := by
  refine phrase?_eq_none hw fun same => ?_
  have letter : (foldLetter c).isLower = true := hw.2 _ (List.mem_of_mem_head? same)
  simp [isWord_of_foldLetter letter] at hc

theorem phrase?_sound (h : phrase? words s = some r) : ∃ u, PhraseText words u ∧ s = u ++ r := by
  fun_induction phrase? words s with
  | case1 s =>
    cases Option.some.inj h
    exact ⟨[], .nil, rfl⟩
  | case2 s word =>
    obtain ⟨u, hu, rfl⟩ := keyword?_eq_some_iff.mp h
    exact ⟨u, .last hu, rfl⟩
  | case3 word more s notLast ih =>
    simp only [bind, Option.bind_eq_some_iff] at h
    obtain ⟨a, readWord, b, readGap, readMore⟩ := h
    obtain ⟨u, hu, rfl⟩ := keyword?_eq_some_iff.mp readWord
    obtain ⟨g, hg, rfl, -⟩ := blanks?_eq_some_iff.mp readGap
    obtain ⟨v, hv, rfl⟩ := ih b readMore
    cases more with
    | nil => exact absurd rfl notLast
    | cons next more => exact ⟨u ++ g ++ v, .cons hu hg hv, by simp⟩

-- ---------------------------------------------------------------------------
-- Names
-- ---------------------------------------------------------------------------

def OptionalMark (m : Text) : Prop := m = [] ∨ ∃ c, isNameMark c = true ∧ m = [c]

/-- A name as it may be written. -/
inductive NameText (name : Text) : Text → Prop
  | mk : OptionalMark m → IsWord name → OptionalMark m' → NameText name (m ++ name ++ m')

/-- A name with or without a qualifier as it may be written. -/
inductive QualifiedText (name : Text) : Text → Prop
  | bare : NameText name u → QualifiedText name u
  | qualified : NameText other v → AllBlank g → AllBlank g' → NameText name u →
      QualifiedText name (v ++ g ++ '.' :: (g' ++ u))

theorem NameText.isWord (h : NameText name u) : IsWord name := by
  cases h with
  | mk _ hn _ => exact hn

theorem QualifiedText.isWord (h : QualifiedText name u) : IsWord name := by
  cases h with
  | bare hn => exact hn.isWord
  | qualified _ _ _ hn => exact hn.isWord

theorem OptionalMark.mem (h : OptionalMark m) (hc : c ∈ m) : isNameMark c = true := by
  rcases h with rfl | ⟨d, hd, rfl⟩
  · simp at hc
  · rwa [List.mem_singleton.mp hc]

theorem NameText.mem (h : NameText name u) (hc : c ∈ u) : isNameChar c = true := by
  cases h with
  | mk hm hn hm' =>
    rcases List.mem_append.mp hc with hc | hc
    · rcases List.mem_append.mp hc with hc | hc
      · simp [isNameChar, hm.mem hc]
      · simp [isNameChar, hn.2 c hc]
    · simp [isNameChar, hm'.mem hc]

theorem NameText.ne_nil (h : NameText name u) : u ≠ [] := by
  cases h with
  | mk _ hn _ => simp [hn.1]

theorem NameText.clear_isBlank (h : NameText name u) : Clear isBlank (u ++ r) := by
  cases u with
  | nil => exact absurd rfl h.ne_nil
  | cons c u => exact clear_cons.mpr (isBlank_of_isNameChar (h.mem (by simp)))

theorem QualifiedText.ne_nil (h : QualifiedText name u) : u ≠ [] := by
  cases h with
  | bare hn => exact hn.ne_nil
  | qualified => simp

theorem QualifiedText.clear_isBlank (h : QualifiedText name u) : Clear isBlank (u ++ r) := by
  cases h with
  | bare hn => exact hn.clear_isBlank
  | qualified hv =>
    rw [List.append_assoc, List.append_assoc]
    exact hv.clear_isBlank

theorem skipMark_append (hm : OptionalMark m) (hs : Clear isNameMark s) :
    skipMark (m ++ s) = s := by
  rcases hm with rfl | ⟨c, hc, rfl⟩
  · cases s with
    | nil => rfl
    | cons d s => simp [skipMark, clear_cons.mp hs]
  · simp [skipMark, hc]

theorem exists_skipMark (s : Text) : ∃ m, OptionalMark m ∧ s = m ++ skipMark s := by
  cases s with
  | nil => exact ⟨[], .inl rfl, rfl⟩
  | cons c s =>
    by_cases hc : isNameMark c = true
    · exact ⟨[c], .inr ⟨c, hc, rfl⟩, by simp [skipMark, hc]⟩
    · exact ⟨[], .inl rfl, by simp [skipMark, hc]⟩

theorem name?_append (h : NameText name u) (hr : Clear isNameChar r) :
    name? (u ++ r) = some (name, r) := by
  cases h with
  | @mk m m' hm hn hm' =>
    have afterMark : skipMark (m ++ (name ++ (m' ++ r))) = name ++ (m' ++ r) := by
      apply skipMark_append hm
      cases hname : name with
      | nil => exact absurd hname hn.1
      | cons c more => exact clear_cons.mpr (isNameMark_of_isWord (hn.2 c (by simp [hname])))
    have stop : Clear isWord (m' ++ r) := by
      rcases hm' with rfl | ⟨c, hc, rfl⟩
      · exact hr.mono fun c hc => by simp [isNameChar, hc]
      · exact clear_cons.mpr (isWord_of_isNameMark hc)
    have read : word? (name ++ (m' ++ r)) = some (name, m' ++ r) :=
      word?_eq_some_iff.mpr ⟨hn, rfl, stop⟩
    have last : skipMark (m' ++ r) = r :=
      skipMark_append hm' (hr.mono fun c hc => by simp [isNameChar, hc])
    simp [name?, afterMark, read, last]

theorem name?_sound (h : name? s = some (name, r)) : ∃ u, NameText name u ∧ s = u ++ r := by
  obtain ⟨⟨word, after⟩, read, same⟩ := Option.map_eq_some_iff.mp h
  simp only [Prod.mk.injEq] at same
  obtain ⟨hn, cut, -⟩ := word?_eq_some_iff.mp read
  obtain ⟨m, hm, first⟩ := exists_skipMark s
  obtain ⟨m', hm', last⟩ := exists_skipMark after
  refine ⟨m ++ name ++ m', .mk hm (same.1 ▸ hn) hm', ?_⟩
  rw [first, cut, last, same.1, same.2]
  simp

theorem qualifiedName?_append (h : QualifiedText name u) (hr : Clear isNameChar r)
    (hdot : Clear (· = '.') (skipBlanks r)) : qualifiedName? (u ++ r) = some (name, r) := by
  cases h with
  | bare hn =>
    simp only [qualifiedName?, name?_append hn hr, bind, Option.bind_some]
    split
    · next inner dotted => simp [dotted] at hdot
    · rfl
  | @qualified other v g g' u hv hg hg' hn =>
    have point : Clear isNameChar ('.' :: (g' ++ (u ++ r))) := clear_cons.mpr (by decide)
    have stop : Clear isNameChar (g ++ '.' :: (g' ++ (u ++ r))) := by
      cases g with
      | nil => exact point
      | cons c g => exact clear_cons.mpr (isNameChar_of_isBlank (hg c (by simp)))
    have first : name? (v ++ (g ++ '.' :: (g' ++ (u ++ r)))) =
        some (other, g ++ '.' :: (g' ++ (u ++ r))) := name?_append hv stop
    have dot : skipBlanks (g ++ '.' :: (g' ++ (u ++ r))) = '.' :: (g' ++ (u ++ r)) :=
      skipBlanks_append hg (clear_cons.mpr (by decide))
    have inner : skipBlanks (g' ++ (u ++ r)) = u ++ r := skipBlanks_append hg' hn.clear_isBlank
    simp [qualifiedName?, first, dot, inner, name?_append hn hr]

theorem qualifiedName?_sound (h : qualifiedName? s = some (name, r)) :
    ∃ u, QualifiedText name u ∧ s = u ++ r := by
  simp only [qualifiedName?, bind, Option.bind_eq_some_iff] at h
  obtain ⟨⟨first, after⟩, readFirst, h⟩ := h
  obtain ⟨v, hv, rfl⟩ := name?_sound readFirst
  simp only at h
  split at h
  · next inner dotted =>
    obtain ⟨g, hg, same⟩ := exists_skipBlanks after
    obtain ⟨g', hg', same'⟩ := exists_skipBlanks inner
    obtain ⟨u, hu, rest⟩ := name?_sound h
    refine ⟨v ++ g ++ '.' :: (g' ++ u), .qualified hv hg hg' hu, ?_⟩
    rw [same, dotted, same', rest]
    simp
  · simp only [Option.some.injEq, Prod.mk.injEq] at h
    exact ⟨v, .bare (h.1 ▸ hv), by rw [h.2]⟩

end SchemaChart.Text
