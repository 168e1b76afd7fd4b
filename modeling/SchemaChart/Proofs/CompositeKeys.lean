import SchemaChart.Proofs.QuotedNames

/-!
# Composite keys

The keys of a clause are read at the first place where this succeeds, and a name in front of
the clause is no such place: it may be one of the keywords, but the next one does not follow it
(`phrase?_word`). The entries of both lists are the names that they spell (`NamesText.nameList`),
so the keys pair these names by position, and a name without a partner is its own
(`composite_keys_paired`).
-/

namespace SchemaChart

open Text

/-- A name as an entry of a list: bare, or between two plain marks of one kind. -/
def EntryText (name s : Text) : Prop := Text.IsWord name ∧ (s = name ∨ QuotedText name s)

/-- Names with commas between them and blanks around them. -/
inductive NamesText : List Text → Text → Prop
  | nil : AllBlank g → NamesText [] g
  | last : AllBlank g → EntryText name u → AllBlank g' → NamesText [name] (g ++ (u ++ g'))
  | cons : AllBlank g → EntryText name u → AllBlank g' → NamesText (next :: more) s →
      NamesText (name :: next :: more) ((g ++ (u ++ g')) ++ ',' :: s)

/-- What may stand in front of a key clause: the name of its constraint. -/
inductive NamingText : Text → Prop
  | unnamed : NamingText []
  | named : PhraseText ["constraint"] w → Gap g → NameText name u → Gap g' →
      NamingText (w ++ (g ++ (u ++ g')))

/-- A key clause, named or not, with the names of its two lists. -/
inductive CompositeText (table : Text) (own other : List Text) : Text → Prop
  | mk {p u g₁ l g₂ v g₃ r g₄ l'} : NamingText p → PhraseText ["foreign", "key"] u →
      AllBlank g₁ → NamesText own l → AllBlank g₂ → PhraseText ["references"] v → Gap g₃ →
      QualifiedText table r → AllBlank g₄ → NamesText other l' →
      CompositeText table own other (p ++ (u ++ (g₁ ++ '(' :: (l ++ ')' ::
        (g₂ ++ (v ++ (g₃ ++ (r ++ (g₄ ++ '(' :: (l' ++ [')']))))))))))

-- ---------------------------------------------------------------------------
-- The names of a list
-- ---------------------------------------------------------------------------

theorem nameList_append (h : ',' ∉ s) (rest : Text) :
    nameList (s ++ ',' :: rest) = nameList s ++ nameList rest := by
  rw [nameList, pieces_append h, nameList, pieces_of_notMem h, ← List.singleton_append,
    List.map_append, List.filter_append]
  rfl

namespace EntryText

variable {name s : Text}

theorem nameText (h : EntryText name s) : NameText name s := by
  obtain ⟨hn, rfl | quoted⟩ := h
  · simpa using NameText.mk (.inl rfl) hn (.inl rfl)
  · exact quoted.name hn

theorem trim (h : EntryText name s) : trim isPlainMark s = name := by
  obtain ⟨hn, rfl | quoted⟩ := h
  · exact trim_of_forall fun c mem => isPlainMark_of_isWord (hn.2 c mem)
  · exact quoted.trim hn

theorem notMem_padded (h : EntryText name s) (hg : AllBlank g) (hg' : AllBlank g')
    (hd : isNameChar d = false) (hb : isBlank d = false) : d ∉ g ++ (s ++ g') := by
  simp [hg.notMem hb, h.nameText.notMem hd, hg'.notMem hb]

theorem nameList_padded (h : EntryText name s) (hg : AllBlank g) (hg' : AllBlank g') :
    nameList (g ++ (s ++ g')) = [name] := by
  have one := pieces_of_notMem (h.notMem_padded hg hg' (d := ',') (by decide) (by decide))
  have bare := strip_padded hg h.nameText.strip hg'
  simp [nameList, one, bare, h.trim, h.1.1]

end EntryText

theorem NamesText.nameList {names : List Text} {s : Text} (h : NamesText names s) :
    nameList s = names := by
  induction h with
  | @nil g hg =>
    have one := pieces_of_notMem (hg.notMem (by decide : isBlank ',' = false))
    have empty : strip g = [] := by
      rw [← List.append_nil g]
      exact strip_padded hg (rfl : strip [] = []) allBlank_nil
    simp [Text.nameList, one, empty, trim, trimEnd]
  | last hg hu hg' => exact hu.nameList_padded hg hg'
  | cons hg hu hg' _ ih =>
    rw [nameList_append (hu.notMem_padded hg hg' (by decide) (by decide)),
      hu.nameList_padded hg hg', ih]
    rfl

theorem NamesText.notMem {names : List Text} {s : Text} (h : NamesText names s) : ')' ∉ s := by
  induction h with
  | nil hg => exact hg.notMem (by decide)
  | last hg hu hg' => exact hu.notMem_padded hg hg' (by decide) (by decide)
  | cons hg hu hg' _ ih =>
    have front := hu.notMem_padded hg hg' (d := ')') (by decide) (by decide)
    simp only [List.mem_append, List.mem_cons, not_or] at front ⊢
    exact ⟨front, by decide, ih⟩

theorem getElem?_pairKeys (table : Text) (own other : List Text) (inside : i < own.length) :
    (pairKeys table own other)[i]? = some ⟨own[i], ⟨table, other[i]?.getD own[i]⟩⟩ := by
  fun_induction pairKeys table own other generalizing i with
  | case1 => simp at inside
  | case2 own more ih =>
    cases i with
    | zero => rfl
    | succ i => simpa using ih (Nat.lt_of_succ_lt_succ inside)
  | case3 own more other others ih =>
    cases i with
    | zero => rfl
    | succ i => exact ih (Nat.lt_of_succ_lt_succ inside)

-- ---------------------------------------------------------------------------
-- What stands in front of the keywords
-- ---------------------------------------------------------------------------

/-- A phrase that is read at a word begins with this word, and blanks follow it. -/
theorem phrase?_word (hw : ∀ c ∈ w, isWord c = true) (hr : Clear isWord r) (hk : IsKeyword word)
    (h : phrase? (word :: next :: more) (w ++ r) = some s) :
    w.map foldLetter = word ∧ ∃ b, blanks? r = some b ∧ phrase? (next :: more) b = some s := by
  simp only [phrase?, bind, Option.bind_eq_some_iff] at h
  obtain ⟨a, readWord, b, readGap, readMore⟩ := h
  obtain ⟨whole, rest⟩ := keyword?_whole hk readWord (clear_of_blanks? readGap)
  rw [takeWhile_run hw hr] at whole
  rw [dropWhile_run hw hr] at rest
  exact ⟨whole, b, rest ▸ readGap, readMore⟩

theorem Key.readList?_eq_none (h : phrase? ["foreign", "key"] s = none) :
    Key.readList? s = none := by
  simp only [Key.readList?, h, bind, Option.bind_none]

theorem Key.ofClause_append (h : ∀ t, t ≠ [] → t <:+ p → Key.readList? (t ++ s) = none) :
    Key.ofClause (p ++ s) = Key.ofClause s := by
  induction p with
  | nil => rfl
  | cons c p ih =>
    have none := h (c :: p) (by simp) (List.suffix_refl _)
    rw [List.cons_append] at none ⊢
    rw [Key.ofClause, none]
    exact ih fun t hne ht => h t hne (ht.trans (List.suffix_cons c p))

theorem Key.ofClause_marks (hp : ∀ c ∈ p, isWord c = false) (s : Text) :
    Key.ofClause (p ++ s) = Key.ofClause s := by
  refine Key.ofClause_append fun t hne ht => Key.readList?_eq_none ?_
  obtain ⟨c, t, rfl⟩ := List.exists_cons_of_ne_nil hne
  exact phrase?_of_head (by decide) (hp c (ht.mem (by simp))) _

/-- No keys are read within a word that ends with another letter, or that is not followed by
blanks and the second keyword. -/
theorem Key.ofClause_word (hw : ∀ c ∈ w, isWord c = true) (hr : Clear isWord r)
    (h : ¬ ("foreign" : Text) <:+ w.map foldLetter ∨
      ∀ b, blanks? r = some b → phrase? ["key"] b = none) :
    Key.ofClause (w ++ r) = Key.ofClause r := by
  refine Key.ofClause_append fun t hne ht => Key.readList?_eq_none ?_
  rw [Option.eq_none_iff_forall_ne_some]
  intro s read
  -- the first keyword would have to end with the word, and the second one to follow it
  obtain ⟨spelled, b, gap, key⟩ := phrase?_word (fun c mem => hw c (ht.mem mem)) hr (by decide) read
  rcases h with other | apart
  · exact other (spelled ▸ ht.map foldLetter)
  · exact absurd key (by rw [apart b gap]; exact nofun)

theorem phrase?_key_eq_none (hu : PhraseText ["foreign", "key"] u) (r : Text) :
    phrase? ["key"] (u ++ r) = none := by
  cases hu with
  | @cons _ _ _ u g v hu _ _ =>
    cases u with
    | nil => simp at hu
    | cons c u =>
      have first : foldLetter c = 'f' := (List.cons.inj hu).1
      exact phrase?_eq_none (by decide) (by simp [first])

theorem clear_isWord_behind_name (hm : OptionalMark m) (hg : Gap g) (r : Text) :
    Clear isWord (m ++ (g ++ r)) := by
  rcases hm with rfl | ⟨c, hc, rfl⟩
  · exact hg.clear_isWord r
  · exact clear_cons.mpr (isWord_of_isNameMark hc)

/-- Behind a name stands the mark that closes it or, behind blanks, the clause that is named;
neither of them is the second keyword. -/
theorem phrase?_key_behind_name (hm : OptionalMark m) (hg : Gap g)
    (hu : PhraseText ["foreign", "key"] u) (gap : blanks? (m ++ (g ++ (u ++ r))) = some b) :
    phrase? ["key"] b = none := by
  rcases hm with rfl | ⟨c, hc, rfl⟩
  · have clause : blanks? (g ++ (u ++ r)) = some (u ++ r) :=
      blanks?_eq_some_iff.mpr ⟨g, hg, rfl, hu.clear_isBlank (by decide)⟩
    obtain rfl : u ++ r = b := Option.some.inj (clause.symm.trans gap)
    exact phrase?_key_eq_none hu r
  · simp [blanks?, isBlank_of_isNameMark hc] at gap

theorem Key.ofClause_name (h : NameText name v) (hg : Gap g)
    (hu : PhraseText ["foreign", "key"] u) (r : Text) :
    Key.ofClause (v ++ (g ++ (u ++ r))) = Key.ofClause (g ++ (u ++ r)) := by
  cases h with
  | @mk m m' hm hn hm' =>
    have mark {m : Text} (hm : OptionalMark m) (s : Text) :
        Key.ofClause (m ++ s) = Key.ofClause s :=
      Key.ofClause_marks (fun c mem => isWord_of_isNameMark (hm.mem mem)) s
    have ends := clear_isWord_behind_name hm' hg (u ++ r)
    have behind (b : Text) (gap : blanks? (m' ++ (g ++ (u ++ r))) = some b) :=
      phrase?_key_behind_name hm' hg hu gap
    rw [List.append_assoc, List.append_assoc, mark hm, Key.ofClause_word hn.2 ends (.inr behind),
      mark hm']

/-- The keys of a named clause are those of the clause, whatever its name is. -/
theorem NamingText.ofClause {p : Text} (h : NamingText p) (hu : PhraseText ["foreign", "key"] u)
    (r : Text) : Key.ofClause (p ++ (u ++ r)) = Key.ofClause (u ++ r) := by
  cases h with
  | unnamed => rfl
  | @named w g name v g' hw hg hv hg' =>
    have skip {g : Text} (hg : Gap g) (s : Text) : Key.ofClause (g ++ s) = Key.ofClause s :=
      Key.ofClause_marks (fun c mem => isWord_of_isBlank (hg.2 c mem)) s
    have other : ¬ ("foreign" : Text) <:+ w.map foldLetter := by rw [hw.spelled]; decide
    have letters := (IsKeyword.isWord (by decide) hw.spelled).2
    simp only [List.append_assoc]
    rw [Key.ofClause_word letters (hg.clear_isWord _) (.inl other), skip hg,
      Key.ofClause_name hv hg' hu, skip hg']

theorem CompositeText.ofClause {clause : Text} (h : CompositeText table own other clause)
    (suffix : Text) : Key.ofClause (clause ++ suffix) = pairKeys table own other := by
  cases h with
  | mk hp hu hg₁ hl hg₂ hv hg₃ hr hg₄ hl' =>
    have read := Key.readList?_append hu hg₁ hl.notMem hg₂ hv hg₃ hr hg₄ hl'.notMem suffix
    rw [hl.nameList, hl'.nameList] at read
    simp only [List.append_assoc, List.cons_append, List.nil_append]
    rw [hp.ofClause hu, Key.ofClause_of_readList? read]

/-- A key clause has a key for each name of its own list, in their order. A key refers to the
name at the same place of the other list or, if that list is too short, to its own name. The
name of the constraint makes no difference, and neither does what follows the clause. -/
theorem composite_keys_paired {clause : Text} (h : CompositeText table own other clause)
    (suffix : Text) :
    (Key.ofClause (clause ++ suffix)).length = own.length ∧
      ∀ i (inside : i < own.length),
        (Key.ofClause (clause ++ suffix))[i]? = some ⟨own[i], ⟨table, other[i]?.getD own[i]⟩⟩ := by
  rw [h.ofClause]
  exact ⟨length_pairKeys table own other, fun i inside => getElem?_pairKeys table own other inside⟩

/-- A constraint, a column and a table that are called like the keywords, more columns than
columns referred to, and a second clause behind the first one. -/
theorem composite_keys_paired_keyword_names :
    let own : List Text := ["key", "FOREIGN", "references"]
    let other : List Text := ["KEY", "b"]
    let clause : Text :=
      "Constraint \x60FOREIGN\x60 foreign\tKEY ( 'key' ,FOREIGN,\x22references\x22)" ++
        "REFERENCES \x22key\x22.'foreign' (\nKEY, \x60b\x60 )"
    let suffix : Text := ", FOREIGN KEY (z) REFERENCES z (z)"
    CompositeText "foreign" own other clause ∧
      (Key.ofClause (clause ++ suffix)).length = 3 ∧
      ∀ i (inside : i < own.length), (Key.ofClause (clause ++ suffix))[i]? =
        some ⟨own[i], ⟨"foreign", other[i]?.getD own[i]⟩⟩ := by
  intro own other clause suffix
  have composite : CompositeText "foreign" own other clause := by
    have none : AllBlank "" := allBlank_nil
    have constraint : PhraseText ["constraint"] "Constraint" := .last (by decide)
    have name : NameText "FOREIGN" "\x60FOREIGN\x60" :=
      QuotedText.name ⟨'\x60', by decide, rfl⟩ (by decide)
    have keywords : PhraseText ["foreign", "key"] ("foreign" ++ "\t" ++ "KEY") :=
      .cons (by decide) ⟨by decide, by unfold AllBlank; decide⟩ (.last (by decide))
    have first : EntryText "key" "'key'" := ⟨by decide, .inr ⟨'\x27', by decide, rfl⟩⟩
    have second : EntryText "FOREIGN" "FOREIGN" := ⟨by decide, .inl rfl⟩
    have third : EntryText "references" "\x22references\x22" :=
      ⟨by decide, .inr ⟨'\x22', by decide, rfl⟩⟩
    have columns : NamesText own " 'key' ,FOREIGN,\x22references\x22" :=
      @NamesText.cons " " _ _ " " _ _ _ allBlank_space first allBlank_space
        (@NamesText.cons "" _ _ "" _ _ _ none second none
          (@NamesText.last "" _ _ "" none third none))
    have keyword : PhraseText ["references"] "REFERENCES" := .last (by decide)
    have table : QualifiedText "foreign" "\x22key\x22.'foreign'" :=
      @QualifiedText.qualified _ "key" "\x22key\x22" "" "" "'foreign'"
        (QuotedText.name ⟨'\x22', by decide, rfl⟩ (by decide)) none none
        (QuotedText.name ⟨'\x27', by decide, rfl⟩ (by decide))
    have feed : AllBlank "\n" := by unfold AllBlank; decide
    have first' : EntryText "KEY" "KEY" := ⟨by decide, .inl rfl⟩
    have second' : EntryText "b" "\x60b\x60" := ⟨by decide, .inr ⟨'\x60', by decide, rfl⟩⟩
    have columns' : NamesText other "\nKEY, \x60b\x60 " :=
      @NamesText.cons "\n" _ _ "" _ _ _ feed first' none
        (@NamesText.last " " _ _ " " allBlank_space second' allBlank_space)
    have written := CompositeText.mk (.named constraint gap_space name gap_space) keywords
      allBlank_space columns none keyword gap_space table allBlank_space columns'
    refine Eq.subst (motive := CompositeText "foreign" own other) ?same written
    decide
  exact ⟨composite, composite_keys_paired composite suffix⟩

end SchemaChart
