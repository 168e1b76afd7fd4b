import SchemaChart.Proofs.Clauses
import SchemaChart.Proofs.Declarations

/-!
# Names between marks

A column clause takes its name from between the marks that any name may stand between,
and a key clause trims the plain marks off the entries of its list. The two agree on a
marked name exactly if both marks are plain (`marked_name_agrees`), and then a key on the
name as it is written with its column makes that column a foreign key.
-/

namespace SchemaChart

open Text

/-- A foreign key clause that lists a text among its columns, the blanks around it apart. -/
inductive KeyClauseOn (listed : Text) : Text → Prop
  | mk {u g₁ own g₂ v g₃ table r g₄ other rest} : PhraseText ["foreign", "key"] u →
      AllBlank g₁ → ')' ∉ own → listed ∈ (pieces ',' own).map strip → AllBlank g₂ →
      PhraseText ["references"] v → Gap g₃ → QualifiedText table r → AllBlank g₄ →
      ')' ∉ other →
      KeyClauseOn listed (u ++ (g₁ ++ '(' :: (own ++ ')' ::
        (g₂ ++ (v ++ (g₃ ++ (r ++ (g₄ ++ '(' :: (other ++ ')' :: rest)))))))))

-- ---------------------------------------------------------------------------
-- The two readers
-- ---------------------------------------------------------------------------

theorem nameText_marked (ho : isNameMark o = true) (hc : isNameMark c = true)
    (hw : Text.IsWord w) : NameText w (o :: (w ++ [c])) := by
  show NameText w ([o] ++ w ++ [c])
  exact .mk (.inr ⟨o, ho, rfl⟩) hw (.inr ⟨c, hc, rfl⟩)

theorem trim_marked_eq_iff (hw : Text.IsWord w) :
    trim isPlainMark (o :: (w ++ [c])) = w ↔ isPlainMark o = true ∧ isPlainMark c = true := by
  have letters : ∀ d ∈ w, isPlainMark d = false := fun d mem => isPlainMark_of_isWord (hw.2 d mem)
  rw [trim_marked hw.1 letters]
  constructor
  · intro same
    have size := congrArg List.length same
    simp only [List.length_append] at size
    constructor
    · by_contra other
      simp only [other, if_false, List.length_singleton] at size
      omega
    · by_contra other
      simp only [other, if_false, List.length_singleton] at size
      omega
  · rintro ⟨plain, plain'⟩
    simp [plain, plain']

theorem trim_marked_ne_nil (hw : Text.IsWord w) : trim isPlainMark (o :: (w ++ [c])) ≠ [] := by
  rw [trim_marked hw.1 fun d mem => isPlainMark_of_isWord (hw.2 d mem)]
  simp [hw.1]

/-- A column clause that begins with a marked name is read under the name itself. -/
theorem Column.name_of_marked {declaration : Text} {column : Column}
    (ho : isNameMark o = true) (hc : isNameMark c = true) (hw : Text.IsWord w)
    (front : o :: (w ++ [c]) <+: declaration) (clean : strip declaration = declaration)
    (read : Column.read? declaration = some column) : column.name = w := by
  obtain ⟨rest, rfl⟩ := front
  simp only [Column.read?, clean, bind, Option.bind_eq_some_iff, pure, Option.some.injEq] at read
  obtain ⟨⟨name, after⟩, readName, -, -, -, -, rfl⟩ := read
  have skipped : skipMark (o :: (w ++ [c]) ++ rest) = w ++ c :: rest := by
    simp [skipMark, ho]
  have word : word? (w ++ c :: rest) = some (w, c :: rest) :=
    word?_eq_some_iff.mpr ⟨hw, rfl, clear_cons.mpr (isWord_of_isNameMark hc)⟩
  simp only [name?, skipped, word, Option.map_some, Option.some.injEq, Prod.mk.injEq] at readName
  exact readName.1.symm

-- ---------------------------------------------------------------------------
-- Key clauses
-- ---------------------------------------------------------------------------

theorem map_column_pairKeys (table : Text) (own other : List Text) :
    (pairKeys table own other).map Key.column = own := by
  fun_induction pairKeys table own other with
  | case1 => rfl
  | case2 own more ih => rw [List.map_cons, ih]
  | case3 own more other others ih => rw [List.map_cons, ih]

theorem clear_isNameChar_opening (hg : AllBlank g) (r : Text) :
    Clear isNameChar (g ++ '(' :: r) := by
  cases g with
  | nil => exact clear_cons.mpr (by decide)
  | cons c g => exact clear_cons.mpr (isNameChar_of_isBlank (hg c (by simp)))

/-- A key clause is read from its keywords, its two lists and the name between them. -/
theorem Key.readList?_append (hu : PhraseText ["foreign", "key"] u) (hg₁ : AllBlank g₁)
    (hown : ')' ∉ own) (hg₂ : AllBlank g₂) (hv : PhraseText ["references"] v) (hg₃ : Gap g₃)
    (hr : QualifiedText table r) (hg₄ : AllBlank g₄) (hother : ')' ∉ other) (rest : Text) :
    Key.readList? (u ++ (g₁ ++ '(' :: (own ++ ')' ::
      (g₂ ++ (v ++ (g₃ ++ (r ++ (g₄ ++ '(' :: (other ++ ')' :: rest))))))))) =
      some (pairKeys table (nameList own) (nameList other)) := by
  have start := phrase?_append (r := g₁ ++ '(' :: (own ++ ')' ::
    (g₂ ++ (v ++ (g₃ ++ (r ++ (g₄ ++ '(' :: (other ++ ')' :: rest)))))))) hu (by decide)
  have list := flatGroup?_append hg₁ hown
    (g₂ ++ (v ++ (g₃ ++ (r ++ (g₄ ++ '(' :: (other ++ ')' :: rest))))))
  have skipped : skipBlanks (g₂ ++ (v ++ (g₃ ++ (r ++ (g₄ ++ '(' :: (other ++ ')' :: rest)))))) =
      v ++ (g₃ ++ (r ++ (g₄ ++ '(' :: (other ++ ')' :: rest)))) :=
    skipBlanks_append hg₂ (hv.clear_isBlank (by decide))
  have keyword := phrase?_append (r := g₃ ++ (r ++ (g₄ ++ '(' :: (other ++ ')' :: rest)))) hv
    (by decide)
  have gap : blanks? (g₃ ++ (r ++ (g₄ ++ '(' :: (other ++ ')' :: rest)))) =
      some (r ++ (g₄ ++ '(' :: (other ++ ')' :: rest))) :=
    blanks?_eq_some_iff.mpr ⟨g₃, hg₃, rfl, hr.clear_isBlank⟩
  have dot : Clear (· = '.') (skipBlanks (g₄ ++ '(' :: (other ++ ')' :: rest))) := by
    rw [skipBlanks_append hg₄ (clear_cons.mpr (by decide))]
    exact clear_cons.mpr (by decide)
  have named := qualifiedName?_append hr (clear_isNameChar_opening hg₄ _) dot
  have list' := flatGroup?_append hg₄ hother rest
  simp only [Key.readList?, start, list, skipped, keyword, gap, named, list', bind,
    Option.bind_some, pure]

theorem Key.ofClause_of_readList? (h : Key.readList? s = some ks) : Key.ofClause s = ks := by
  cases s with
  | nil => simp [Key.readList?, phrase?, keyword?] at h
  | cons c s => rw [Key.ofClause, h]

theorem KeyClauseOn.exists_key (h : KeyClauseOn listed s) (hne : trim isPlainMark listed ≠ []) :
    ∃ k ∈ Key.ofClause s, k.column = trim isPlainMark listed := by
  cases h with
  | @mk u g₁ own g₂ v g₃ table r g₄ other rest hu hg₁ hown hl hg₂ hv hg₃ hr hg₄ hother =>
    have read := Key.readList?_append hu hg₁ hown hg₂ hv hg₃ hr hg₄ hother rest
    have entry : trim isPlainMark listed ∈ nameList own := by
      obtain ⟨piece, mem, rfl⟩ := List.mem_map.mp hl
      exact List.mem_filter.mpr ⟨List.mem_map_of_mem mem, by simpa using hne⟩
    rw [← map_column_pairKeys table (nameList own) (nameList other)] at entry
    rw [Key.ofClause_of_readList? read]
    exact List.mem_map.mp entry

theorem KeyClauseOn.kind (h : KeyClauseOn listed s) : ClauseKind.ofClause s = .foreignKey := by
  cases h with
  | mk hu hg₁ =>
    exact ClauseKind.ofClause_of_opening (by decide) hu
      ((clear_isNameChar_opening hg₁ _).mono fun c hc => by simp [isNameChar, hc])

/-- A column that a body declares is a foreign key if a key clause of the body has a key on it. -/
theorem Table.isForeignKey_read {declaration key body : Text} {c : Column} {k : Key}
    (declared : declaration ∈ clauses true body)
    (kind : ClauseKind.ofClause declaration = .column) (read : Column.read? declaration = some c)
    (listed : key ∈ clauses true body) (kind' : ClauseKind.ofClause key = .foreignKey)
    (mem : k ∈ Key.ofClause key) (on : k.column = c.name) (name : Text) :
    ∃ c', (Table.read name body).table.column? c.name = some c' ∧ c'.isForeignKey = true := by
  have column : c ∈ declaredColumns (clauses true body) :=
    List.mem_filterMap.mpr ⟨declaration, List.mem_filter.mpr ⟨declared, by simp [kind]⟩, read⟩
  have waiting : k ∈ declaredKeys (clauses true body) :=
    List.mem_flatMap.mpr ⟨key, List.mem_filter.mpr ⟨listed, by simp [kind']⟩, mem⟩
  have first :
      (firstOfName (declaredColumns (clauses true body))).any (·.name = c.name) = true := by
    rw [any_firstOfName]
    exact List.any_eq_true.mpr ⟨c, column, by simp⟩
  rw [Table.table_read]
  cases found : Table.column? ⟨name, (firstOfName (declaredColumns (clauses true body))).map
      (Column.assignAll (declaredKeys (clauses true body)))⟩ c.name with
  | none =>
    obtain ⟨c', mem', same⟩ := List.any_eq_true.mp first
    have absent := Table.column?_eq_none_iff.mp found _ (List.mem_map_of_mem mem')
    exact absurd (by simpa using same) absent
  | some c' =>
    obtain ⟨c'', -, rfl⟩ := List.mem_map.mp (List.mem_of_find?_eq_some found)
    have named : (c''.assignAll (declaredKeys (clauses true body))).name = c.name := by
      simpa using List.find?_some found
    refine ⟨_, rfl, Column.isForeignKey_assignAll (.inr ⟨k, waiting, ?_⟩)⟩
    rw [on, ← named, Column.name_assignAll]

-- ---------------------------------------------------------------------------
-- Both readers on one marked name
-- ---------------------------------------------------------------------------

theorem Key.ofClause_same {name written : Text} (h : NameText name written)
    (hne : trim isPlainMark written ≠ []) :
    Key.ofClause
        ("FOREIGN KEY (" ++ written ++ ") REFERENCES " ++ written ++ " (" ++ written ++ ")") =
      [⟨trim isPlainMark written, ⟨name, trim isPlainMark written⟩⟩] := by
  have shut : ')' ∉ written := h.notMem (by decide)
  have keywords : PhraseText ["foreign", "key"] "FOREIGN KEY" :=
    (by decide : Spelled ["foreign", "key"] "FOREIGN KEY").phrase (by decide)
  have keyword : PhraseText ["references"] "REFERENCES" :=
    (by decide : Spelled ["references"] "REFERENCES").phrase (by decide)
  have read := Key.readList?_append keywords allBlank_space shut allBlank_space keyword gap_space
    (.bare h) allBlank_space shut []
  rw [h.nameList hne] at read
  apply Key.ofClause_of_readList?
  simp only [List.append_assoc]
  exact read

/-- A column clause reads the name between any two marks. A key clause reads the same one
exactly if both marks are plain; then a key that lists the name as its column is written
makes the column a foreign key, wherever the two stand in the body. -/
theorem marked_name_agrees (ho : isNameMark o = true) (hc : isNameMark c = true)
    (hw : Text.IsWord w) :
    (Column.read? (o :: (w ++ [c]) ++ " INT")).map Column.name = some w ∧
    (Key.ofClause ("FOREIGN KEY (" ++ o :: (w ++ [c]) ++ ") REFERENCES " ++ o :: (w ++ [c]) ++
        " (" ++ o :: (w ++ [c]) ++ ")") = [⟨w, ⟨w, w⟩⟩] ↔
      isPlainMark o = true ∧ isPlainMark c = true) ∧
    (isPlainMark o = true → isPlainMark c = true → ∀ name body,
      ∀ declaration ∈ clauses true body, ∀ key ∈ clauses true body,
        o :: (w ++ [c]) <+: declaration → Column.read? declaration ≠ none →
        KeyClauseOn (o :: (w ++ [c])) key →
        ∃ column, (Table.read name body).table.column? w = some column ∧
          column.isForeignKey = true) := by
  have written := nameText_marked ho hc hw
  refine ⟨?column, ?key, ?table⟩
  case column =>
    have clean : strip (o :: (w ++ [c]) ++ " INT") = o :: (w ++ [c]) ++ " INT" := by
      refine trim_of_clear (clear_cons.mpr (isBlank_of_isNameMark ho)) ?_
      rw [List.reverse_append]
      exact clear_cons.mpr (by decide)
    have read := name?_append (r := " INT") written (clear_cons.mpr (by decide))
    have gap : blanks? " INT" = some "INT" := by decide
    have type : typeName? "INT" = some "INT" := by decide
    simp only [Column.read?, clean, read, gap, type, bind, Option.bind_some, pure, Option.map_some]
  case key =>
    rw [Key.ofClause_same written (trim_marked_ne_nil hw)]
    simp only [List.cons.injEq, and_true, Key.mk.injEq, ColumnRef.mk.injEq, true_and, and_self]
    exact trim_marked_eq_iff hw
  case table =>
    intro plain plain' name body declaration declared key listed front readable on
    obtain ⟨column, read⟩ := Option.ne_none_iff_exists'.mp readable
    have clean := strip_of_mem_clauses declared
    have named := Column.name_of_marked ho hc hw front clean read
    have kind : ClauseKind.ofClause declaration = .column := by
      obtain ⟨rest, rfl⟩ := front
      exact ClauseKind.ofClause_of_mark ho _
    have trimmed := (trim_marked_eq_iff hw).mpr ⟨plain, plain'⟩
    obtain ⟨k, mem, same⟩ := on.exists_key (trim_marked_ne_nil hw)
    rw [← named]
    exact Table.isForeignKey_read declared kind read listed on.kind mem
      (same.trans (trimmed.trans named.symm)) name

/-- A column between marks of two kinds, and a key that lists it as it is written. -/
theorem marked_name_agrees_two_kinds :
    let written : Text := "\x60key\x22"
    let body : Text := "\x60key\x22 INT, FOREIGN KEY (a, \x60key\x22) REFERENCES r (x\x60, y)"
    (isNameMark '\x60' = true ∧ isNameMark '\x22' = true ∧ Text.IsWord "key") ∧
      (isPlainMark '\x60' = true ∧ isPlainMark '\x22' = true) ∧
      (written ++ " INT" ∈ clauses true body ∧ Column.read? (written ++ " INT") ≠ none) ∧
      (Column.read? (written ++ " INT")).map Column.name = some "key" ∧
      ∃ column, (Table.read "t" body).table.column? "key" = some column ∧
        column.isForeignKey = true := by
  intro written body
  have agrees := marked_name_agrees (o := '\x60') (c := '\x22') (w := "key") (by decide) (by decide)
    (by decide)
  have declared : written ++ " INT" ∈ clauses true body := by decide +kernel
  have listed : ("FOREIGN KEY (a, \x60key\x22) REFERENCES r (x\x60, y)" : Text) ∈
      clauses true body := by
    decide +kernel
  have readable : Column.read? (written ++ " INT") ≠ none := by decide +kernel
  have on : KeyClauseOn written "FOREIGN KEY (a, \x60key\x22) REFERENCES r (x\x60, y)" := by
    have keywords : PhraseText ["foreign", "key"] "FOREIGN KEY" :=
      (by decide : Spelled ["foreign", "key"] "FOREIGN KEY").phrase (by decide)
    have keyword : PhraseText ["references"] "REFERENCES" :=
      (by decide : Spelled ["references"] "REFERENCES").phrase (by decide)
    have table : NameText "r" ([] ++ "r".toList ++ []) := .mk (.inl rfl) (by decide) (.inl rfl)
    exact @KeyClauseOn.mk written _ _ "a, \x60key\x22" _ _ _ _ _ _ "x\x60, y" [] keywords
      allBlank_space (by decide) (by decide) allBlank_space keyword gap_space (.bare table)
      allBlank_space (by decide)
  refine ⟨⟨by decide, by decide, by decide⟩, ⟨by decide, by decide⟩, ⟨declared, readable⟩, agrees.1,
    ?_⟩
  exact agrees.2.2 (by decide) (by decide) "t" body _ declared _ listed ⟨" INT", rfl⟩ readable on

/-- Typographic marks stay with the names of a key, and its column is none of the table. -/
theorem marked_name_differs :
    (isNameMark '‘' = true ∧ isNameMark '’' = true ∧ Text.IsWord "a") ∧
      (Column.read? "‘a’ INT").map Column.name = some "a" ∧
      Key.ofClause "FOREIGN KEY (‘a’) REFERENCES ‘a’ (‘a’)" = [⟨"‘a’", ⟨"a", "‘a’"⟩⟩] ∧
      (Table.read "t" "‘a’ INT, FOREIGN KEY (‘a’) REFERENCES ‘a’ (‘a’)").table =
        ⟨"t", [⟨"a", "INT", false, true, none⟩]⟩ := by
  decide +kernel

end SchemaChart
