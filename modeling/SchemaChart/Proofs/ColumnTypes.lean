import SchemaChart.Proofs.QuotedNames

/-!
# Types with parameters

A column clause takes the parameters of its type up to the first closing parenthesis, where
everything else goes by the scan for the one that closes the group. `column_type_read`: the
type has its whole list of parameters exactly if no closing parenthesis stands in the list,
be it in a group or in a literal.
-/

namespace SchemaChart

open Text

/-- A type as it is kept: without blanks and in capitals. -/
def keptType (written : Text) : Text := upper (written.filter (!isBlank ·))

theorem keptType_append (s t : Text) : keptType (s ++ t) = keptType s ++ keptType t := by
  rw [keptType, List.filter_append, upper_append]
  rfl

theorem keptType_paren_ne_nil (s : Text) : keptType (s ++ [')']) ≠ [] := by
  rw [keptType_append]
  simp [show keptType [')'] = [')'] by decide]

/-- Up to a closing parenthesis a group is read as if it ended there. -/
theorem flatGroup?_first (p rest : Text) :
    ∃ r, flatGroup? ('(' :: (p ++ ')' :: rest)) = some (before ')' p, r) := by
  rcases before_cases ')' p with whole | ⟨t, cut⟩
  · have read := flatGroup?_append allBlank_nil (not_mem_before ')' p) rest
    rw [← whole] at read
    exact ⟨rest, by rw [← whole]; exact read⟩
  · refine ⟨t ++ ')' :: rest, ?_⟩
    have read := flatGroup?_append allBlank_nil (not_mem_before ')' p) (t ++ ')' :: rest)
    conv_lhs => rw [cut]
    rw [List.append_assoc]
    exact read

theorem typeName?_group (hw : Text.IsWord w) (p rest : Text) :
    typeName? (w ++ '(' :: (p ++ ')' :: rest)) =
      some (keptType (w ++ '(' :: (before ')' p ++ [')']))) := by
  have word : word? (w ++ '(' :: (p ++ ')' :: rest)) = some (w, '(' :: (p ++ ')' :: rest)) :=
    word?_eq_some_iff.mpr ⟨hw, rfl, clear_cons.mpr (by decide)⟩
  obtain ⟨r, group⟩ := flatGroup?_first p rest
  have written : w ++ "(" ++ before ')' p ++ ")" = w ++ '(' :: (before ')' p ++ [')']) := by simp
  simp only [typeName?, word, group, written, bind, Option.bind_some, pure]
  rfl

/-- More behind the first closing parenthesis makes another type. -/
theorem keptType_eq_iff (w p : Text) :
    keptType (w ++ '(' :: (before ')' p ++ [')'])) = keptType (w ++ '(' :: (p ++ [')'])) ↔
      ')' ∉ p := by
  constructor
  · intro same mem
    rcases before_cases ')' p with whole | ⟨t, cut⟩
    · exact not_mem_before ')' p (whole ▸ mem)
    · have longer : keptType (w ++ '(' :: (p ++ [')'])) =
          keptType (w ++ '(' :: (before ')' p ++ [')'])) ++ keptType (t ++ [')']) := by
        rw [← keptType_append]
        conv_lhs => rw [cut]
        simp
      exact keptType_paren_ne_nil t (List.self_eq_append_right.mp (same.trans longer))
  · intro shut
    rcases before_cases ')' p with whole | ⟨t, cut⟩
    · rw [← whole]
    · exact absurd (cut ▸ by simp) shut

/-- The clause of a column named `n` gives it the type `w` with the parameters up to the
first closing parenthesis; these are all parameters `p` exactly if none stands in them. -/
theorem column_type_read (hn : Text.IsWord n) (hw : Text.IsWord w) (p rest : Text) :
    ∃ c, Column.read? (n ++ ' ' :: (w ++ '(' :: (p ++ ')' :: rest))) = some c ∧ c.name = n ∧
      c.type = keptType (w ++ '(' :: (before ')' p ++ [')'])) ∧
      (c.type = keptType (w ++ '(' :: (p ++ [')'])) ↔ ')' ∉ p) := by
  have front : Clear isBlank (n ++ ' ' :: (w ++ '(' :: (p ++ ')' :: rest))) := hn.clear_isBlank
  have clean : strip (n ++ ' ' :: (w ++ '(' :: (p ++ ')' :: rest))) =
      n ++ ' ' :: (w ++ '(' :: (p ++ ')' :: trimEnd isBlank rest)) := by
    have back := trimEnd_upTo (n ++ ' ' :: (w ++ '(' :: p)) rest (by decide : isBlank ')' = false)
    simp only [List.append_assoc, List.cons_append] at back
    rw [strip, trim, dropWhile_clear front, back]
  have name := name?_append (r := ' ' :: (w ++ '(' :: (p ++ ')' :: trimEnd isBlank rest)))
    (.mk (.inl rfl) hn (.inl rfl)) (clear_cons.mpr (by decide))
  simp only [List.nil_append, List.append_nil] at name
  have gap : blanks? (' ' :: (w ++ '(' :: (p ++ ')' :: trimEnd isBlank rest))) =
      some (w ++ '(' :: (p ++ ')' :: trimEnd isBlank rest)) :=
    blanks?_eq_some_iff.mpr ⟨[' '], gap_space, rfl, hw.clear_isBlank⟩
  have type := typeName?_group hw p (trimEnd isBlank rest)
  simp only [Column.read?, clean, name, gap, type, bind, Option.bind_some, pure]
  exact ⟨_, rfl, rfl, rfl, keptType_eq_iff w p⟩

/-- Nested groups and literals behind a plain list, which is kept with its blanks out. -/
theorem column_type_read_whole :
    (Text.IsWord "size" ∧ Text.IsWord "decimal") ∧
      ∃ c, Column.read? "size decimal( 10 ,\t2 ) CHECK ((size) > 0)" = some c ∧ c.name = "size" ∧
        c.type = "DECIMAL(10,2)" := by
  have words : Text.IsWord "size" ∧ Text.IsWord "decimal" := by decide
  obtain ⟨c, read, name, -, whole⟩ :=
    column_type_read words.1 words.2 " 10 ,\t2 " " CHECK ((size) > 0)"
  exact ⟨words, c, read, name, (whole.mpr (by decide)).trans (by decide)⟩

/-- A nested group and a parenthesis in a literal belong to the group that the scan closes,
and are cut off the type. -/
theorem column_type_cut :
    closingFrom true "((1),2)" 0 = .ok (some 6) ∧
      (Column.read? "a NUMERIC((1),2)").map Column.type = some "NUMERIC((1)" ∧
      closingFrom true "('a)','b')" 0 = .ok (some 9) ∧
      (Column.read? "a ENUM('a)','b')").map Column.type = some "ENUM('A)" := by
  decide

end SchemaChart
