import SchemaChart.Proofs.Readers

/-!
# Trimming

Trimming takes a run of characters of the class off each end (`exists_trim`). What it leaves
begins and ends outside the class, so trimming it again changes nothing (`trim_trim`).
-/

namespace SchemaChart.Text

theorem trimEnd_cons (p : Char → Bool) (c : Char) (s : Text) :
    trimEnd p (c :: s) = if trimEnd p s = [] ∧ p c = true then [] else c :: trimEnd p s := by
  rw [trimEnd, trimEnd, List.reverse_cons, List.dropWhile_append]
  cases h : s.reverse.dropWhile p with
  | nil =>
    by_cases hc : p c = true <;> simp [hc]
  | cons d rest => simp

theorem trimEnd_append (p : Char → Bool) (a b : Text) (h : trimEnd p b ≠ []) :
    trimEnd p (a ++ b) = a ++ trimEnd p b := by
  induction a with
  | nil => rfl
  | cons c a ih =>
    rw [List.cons_append, trimEnd_cons, ih, if_neg (by simp [h])]
    rfl

theorem trimEnd_upTo (a rest : Text) (hc : p c = false) :
    trimEnd p (a ++ c :: rest) = a ++ c :: trimEnd p rest := by
  have kept : trimEnd p (c :: rest) = c :: trimEnd p rest := by
    rw [trimEnd_cons, if_neg (by simp [hc])]
  rw [trimEnd_append p a _ (by simp [kept]), kept]

theorem dropWhile_upTo (a rest : Text) (hc : p c = false) :
    (a ++ c :: rest).dropWhile p = a.dropWhile p ++ c :: rest := by
  rw [List.dropWhile_append]
  split
  · next gone => rw [List.isEmpty_iff.mp gone, dropWhile_clear (clear_cons.mpr hc), List.nil_append]
  · rfl

theorem exists_trimEnd (p : Char → Bool) (s : Text) :
    ∃ g, (∀ c ∈ g, p c = true) ∧ s = trimEnd p s ++ g := by
  refine ⟨(s.reverse.takeWhile p).reverse, ?_, ?_⟩
  · intro c mem
    exact List.mem_takeWhile_imp (List.mem_reverse.mp mem)
  · rw [trimEnd, ← List.reverse_append, List.takeWhile_append_dropWhile, List.reverse_reverse]

theorem exists_trim (p : Char → Bool) (s : Text) :
    ∃ g g', (∀ c ∈ g, p c = true) ∧ (∀ c ∈ g', p c = true) ∧ s = g ++ (trim p s ++ g') := by
  obtain ⟨g', back, cut⟩ := exists_trimEnd p (s.dropWhile p)
  refine ⟨s.takeWhile p, g', fun c mem => List.mem_takeWhile_imp mem, back, ?_⟩
  rw [trim, ← cut, List.takeWhile_append_dropWhile]

theorem isPrefix_trimEnd (p : Char → Bool) (s : Text) : trimEnd p s <+: s := by
  obtain ⟨g, -, cut⟩ := exists_trimEnd p s
  exact ⟨g, cut.symm⟩

theorem isInfix_trim (p : Char → Bool) (s : Text) : trim p s <:+: s :=
  (isPrefix_trimEnd p _).isInfix.trans (List.dropWhile_suffix p).isInfix

theorem clear_trim (p : Char → Bool) (s : Text) : Clear p (trim p s) := by
  intro c mem
  obtain ⟨t, cut⟩ := isPrefix_trimEnd p (s.dropWhile p)
  refine clear_dropWhile p s c ?_
  obtain ⟨r, same⟩ := List.head?_eq_some_iff.mp mem
  rw [← cut, show trimEnd p (s.dropWhile p) = c :: r from same]
  rfl

theorem clear_reverse_trim (p : Char → Bool) (s : Text) : Clear p (trim p s).reverse := by
  rw [trim, trimEnd, List.reverse_reverse]
  exact clear_dropWhile p _

theorem trim_of_clear (front : Clear p s) (back : Clear p s.reverse) : trim p s = s := by
  rw [trim, dropWhile_clear front, trimEnd, dropWhile_clear back, List.reverse_reverse]

theorem trim_of_forall (h : ∀ c ∈ s, p c = false) : trim p s = s :=
  trim_of_clear (fun c mem => h c (List.mem_of_mem_head? mem))
    (fun c mem => h c (List.mem_reverse.mp (List.mem_of_mem_head? mem)))

theorem trim_trim (p : Char → Bool) (s : Text) : trim p (trim p s) = trim p s :=
  trim_of_clear (clear_trim p s) (clear_reverse_trim p s)

/-- What trimming leaves of a marked word: the word, and the marks outside the class. -/
theorem trim_marked (hne : w ≠ []) (hw : ∀ d ∈ w, p d = false) :
    trim p (o :: (w ++ [c])) = (if p o then [] else [o]) ++ w ++ (if p c then [] else [c]) := by
  have back (t : Text) (ht : Clear p (t ++ w).reverse) :
      trimEnd p (t ++ (w ++ [c])) = t ++ w ++ (if p c then [] else [c]) := by
    rw [← List.append_assoc, trimEnd, List.reverse_concat]
    by_cases hc : p c = true
    · rw [List.dropWhile_cons_of_pos hc, dropWhile_clear ht, List.reverse_reverse, if_pos hc,
        List.append_nil]
    · rw [List.dropWhile_cons_of_neg hc, if_neg hc]
      simp
  have last (t : Text) : Clear p (t ++ w).reverse := by
    obtain ⟨v, d, rfl⟩ := (List.eq_nil_or_concat' w).resolve_left hne
    rw [← List.append_assoc, List.reverse_concat]
    exact clear_cons.mpr (hw d (by simp))
  have first : Clear p (w ++ [c]) := by
    obtain ⟨d, v, rfl⟩ := List.exists_cons_of_ne_nil hne
    exact clear_cons.mpr (hw d (by simp))
  by_cases ho : p o = true
  · rw [trim, List.dropWhile_cons_of_pos ho, dropWhile_clear first, if_pos ho]
    exact back [] (last [])
  · rw [trim, List.dropWhile_cons_of_neg ho, if_neg ho]
    exact back [o] (last [o])

-- ---------------------------------------------------------------------------
-- Blanks
-- ---------------------------------------------------------------------------

theorem exists_strip (s : Text) :
    ∃ g g', AllBlank g ∧ AllBlank g' ∧ s = g ++ (strip s ++ g') := exists_trim isBlank s

theorem strip_strip (s : Text) : strip (strip s) = strip s := trim_trim isBlank s

theorem strip_padded (hg : AllBlank g) (clean : strip s = s) (hg' : AllBlank g') :
    strip (g ++ (s ++ g')) = s := by
  have front : Clear isBlank s := clean ▸ clear_trim isBlank s
  have back : Clear isBlank s.reverse := clean ▸ clear_reverse_trim isBlank s
  rw [strip, trim, List.dropWhile_append_of_pos hg]
  cases s with
  | nil =>
    have none : ([] ++ g').dropWhile isBlank = [] := List.dropWhile_eq_nil_iff.mpr hg'
    rw [none]
    rfl
  | cons c s =>
    have start : (c :: s ++ g').dropWhile isBlank = c :: s ++ g' :=
      dropWhile_clear (clear_cons.mpr (clear_cons.mp front))
    have blank : ∀ d ∈ g'.reverse, isBlank d = true := fun d mem => hg' d (List.mem_reverse.mp mem)
    rw [start, trimEnd, List.reverse_append, List.dropWhile_append_of_pos blank,
      dropWhile_clear back, List.reverse_reverse]

end SchemaChart.Text
