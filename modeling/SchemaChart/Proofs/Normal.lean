import SchemaChart.Proofs.Trimming
import SchemaChart.Script.Comment

/-!
# The normal form, seen from outside

Collapsing blanks and stripping the ends leaves the fields of a text, the runs between
its blanks, with one space between them (`strip_collapse`). Fields split at any blank,
so the normal form of a text with a blank inside comes from the fields on both sides.
-/

namespace SchemaChart.Text

/-- The runs of characters between blanks. -/
def fields : Text → List Text
  | [] => []
  | c :: rest =>
    if isBlank c then fields rest
    else if rest.head?.all isBlank then [c] :: fields rest
    else match fields rest with
      | [] => [[c]]
      | first :: more => (c :: first) :: more

-- ---------------------------------------------------------------------------
-- Fields
-- ---------------------------------------------------------------------------

theorem fields_cons_blank (h : isBlank c = true) : fields (c :: s) = fields s := by
  rw [fields, if_pos h]

theorem fields_cons (h : isBlank c = false) (s : Text) :
    fields (c :: s) = if s.head?.all isBlank then [c] :: fields s
      else match fields s with
        | [] => [[c]]
        | first :: more => (c :: first) :: more := by
  rw [fields, if_neg (by simp [h])]

theorem fields_ne_nil (h : isBlank c = false) : fields (c :: s) ≠ [] := by
  rw [fields_cons h]
  split
  · simp
  · split <;> simp

theorem fields_append_blank (h : isBlank c = true) (a b : Text) :
    fields (a ++ c :: b) = fields a ++ fields b := by
  induction a with
  | nil => exact fields_cons_blank h
  | cons d a ih =>
    by_cases hd : isBlank d = true
    · rw [List.cons_append, fields_cons_blank hd, fields_cons_blank hd, ih]
    · have letter : isBlank d = false := Bool.eq_false_iff.mpr hd
      cases a with
      | nil => simp [fields, hd, h]
      | cons e a =>
        rw [List.cons_append, fields_cons letter, ih, fields_cons letter]
        by_cases he : isBlank e = true
        · simp [he]
        · have some : fields (e :: a) ≠ [] := fields_ne_nil (by simpa using he)
          obtain ⟨first, more, same⟩ := List.exists_cons_of_ne_nil some
          simp [he, same]

theorem ne_nil_of_mem_fields (h : f ∈ fields s) : f ≠ [] := by
  induction s generalizing f with
  | nil => simp [fields] at h
  | cons c s ih =>
    rw [fields] at h
    split at h
    · exact ih h
    · split at h
      · rcases List.mem_cons.mp h with rfl | h
        · simp
        · exact ih h
      · split at h
        · simp_all
        · next first more same =>
          rcases List.mem_cons.mp h with rfl | h
          · simp
          · exact ih (same ▸ List.mem_cons_of_mem _ h)

theorem joinWith_cons_cons (gap s t : Text) (more : List Text) :
    joinWith gap (s :: t :: more) = s ++ gap ++ joinWith gap (t :: more) := rfl

theorem joinWith_append (gap s t : Text) (xs ys : List Text) :
    joinWith gap (s :: xs ++ t :: ys) =
      joinWith gap (s :: xs) ++ gap ++ joinWith gap (t :: ys) := by
  induction xs generalizing s with
  | nil => rfl
  | cons x xs ih =>
    have rest := ih x
    rw [List.cons_append] at rest ⊢
    rw [List.cons_append, joinWith_cons_cons, rest, joinWith_cons_cons]
    simp

theorem joinWith_eq_nil (h : ∀ s ∈ xs, s ≠ []) : joinWith gap xs = [] ↔ xs = [] := by
  cases xs with
  | nil => simp [joinWith]
  | cons s more =>
    have hs := h s (by simp)
    cases more <;> simp [joinWith, hs]

/-- Both collapsed forms without the blanks at their end. -/
theorem trimEnd_collapse (s : Text) :
    trimEnd isBlank (collapse true s) = joinWith [' '] (fields s) ∧
      trimEnd isBlank (collapse false s) =
        if s.head?.any isBlank && !(fields s).isEmpty then ' ' :: joinWith [' '] (fields s)
        else joinWith [' '] (fields s) := by
  induction s with
  | nil => exact ⟨rfl, rfl⟩
  | cons c s ih =>
    have space : isBlank ' ' = true := by decide
    have written : joinWith [' '] (fields s) = [] ↔ fields s = [] :=
      joinWith_eq_nil fun f mem => ne_nil_of_mem_fields mem
    by_cases hc : isBlank c = true
    · rw [collapse, collapse, if_pos hc, if_pos hc, fields_cons_blank hc]
      refine ⟨by simpa using ih.1, ?_⟩
      rw [if_neg (by simp), trimEnd_cons, ih.1]
      by_cases none : fields s = []
      · simp [none, joinWith, space]
      · simp [written, none, hc]
    · have kept : trimEnd isBlank (c :: collapse false s) =
          c :: trimEnd isBlank (collapse false s) := by
        rw [trimEnd_cons, if_neg (by simp [hc])]
      have both : c :: trimEnd isBlank (collapse false s) = joinWith [' '] (fields (c :: s)) := by
        rw [ih.2, fields, if_neg hc]
        cases s with
        | nil => simp [fields, joinWith]
        | cons d s =>
          by_cases hd : isBlank d = true
          · cases rest : fields (d :: s) <;> simp [hd, joinWith]
          · obtain ⟨first, more, same⟩ :=
              List.exists_cons_of_ne_nil (fields_ne_nil (s := s) (Bool.eq_false_iff.mpr hd))
            cases more <;> simp [hd, same, joinWith]
      rw [collapse, collapse, if_neg hc, if_neg hc, kept, both]
      simp [hc]

theorem dropWhile_collapse (after : Bool) (s : Text) :
    (collapse after s).dropWhile isBlank = collapse true s := by
  induction s generalizing after with
  | nil => rfl
  | cons c s ih =>
    by_cases hc : isBlank c = true
    · have space : isBlank ' ' = true := by decide
      cases after
      · simp [collapse, hc, space, ih]
      · simpa [collapse, hc] using ih true
    · simp [collapse, hc]

/-- Collapsing and stripping leaves the fields with one space between them. -/
theorem strip_collapse (s : Text) : strip (collapse false s) = joinWith [' '] (fields s) := by
  rw [strip, trim, dropWhile_collapse]
  exact (trimEnd_collapse s).1

-- ---------------------------------------------------------------------------
-- Finding a text inside another
-- ---------------------------------------------------------------------------

theorem mentions_iff : mentions needle s = true ↔ needle <:+: s := by
  induction s with
  | nil => simp [mentions]
  | cons c s ih => simp [mentions, ih, List.infix_cons_iff]

theorem prefix_collapse (h : w <+: s) (hw : ∀ c ∈ w, isBlank c = false) (after : Bool) :
    w <+: collapse after s := by
  induction w generalizing s after with
  | nil => exact List.nil_prefix
  | cons c w ih =>
    cases s with
    | nil => simp at h
    | cons d s =>
      obtain ⟨rfl, rest⟩ := List.cons_prefix_cons.mp h
      rw [collapse, if_neg (by simp [hw c (by simp)])]
      exact List.cons_prefix_cons.mpr
        ⟨rfl, ih rest (fun e he => hw e (List.mem_cons_of_mem _ he)) false⟩

theorem infix_collapse (h : w <:+: s) (hw : ∀ c ∈ w, isBlank c = false) (after : Bool) :
    w <:+: collapse after s := by
  induction s generalizing after with
  | nil => exact h
  | cons c s ih =>
    rcases List.infix_cons_iff.mp h with front | inner
    · exact (prefix_collapse front hw after).isInfix
    · rw [collapse]
      split
      · cases after
        · exact (ih inner true).trans (List.infix_cons (List.infix_refl _))
        · exact ih inner true
      · exact (ih inner false).trans (List.infix_cons (List.infix_refl _))

theorem infix_dropWhile (h : w <:+: s) (hne : w ≠ []) (hw : ∀ c ∈ w, p c = false) :
    w <:+: s.dropWhile p := by
  induction s with
  | nil => exact h
  | cons c s ih =>
    rw [List.dropWhile_cons]
    split
    · next hc =>
      rcases List.infix_cons_iff.mp h with front | inner
      · obtain ⟨d, w, rfl⟩ := List.exists_cons_of_ne_nil hne
        have same := (List.cons_prefix_cons.mp front).1
        simp [same ▸ hw d (by simp)] at hc
      · exact ih inner
    · exact h

theorem infix_strip (h : w <:+: s) (hne : w ≠ []) (hw : ∀ c ∈ w, isBlank c = false) :
    w <:+: strip s := by
  have back : w.reverse <:+: (s.dropWhile isBlank).reverse :=
    List.reverse_infix.mpr (infix_dropWhile h hne hw)
  have trimmed := infix_dropWhile back (by simpa using hne) (by simpa using hw)
  simpa [strip, trim, trimEnd] using List.reverse_infix.mpr trimmed

-- ---------------------------------------------------------------------------
-- Comments at a line end
-- ---------------------------------------------------------------------------

theorem dropLineComments_append_feed (inside : Bool) (a b : Text) :
    dropLineComments inside (a ++ '\n' :: b) =
      dropLineComments inside a ++ '\n' :: dropLineComments false b := by
  induction a generalizing inside with
  | nil => cases inside <;> simp [dropLineComments]
  | cons c a ih =>
    have head : ((a ++ '\n' :: b).head? = some '-') = (a.head? = some '-') := by
      cases a <;> simp
    simp only [List.cons_append, dropLineComments, head, ih]
    split
    · split <;> rfl
    · split <;> rfl

theorem afterBlock?_cons (h : ¬(c = '*' ∧ s.head? = some '/')) :
    afterBlock? (c :: s) = afterBlock? s := by
  rw [afterBlock?, if_neg (by simpa using h)]

theorem afterBlock?_append (h : afterBlock? s = some rest) (t : Text) :
    afterBlock? (s ++ t) = some (rest ++ t) := by
  induction s with
  | nil => simp [afterBlock?] at h
  | cons c s ih =>
    by_cases ends : c = '*' ∧ s.head? = some '/'
    · obtain ⟨rfl, slash⟩ := ends
      cases s with
      | nil => simp at slash
      | cons d s =>
        cases Option.some.inj slash
        simp only [afterBlock?] at h
        cases Option.some.inj h
        rfl
    · rw [afterBlock?_cons ends] at h
      have goes : ¬(c = '*' ∧ (s ++ t).head? = some '/') := by
        cases s with
        | nil => simp [afterBlock?] at h
        | cons d s => exact ends
      rw [List.cons_append, afterBlock?_cons goes, ih h]

theorem dropBlockComments_closed (h : afterBlock? s = some rest) :
    dropBlockComments ('/' :: '*' :: s) = ' ' :: dropBlockComments rest := by
  rw [dropBlockComments]
  split
  · next closed =>
    rw [h] at closed
    cases Option.some.inj closed
    rfl
  · next opened => simp [h] at opened

theorem dropBlockComments_cons (h : ¬(c = '/' ∧ s.head? = some '*')) :
    dropBlockComments (c :: s) = c :: dropBlockComments s := by
  rw [dropBlockComments]
  rintro rest rfl rfl
  exact h ⟨rfl, rfl⟩

/-- With no comment left open, what follows a line end is read on its own. -/
theorem dropBlockComments_append_feed (h : ¬['/', '*'] <:+: dropBlockComments s) (t : Text) :
    dropBlockComments (s ++ '\n' :: t) = dropBlockComments s ++ '\n' :: dropBlockComments t := by
  fun_induction dropBlockComments s with
  | case1 rest after closed ih =>
    have inner : ¬['/', '*'] <:+: dropBlockComments after := fun mem => h (List.infix_cons mem)
    rw [List.cons_append, List.cons_append, dropBlockComments_closed (afterBlock?_append closed _),
      ih inner]
    rfl
  | case2 rest opened => exact absurd ((List.prefix_append ['/', '*'] rest).isInfix) h
  | case3 c rest other ih =>
    have plain : ¬(c = '/' ∧ (rest ++ '\n' :: t).head? = some '*') := by
      rintro ⟨rfl, star⟩
      cases rest with
      | nil => simp at star
      | cons d rest =>
        cases Option.some.inj star
        exact other rest rfl rfl
    rw [List.cons_append, dropBlockComments_cons plain, ih fun mem => h (List.infix_cons mem)]
    rfl
  | case4 => exact dropBlockComments_cons (by simp)

theorem normalize_eq (script : Text) : normalize script = joinWith [' '] (fields
    (dropBlockComments (dropLineComments false (script.map straighten)))) := strip_collapse _

end SchemaChart.Text
