import SchemaChart.Proofs.Layout
import SchemaChart.Proofs.Normal

/-!
# Printed texts are in normal form

A tidy text has single spaces inside and no blanks at its ends, and nothing in it opens
a comment. Printed tables are tidy, so bringing a printed script into normal form only
changes the blanks between its tables (`ScriptText.normalize`).
-/

namespace SchemaChart

namespace Text

/-- A character that is not blank, begins no comment and stays as it is. -/
def isSolid (c : Char) : Bool := !isBlank c && c ≠ '-' && c ≠ '/' && straighten c = c

inductive Tidy : Text → Prop
  | solid : s ≠ [] → (∀ c ∈ s, isSolid c = true) → Tidy s
  | append : Tidy a → Tidy b → Tidy (a ++ b)
  | space : Tidy a → Tidy b → Tidy (a ++ ' ' :: b)

theorem isBlank_of_isSolid (h : isSolid c = true) : isBlank c = false := by
  simp only [isSolid, Bool.and_eq_true, Bool.not_eq_true'] at h
  exact h.1.1.1

theorem isSolid_of_isWord (h : isWord c = true) : isSolid c = true := by
  have apart : ∀ d ∈ ['-', '/', '\u201C', '\u201D'], c ≠ d := by
    have none : ∀ d ∈ ['-', '/', '\u201C', '\u201D'], isWord d = false := by decide +kernel
    exact fun d mem => ne_of_isWord h (none d mem)
  simp only [List.mem_cons, List.not_mem_nil, or_false, forall_eq_or_imp, forall_eq] at apart
  simp [isSolid, isBlank_of_isWord h, apart, straighten]

theorem isSolid_of_isQuote (h : isQuote c = true) : isSolid c = true := by
  simp only [isQuote, Bool.or_eq_true, decide_eq_true_eq] at h
  rcases h with (rfl | rfl) | rfl <;> decide

-- ---------------------------------------------------------------------------
-- What a tidy text is to the steps of the normal form
-- ---------------------------------------------------------------------------

theorem Tidy.ne_nil (h : Tidy s) : s ≠ [] := by
  induction h with
  | solid hne => exact hne
  | append _ _ iha _ => simp [iha]
  | space => simp

theorem Tidy.clear (h : Tidy s) (r : Text) : Clear isBlank (s ++ r) := by
  induction h generalizing r with
  | @solid s hne hs =>
    obtain ⟨c, s, rfl⟩ := List.exists_cons_of_ne_nil hne
    exact clear_cons.mpr (isBlank_of_isSolid (hs c (by simp)))
  | append _ _ iha _ =>
    rw [List.append_assoc]
    exact iha _
  | space _ _ iha _ =>
    rw [List.append_assoc]
    exact iha _

theorem Tidy.mem (h : Tidy s) (hc : c ∈ s) : isSolid c = true ∨ isBlank c = true := by
  induction h with
  | solid _ hs => exact .inl (hs c hc)
  | append _ _ iha ihb => exact (List.mem_append.mp hc).elim iha ihb
  | space _ _ iha ihb =>
    rcases List.mem_append.mp hc with hc | hc
    · exact iha hc
    · rcases List.mem_cons.mp hc with rfl | hc
      · exact .inr (by decide)
      · exact ihb hc

theorem trimEnd_solid (hs : ∀ c ∈ s, isSolid c = true) (r : Text) :
    trimEnd isBlank (s ++ r) = s ++ trimEnd isBlank r := by
  induction s with
  | nil => rfl
  | cons c s ih =>
    have hc := isBlank_of_isSolid (hs c (by simp))
    rw [List.cons_append, trimEnd_cons, if_neg (by simp [hc]),
      ih fun d mem => hs d (List.mem_cons_of_mem _ mem)]
    rfl

theorem collapse_solid (hs : ∀ c ∈ s, isSolid c = true) (r : Text) :
    collapse false (s ++ r) = s ++ collapse false r := by
  induction s with
  | nil => rfl
  | cons c s ih =>
    have hc := isBlank_of_isSolid (hs c (by simp))
    rw [List.cons_append, collapse, if_neg (by simp [hc]),
      ih fun d mem => hs d (List.mem_cons_of_mem _ mem)]
    rfl

theorem Tidy.trimEnd (h : Tidy s) (r : Text) :
    trimEnd isBlank (s ++ r) = s ++ Text.trimEnd isBlank r := by
  induction h generalizing r with
  | solid _ hs => exact trimEnd_solid hs r
  | append _ _ iha ihb => rw [List.append_assoc, iha, ihb, List.append_assoc]
  | space _ hb iha ihb =>
    rw [List.append_assoc, List.cons_append, iha, trimEnd_cons, ihb,
      if_neg (by simp [hb.ne_nil]), List.append_assoc, List.cons_append]

theorem Tidy.collapse (h : Tidy s) (after : Bool) (r : Text) :
    collapse after (s ++ r) = s ++ Text.collapse false r := by
  induction h generalizing after r with
  | @solid s hne hs =>
    obtain ⟨c, s, rfl⟩ := List.exists_cons_of_ne_nil hne
    have hc := isBlank_of_isSolid (hs c (by simp))
    rw [List.cons_append, Text.collapse, if_neg (by simp [hc]),
      collapse_solid fun d mem => hs d (List.mem_cons_of_mem _ mem)]
    rfl
  | append _ _ iha ihb => rw [List.append_assoc, iha, ihb, List.append_assoc]
  | space _ _ iha ihb =>
    have blank : isBlank ' ' = true := by decide
    rw [List.append_assoc, List.cons_append, iha, Text.collapse, if_pos blank,
      if_neg (by simp), ihb, List.append_assoc, List.cons_append]

theorem Tidy.strip (h : Tidy s) : strip s = s := by
  have start : s.dropWhile isBlank = s := dropWhile_clear (by simpa using h.clear [])
  have ends : Text.trimEnd isBlank s = s := by simpa [Text.trimEnd] using h.trimEnd []
  rw [Text.strip, trim, start, ends]

-- ---------------------------------------------------------------------------
-- Texts without comments
-- ---------------------------------------------------------------------------

theorem plain_of_solid_or_blank (h : isSolid c = true ∨ isBlank c = true) :
    c ≠ '-' ∧ c ≠ '/' ∧ straighten c = c := by
  rcases h with solid | blank
  · simp only [isSolid, Bool.and_eq_true, decide_eq_true_eq] at solid
    exact ⟨solid.1.1.2, solid.1.2, solid.2⟩
  · have apart : ∀ d ∈ ['-', '/', '\u201C', '\u201D'], c ≠ d := by
      rintro d mem rfl
      have none : ∀ d ∈ ['-', '/', '\u201C', '\u201D'], isBlank d = false := by decide
      simp [none c mem] at blank
    simp only [List.mem_cons, List.not_mem_nil, or_false, forall_eq_or_imp, forall_eq] at apart
    exact ⟨apart.1, apart.2.1, by simp [straighten, apart]⟩

theorem dropLineComments_eq_self (h : '-' ∉ s) : dropLineComments false s = s := by
  induction s with
  | nil => rfl
  | cons c s ih =>
    obtain ⟨hc, hs⟩ := List.ne_and_not_mem_of_not_mem_cons h
    rw [dropLineComments, if_neg (by simp), if_neg (by simp [hc.symm]), ih hs]

theorem dropBlockComments_eq_self (h : '/' ∉ s) : dropBlockComments s = s := by
  induction s with
  | nil => rw [dropBlockComments]
  | cons c s ih =>
    obtain ⟨hc, hs⟩ := List.ne_and_not_mem_of_not_mem_cons h
    rw [dropBlockComments_cons (by simp [hc.symm]), ih hs]

theorem normalize_of_plain (h : ∀ c ∈ s, isSolid c = true ∨ isBlank c = true) :
    normalize s = strip (collapse false s) := by
  have dash : '-' ∉ s := fun mem => (plain_of_solid_or_blank (h _ mem)).1 rfl
  have slash : '/' ∉ s := fun mem => (plain_of_solid_or_blank (h _ mem)).2.1 rfl
  have straight : s.map straighten = s := by
    rw [List.map_congr_left fun c mem => (plain_of_solid_or_blank (h c mem)).2.2, List.map_id']
  rw [normalize, straight, dropLineComments_eq_self dash, dropBlockComments_eq_self slash]

theorem Tidy.cons (hc : isSolid c = true) (h : Tidy s) : Tidy (c :: s) :=
  .append (a := [c]) (.solid (by simp) (by simpa using hc)) h

end Text

open Text

-- ---------------------------------------------------------------------------
-- Printed tables
-- ---------------------------------------------------------------------------

theorem tidy_of_isWord (h : Text.IsWord w) : Tidy w :=
  .solid h.1 fun c mem => isSolid_of_isWord (h.2 c mem)

theorem QuotedText.tidy {name s : Text} (h : QuotedText name s) (hn : Text.IsWord name) :
    Tidy s := by
  obtain ⟨q, hq, rfl⟩ := h
  have mark := isSolid_of_isQuote hq
  exact (tidy_of_isWord hn).append (.solid (by simp) (by simpa using mark)) |>.cons mark

theorem TypeText.tidy (h : TypeText s) : Tidy s := by
  cases h with
  | plain hw => exact tidy_of_isWord hw
  | @sized w p hw hp =>
    have comma : isSolid ',' = true := by decide
    have inner : Tidy (p ++ [')']) := by
      refine .solid (by simp) fun c mem => ?_
      rcases List.mem_append.mp mem with mem | mem
      · rcases hp c mem with word | rfl
        · exact isSolid_of_isWord word
        · exact comma
      · rw [List.mem_singleton.mp mem]
        decide
    exact (tidy_of_isWord hw).append (inner.cons (by decide))

theorem inherited_tidy : Inherited Tidy where
  word := tidy_of_isWord
  quoted := QuotedText.tidy
  typed := TypeText.tidy
  group hs := .cons (by decide) (hs.append (.solid (by simp) (by decide)))
  space := .space

theorem ClauseText.tidy (h : ClauseText e s) (he : e.Printable) : Tidy s :=
  h.inherits inherited_tidy he

theorem Spelled.tidy {words : List Text} {s : Text} (h : Spelled words s) (hne : words ≠ [])
    (hw : ∀ word ∈ words, IsKeyword word) : Tidy s := h.inherits inherited_tidy hne hw

theorem BodyText.tidy (h : BodyText es b) (hne : es ≠ []) (hes : ∀ e ∈ es, e.Printable) :
    Tidy b := by
  induction h with
  | nil => exact absurd rfl hne
  | last he => exact he.tidy (hes _ (by simp))
  | @cons e s e' es r he hr ih =>
    have comma : Tidy [','] := .solid (by simp) (by decide)
    have first := (he.tidy (hes e (by simp))).append comma
    have rest := ih (by simp) fun e mem => hes e (List.mem_cons_of_mem _ mem)
    simpa using first.space rest

theorem TableText.tidy {l : Layout} (h : TableText l s) : Tidy s := by
  cases h with
  | @mk u e d n b hu he hd hn hb =>
    have group : Tidy ('(' :: (b ++ [')', ';'])) := by
      have close : Tidy [')', ';'] := .solid (by simp) (by decide)
      by_cases none : l.clauses = []
      · rw [none] at hb
        cases hb
        exact close.cons (by decide)
      · exact ((hb.tidy none l.printable_clauses).append close).cons (by decide)
    have named := (hn.tidy l.named).space group
    have qualified : Tidy (d ++ (n ++ ' ' :: '(' :: (b ++ [')', ';']))) := by
      rcases hd with rfl | ⟨other, v, word, hv, rfl⟩
      · exact named
      · have dot : Tidy ['.'] := .solid (by simp) (by decide)
        exact ((hv.tidy word).append dot).append named
    have guarded : Tidy (e ++ (d ++ (n ++ ' ' :: '(' :: (b ++ [')', ';'])))) := by
      rcases he with rfl | ⟨v, hv, rfl⟩
      · exact qualified
      · simpa using (hv.tidy (by simp) (by decide)).space qualified
    exact (hu.tidy (by simp) (by decide)).space guarded

-- ---------------------------------------------------------------------------
-- Scripts
-- ---------------------------------------------------------------------------

theorem ScriptText.mem (h : ScriptText ls s) (hc : c ∈ s) :
    isSolid c = true ∨ isBlank c = true := by
  induction h with
  | nil hg => exact .inr (hg c hc)
  | cons hg ht hr ih =>
    rcases List.mem_append.mp hc with hc | hc
    · exact .inr (hg c hc)
    · exact (List.mem_append.mp hc).elim ht.tidy.mem ih

theorem allBlank_collapse (hg : AllBlank g) (after : Bool) : AllBlank (collapse after g) := by
  induction g generalizing after with
  | nil => exact hg
  | cons c g ih =>
    obtain ⟨hc, hg⟩ := List.forall_mem_cons.mp hg
    have blank : isBlank ' ' = true := by decide
    rw [collapse, if_pos hc]
    cases after
    · exact List.forall_mem_cons.mpr ⟨blank, ih hg true⟩
    · exact ih hg true

theorem collapse_blanks (hg : AllBlank g) (after : Bool) (s : Text) :
    ∃ g' after', AllBlank g' ∧ collapse after (g ++ s) = g' ++ collapse after' s := by
  induction g generalizing after with
  | nil => exact ⟨[], after, allBlank_nil, rfl⟩
  | cons c g ih =>
    obtain ⟨hc, hg⟩ := List.forall_mem_cons.mp hg
    have blank : isBlank ' ' = true := by decide
    obtain ⟨g', after', hg', same⟩ := ih hg true
    rw [List.cons_append, collapse, if_pos hc]
    cases after
    · exact ⟨' ' :: g', after', List.forall_mem_cons.mpr ⟨blank, hg'⟩, by simp [same]⟩
    · exact ⟨g', after', hg', by simpa using same⟩

theorem ScriptText.collapse (h : ScriptText ls s) (after : Bool) :
    ScriptText ls (collapse after s) := by
  induction h generalizing after with
  | nil hg => exact .nil (allBlank_collapse hg after)
  | @cons g l s ls r hg ht hr ih =>
    obtain ⟨g', after', hg', same⟩ := collapse_blanks hg after (s ++ r)
    rw [same, ht.tidy.collapse]
    exact .cons hg' ht (ih false)

theorem ScriptText.skipBlanks (h : ScriptText ls s) : ScriptText ls (skipBlanks s) := by
  cases h with
  | nil hg =>
    have none : Text.skipBlanks s = [] := by simpa using skipBlanks_append hg clear_nil
    exact none ▸ .nil allBlank_nil
  | @cons g l s ls r hg ht hr =>
    rw [skipBlanks_append hg (ht.tidy.clear r)]
    exact .cons allBlank_nil ht hr

theorem ScriptText.trimEnd (h : ScriptText ls s) : ScriptText ls (trimEnd isBlank s) := by
  induction h with
  | @nil g hg =>
    refine .nil fun c mem => ?_
    have kept : c ∈ g.reverse := (List.dropWhile_sublist _).subset (List.mem_reverse.mp mem)
    exact hg c (List.mem_reverse.mp kept)
  | @cons g l s ls r hg ht hr ih =>
    have solid : Text.trimEnd isBlank (s ++ r) ≠ [] := by
      rw [ht.tidy.trimEnd]
      simp [ht.tidy.ne_nil]
    rw [trimEnd_append _ _ _ solid, ht.tidy.trimEnd]
    exact .cons hg ht ih

/-- The normal form of printed tables is printed tables: only the blanks between them
may change. -/
theorem ScriptText.normalize (h : ScriptText ls s) : ScriptText ls (normalize s) := by
  rw [normalize_of_plain fun c mem => h.mem mem]
  exact (h.collapse false).skipBlanks.trimEnd

end SchemaChart
