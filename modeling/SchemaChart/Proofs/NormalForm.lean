import SchemaChart.Proofs.Comments
import SchemaChart.Proofs.QuotedNames
import SchemaChart.Proofs.RelationNames

/-!
# The normal form is reached

What normalizing leaves has no comments, no typographic double quotes, single spaces inside
and no blanks at its ends (`NormalForm`). Each step keeps what the steps before it have
reached: a block comment leaves a space, so nothing that it kept apart comes together, and
collapsing blanks brings no two other characters together.

A text in normal form is its own normal form, so a script may be normalized beforehand
(`normalize_reached`).
-/

namespace SchemaChart

namespace Text

/-- A block comment is opened, and an end of it stands somewhere behind the opening. -/
def HasBlockComment (s : Text) : Prop := ∃ t, '/' :: '*' :: t <:+ s ∧ ['*', '/'] <:+: t

structure NormalForm (s : Text) : Prop where
  straight : '\u201C' ∉ s ∧ '\u201D' ∉ s
  no_line_comment : ¬['-', '-'] <:+: s
  no_block_comment : ¬HasBlockComment s
  spaces : ∀ c ∈ s, isBlank c = true → c = ' '
  single : ¬[' ', ' '] <:+: s
  front : s.head? ≠ some ' '
  back : s.getLast? ≠ some ' '

-- ---------------------------------------------------------------------------
-- Line comments
-- ---------------------------------------------------------------------------

/-- A comment is cut off up to a line feed, so no hyphen comes behind another one. -/
theorem no_dashes_dropLineComments (inside : Bool) (s : Text) :
    ¬['-', '-'] <:+: dropLineComments inside s := by
  induction s generalizing inside with
  | nil => simp [dropLineComments]
  | cons c s ih =>
    cases inside with
    | true =>
      by_cases feed : c = '\n'
      · rw [feed, dropLineComments_feed]
        intro h
        rcases List.infix_cons_iff.mp h with front | inner
        · simp at front
        · exact ih false inner
      · rw [dropLineComments_skip feed]
        exact ih true
    | false =>
      by_cases opens : c = '-' ∧ s.head? = some '-'
      · rw [opens.1, dropLineComments_dashes opens.2]
        exact ih true
      · rw [dropLineComments_cons opens]
        intro h
        rcases List.infix_cons_iff.mp h with front | inner
        · obtain ⟨rfl, t, next⟩ := List.cons_prefix_cons.mp front
          have head : (dropLineComments false s).head? = some '-' := by rw [← next]; rfl
          exact opens ⟨rfl, head?_of_dropLineComments head (by decide)⟩
        · exact ih false inner

theorem dropLineComments_of_no_dashes (h : ¬['-', '-'] <:+: s) : dropLineComments false s = s := by
  have whole := dropLineComments_append h (b := []) (by simp)
  rwa [dropLineComments, List.append_nil] at whole

-- ---------------------------------------------------------------------------
-- Block comments
-- ---------------------------------------------------------------------------

theorem hasBlockComment_cons : HasBlockComment (c :: s) ↔
    (∃ t, c = '/' ∧ s = '*' :: t ∧ ['*', '/'] <:+: t) ∨ HasBlockComment s := by
  constructor
  · rintro ⟨t, opening, ending⟩
    rcases List.suffix_cons_iff.mp opening with here | later
    · cases here
      exact .inl ⟨t, rfl, rfl, ending⟩
    · exact .inr ⟨t, later, ending⟩
  · rintro (⟨t, rfl, rfl, ending⟩ | ⟨t, opening, ending⟩)
    · exact ⟨t, List.suffix_rfl, ending⟩
    · exact ⟨t, opening.trans (List.suffix_cons c s), ending⟩

theorem HasBlockComment.of_infix (h : HasBlockComment s) (hs : s <:+: r) : HasBlockComment r := by
  obtain ⟨t, ⟨a, rfl⟩, ending⟩ := h
  obtain ⟨x, y, rfl⟩ := hs
  exact ⟨t ++ y, ⟨x ++ a, by simp⟩, ending.trans (List.prefix_append t y).isInfix⟩

theorem afterBlock?_eq_none_iff : afterBlock? s = none ↔ ¬['*', '/'] <:+: s := by
  induction s with
  | nil => simp [afterBlock?]
  | cons c s ih =>
    by_cases ends : c = '*' ∧ s.head? = some '/'
    · obtain ⟨rfl, slash⟩ := ends
      obtain ⟨s, rfl⟩ := List.head?_eq_some_iff.mp slash
      have here : ['*', '/'] <:+: '*' :: '/' :: s := (List.prefix_append ['*', '/'] s).isInfix
      simp [afterBlock?, here]
    · rw [afterBlock?_cons ends, ih, List.infix_cons_iff]
      refine not_congr ⟨.inr, ?_⟩
      rintro (front | inner)
      · obtain ⟨rfl, t, next⟩ := List.cons_prefix_cons.mp front
        exact absurd ⟨rfl, by rw [← next]; rfl⟩ ends
      · exact inner

theorem suffix_of_afterBlock? (h : afterBlock? s = some r) : r <:+ s := by
  induction s with
  | nil => simp [afterBlock?] at h
  | cons c s ih =>
    rw [afterBlock?] at h
    split at h
    · cases Option.some.inj h
      exact (List.drop_suffix 1 s).trans (List.suffix_cons c s)
    · exact (ih h).trans (List.suffix_cons c s)

/-- The first character stays, unless a comment begins there and leaves a space. -/
theorem head?_of_dropBlockComments (h : (dropBlockComments s).head? = some d) (hd : d ≠ ' ') :
    s.head? = some d := by
  fun_induction dropBlockComments s with
  | case1 => exact absurd (Option.some.inj h).symm hd
  | case2 => exact h
  | case3 => exact h
  | case4 => exact h

theorem infix_of_dropBlockComments (h : ['-', '-'] <:+: dropBlockComments s) :
    ['-', '-'] <:+: s := by
  fun_induction dropBlockComments s with
  | case1 rest after closed ih =>
    rcases List.infix_cons_iff.mp h with front | inner
    · simp at front
    · have behind := (ih inner).trans (suffix_of_afterBlock? closed).isInfix
      exact List.infix_cons (List.infix_cons behind)
  | case2 => exact h
  | case3 c rest other ih =>
    rcases List.infix_cons_iff.mp h with front | inner
    · obtain ⟨rfl, t, next⟩ := List.cons_prefix_cons.mp front
      have head : (dropBlockComments rest).head? = some '-' := by rw [← next]; rfl
      obtain ⟨rest, rfl⟩ := List.head?_eq_some_iff.mp
        (head?_of_dropBlockComments head (by decide))
      exact (List.prefix_append ['-', '-'] rest).isInfix
    · exact List.infix_cons (ih inner)
  | case4 => exact h

/-- Once an opening is not closed, no later one is. -/
theorem no_block_dropBlockComments (s : Text) : ¬HasBlockComment (dropBlockComments s) := by
  fun_induction dropBlockComments s with
  | case1 rest after closed ih =>
    rw [hasBlockComment_cons]
    rintro (⟨t, slash, -⟩ | inner)
    · simp at slash
    · exact ih inner
  | case2 rest opened =>
    have none := afterBlock?_eq_none_iff.mp opened
    rw [hasBlockComment_cons, hasBlockComment_cons]
    rintro (⟨t, -, star, ending⟩ | ⟨t, slash, -⟩ | ⟨t, opening, ending⟩)
    · cases star
      exact none ending
    · simp at slash
    · have inside := (List.suffix_cons '*' t).trans (List.suffix_cons '/' ('*' :: t))
      exact none (ending.trans (inside.trans opening).isInfix)
  | case3 c rest other ih =>
    rw [hasBlockComment_cons]
    rintro (⟨t, rfl, star, -⟩ | inner)
    · have head : (dropBlockComments rest).head? = some '*' := by rw [star]; rfl
      obtain ⟨rest, rfl⟩ := List.head?_eq_some_iff.mp
        (head?_of_dropBlockComments head (by decide))
      exact other rest rfl rfl
    · exact ih inner
  | case4 =>
    rintro ⟨t, opening, -⟩
    simp at opening

theorem dropBlockComments_of_no_block (h : ¬HasBlockComment s) : dropBlockComments s = s := by
  fun_induction dropBlockComments s with
  | case1 rest after closed ih =>
    refine absurd ⟨rest, List.suffix_rfl, ?_⟩ h
    by_contra none
    rw [afterBlock?_eq_none_iff.mpr none] at closed
    simp at closed
  | case2 => rfl
  | case3 c rest other ih => rw [ih fun inner => h (hasBlockComment_cons.mpr (.inr inner))]
  | case4 => rfl

-- ---------------------------------------------------------------------------
-- Collapsed blanks
-- ---------------------------------------------------------------------------

theorem mem_of_mem_collapse (h : c ∈ collapse after s) : c = ' ' ∨ c ∈ s := by
  induction s generalizing after with
  | nil => exact .inr h
  | cons d s ih =>
    have behind : ∀ {after}, c ∈ collapse after s → c = ' ' ∨ c ∈ d :: s := fun mem =>
      (ih mem).imp_right (List.mem_cons_of_mem d)
    rw [collapse] at h
    split at h
    · split at h
      · exact behind h
      · exact (List.mem_cons.mp h).elim .inl behind
    · rcases List.mem_cons.mp h with rfl | h
      · exact .inr List.mem_cons_self
      · exact behind h

theorem prefix_of_collapse (h : w <+: collapse false s) (hw : ∀ c ∈ w, isBlank c = false) :
    w <+: s := by
  induction w generalizing s with
  | nil => exact List.nil_prefix
  | cons c w ih =>
    obtain ⟨hc, hw⟩ := List.forall_mem_cons.mp hw
    cases s with
    | nil => exact h
    | cons d s =>
      rw [collapse] at h
      split at h
      · obtain ⟨rfl, -⟩ := List.cons_prefix_cons.mp h
        simp [isBlank] at hc
      · obtain ⟨rfl, rest⟩ := List.cons_prefix_cons.mp h
        exact List.cons_prefix_cons.mpr ⟨rfl, ih rest hw⟩

/-- Collapsing brings no characters together other than blanks. -/
theorem infix_of_collapse (h : w <:+: collapse after s) (hw : ∀ c ∈ w, isBlank c = false) :
    w <:+: s := by
  induction s generalizing after with
  | nil => exact h
  | cons d s ih =>
    by_cases hd : isBlank d = true
    · rw [collapse, if_pos hd] at h
      cases after with
      | true => exact List.infix_cons (ih h)
      | false =>
        rcases List.infix_cons_iff.mp h with front | inner
        · cases w with
          | nil => exact List.nil_infix
          | cons c w =>
            obtain ⟨rfl, -⟩ := List.cons_prefix_cons.mp front
            simp [isBlank] at hw
        · exact List.infix_cons (ih inner)
    · rw [collapse, if_neg hd] at h
      rcases List.infix_cons_iff.mp h with front | inner
      · have start : w <+: collapse false (d :: s) := by rwa [collapse, if_neg hd]
        exact (prefix_of_collapse start hw).isInfix
      · exact List.infix_cons (ih inner)

theorem hasBlockComment_of_collapse (h : HasBlockComment (collapse after s)) :
    HasBlockComment s := by
  induction s generalizing after with
  | nil => exact h
  | cons d s ih =>
    rw [collapse] at h
    split at h
    · split at h
      · exact hasBlockComment_cons.mpr (.inr (ih h))
      · rcases hasBlockComment_cons.mp h with ⟨t, slash, -⟩ | inner
        · simp at slash
        · exact hasBlockComment_cons.mpr (.inr (ih inner))
    · rcases hasBlockComment_cons.mp h with ⟨t, rfl, star, ending⟩ | inner
      · have start : ['*'] <+: collapse false s := by rw [star]; exact List.prefix_append ['*'] t
        obtain ⟨r, rfl⟩ := prefix_of_collapse start (by decide)
        have behind : collapse false r = t := by
          simpa [collapse, isBlank] using star
        exact ⟨r, List.suffix_rfl, infix_of_collapse (behind ▸ ending) (by decide)⟩
      · exact hasBlockComment_cons.mpr (.inr (ih inner))

theorem clear_collapse (s : Text) : Clear isBlank (collapse true s) := by
  rw [← dropWhile_collapse true s]
  exact clear_dropWhile isBlank _

theorem single_collapse (after : Bool) (s : Text) : ¬[' ', ' '] <:+: collapse after s := by
  induction s generalizing after with
  | nil => simp [collapse]
  | cons c s ih =>
    rw [collapse]
    split
    · cases after with
      | true => exact ih true
      | false =>
        intro h
        rcases List.infix_cons_iff.mp h with front | inner
        · obtain ⟨-, t, next⟩ := List.cons_prefix_cons.mp front
          have clear := clear_collapse s
          rw [← next] at clear
          simp [isBlank] at clear
        · exact ih true inner
    · next letter =>
      intro h
      rcases List.infix_cons_iff.mp h with front | inner
      · obtain ⟨rfl, -⟩ := List.cons_prefix_cons.mp front
        exact letter (by decide)
      · exact ih false inner

theorem collapse_of_single (spaces : ∀ c ∈ s, isBlank c = true → c = ' ')
    (single : ¬[' ', ' '] <:+: s) (front : after = true → s.head? ≠ some ' ') :
    collapse after s = s := by
  induction s generalizing after with
  | nil => rfl
  | cons c s ih =>
    obtain ⟨hc, hs⟩ := List.forall_mem_cons.mp spaces
    have rest : ∀ after, (after = true → s.head? ≠ some ' ') → collapse after s = s :=
      fun after front => ih hs (fun inner => single (List.infix_cons inner)) front
    rw [collapse]
    split
    · next blank =>
      obtain rfl := hc blank
      have next : s.head? ≠ some ' ' := by
        intro head
        obtain ⟨s, rfl⟩ := List.head?_eq_some_iff.mp head
        exact single (List.prefix_append [' ', ' '] s).isInfix
      cases after with
      | true => exact absurd rfl (front rfl)
      | false => rw [if_neg (by simp), rest true fun _ => next]
    · rw [rest false (by simp)]

-- ---------------------------------------------------------------------------
-- Normal texts
-- ---------------------------------------------------------------------------

theorem straighten_straight (c : Char) : straighten c ≠ '\u201C' ∧ straighten c ≠ '\u201D' := by
  rcases straighten_cases c with same | ⟨same, -⟩
  · constructor
    all_goals
      intro curly
      rw [same] at curly
      subst curly
      exact absurd same (by decide)
  · rw [same]
    decide

theorem normalize_normalForm (s : Text) : NormalForm (normalize s) := by
  have inner : normalize s <:+: collapse false
      (dropBlockComments (dropLineComments false (s.map straighten))) := isInfix_trim isBlank _
  have straight : ∀ c ∈ normalize s, c ≠ '\u201C' ∧ c ≠ '\u201D' := by
    intro c mem
    rw [dropLineComments_map_straighten, dropBlockComments_map_straighten] at inner
    rcases mem_of_mem_collapse (inner.subset mem) with rfl | mem
    · decide
    · obtain ⟨d, -, rfl⟩ := List.mem_map.mp mem
      exact straighten_straight d
  refine ⟨⟨fun mem => (straight _ mem).1 rfl, fun mem => (straight _ mem).2 rfl⟩, ?_, ?_, ?_, ?_,
    ?_, ?_⟩
  · intro dashes
    have kept := infix_of_collapse (dashes.trans inner) (by decide)
    exact no_dashes_dropLineComments _ _ (infix_of_dropBlockComments kept)
  · intro comment
    exact no_block_dropBlockComments _ (hasBlockComment_of_collapse (comment.of_infix inner))
  · intro c mem blank
    rcases mem_collapse (inner.subset mem) with space | letter
    · exact space
    · simp [blank] at letter
  · exact fun spaces => single_collapse _ _ (spaces.trans inner)
  · exact fun head => absurd (clear_trim isBlank _ ' ' head) (by decide)
  · intro last
    rw [← List.head?_reverse] at last
    exact absurd (clear_reverse_trim isBlank _ ' ' last) (by decide)

theorem NormalForm.normalize_eq (h : NormalForm s) : normalize s = s := by
  have straight : s.map straighten = s := by
    have kept : ∀ c ∈ s, straighten c = c := by
      intro c mem
      rcases straighten_cases c with same | ⟨-, rfl | rfl⟩
      · exact same
      · exact absurd mem h.straight.1
      · exact absurd mem h.straight.2
    rw [List.map_congr_left kept, List.map_id']
  have front : Clear isBlank s := by
    intro c mem
    by_contra blank
    have space := h.spaces c (List.mem_of_mem_head? mem) (by simpa using blank)
    exact h.front (space ▸ mem)
  have back : Clear isBlank s.reverse := by
    intro c mem
    by_contra blank
    have inside := List.mem_reverse.mp (List.mem_of_mem_head? mem)
    have space := h.spaces c inside (by simpa using blank)
    rw [List.head?_reverse] at mem
    exact h.back (space ▸ mem)
  rw [normalize, straight, dropLineComments_of_no_dashes h.no_line_comment,
    dropBlockComments_of_no_block h.no_block_comment,
    collapse_of_single h.spaces h.single (by simp)]
  exact trim_of_clear front back

end Text

open Text

theorem Schema.schema_read_normalize (s : Text) :
    (Schema.read (normalize s)).schema = (Schema.read s).schema := by
  rw [schema_read, schema_read s, (normalize_normalForm s).normalize_eq]

/-- Whatever the script, its normal form has no comments and no typographic double quotes,
and its only blanks are single spaces between other characters. It is its own normal form,
and read as the script is. -/
theorem normalize_reached (s : Text) :
    NormalForm (normalize s) ∧ normalize (normalize s) = normalize s ∧
      (Schema.read (normalize s)).schema = (Schema.read s).schema :=
  have normal := normalize_normalForm s
  ⟨normal, normal.normalize_eq, Schema.schema_read_normalize s⟩

/-- Openings of comments that overlap an end, stand inside a comment or are never closed. -/
example : normalize "/*/ - -/*\t/* */- \u201D/*\u3000" = "- \x22/*" := by decide +kernel

end SchemaChart
