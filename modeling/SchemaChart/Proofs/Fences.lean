import SchemaChart.Proofs.Layout
import SchemaChart.Proofs.Trimming
import SchemaChart.Vision.Fence

/-!
# Answers without fences

A fence is taken out where the text before it has ended, and a back quote that is kept has
fewer than two others behind it in the text, so nothing that is left can join up to a new
fence (`no_fence_dropFences`). A text without fences is left alone, up to the blanks at its
ends, and what stands between two fences comes out as it is (`answers_unfenced`).
-/

namespace SchemaChart

namespace Text

/-- The three back quotes that a fence begins with. -/
def fence : Text := ['\x60', '\x60', '\x60']

/-- The fence in front of a script: back quotes, perhaps the language, and blanks. -/
inductive FenceText : Text → Prop
  | mk : u = [] ∨ u.map Char.toLower = "sql" → AllBlank g → FenceText (fence ++ (u ++ g))

-- ---------------------------------------------------------------------------
-- One fence
-- ---------------------------------------------------------------------------

theorem after?_eq_none_iff : after? start s = none ↔ ¬start <+: s := by
  constructor
  · rintro none ⟨r, rfl⟩
    simp [after?_append] at none
  · intro other
    cases read : after? start s with
    | none => rfl
    | some r => exact absurd ⟨r, (eq_append_of_after? read).symm⟩ other

theorem afterFence?_eq_none_iff : afterFence? s = none ↔ ¬fence <+: s := by
  rw [afterFence?, Option.map_eq_none_iff]
  exact after?_eq_none_iff

theorem dropFences_cons (h : ¬fence <+: c :: s) : dropFences (c :: s) = c :: dropFences s := by
  rw [dropFences]
  split
  · next after read => simp [afterFence?_eq_none_iff.mpr h] at read
  · rfl

theorem dropFences_of_afterFence? (h : afterFence? s = some r) : dropFences s = dropFences r := by
  cases s with
  | nil => simp [afterFence?, after?] at h
  | cons c s =>
    rw [dropFences]
    split
    · next after read => rw [Option.some.inj (h.symm.trans read)]
    · next none => simp [h] at none

/-- The language of a fence is passed over, if there is one, and then spaces, tabs and one line
feed. -/
theorem afterFence?_append (hu : u = [] ∨ u.map Char.toLower = "sql")
    (hr : Clear isWord r) : afterFence? (fence ++ (u ++ r)) =
      some (skipLineFeed (r.dropWhile fun c => c = ' ' || c = '\t')) := by
  have opened : after? ['\x60', '\x60', '\x60'] (fence ++ (u ++ r)) = some (u ++ r) :=
    after?_append fence (u ++ r)
  have named : (keyword? "sql" (u ++ r)).getD (u ++ r) = r := by
    rcases hu with rfl | hu
    · have none : keyword? "sql" r = none := by
        cases r with
        | nil => rfl
        | cons c r =>
          have phrase : phrase? ["sql"] (c :: r) = none :=
            phrase?_of_head (by decide) (clear_cons.mp hr) r
          exact phrase
      rw [List.nil_append, none, Option.getD_none]
    · have read : keyword? "sql" (u ++ r) = some r :=
        keyword?_eq_some_iff.mpr ⟨u, map_foldLetter hu (by decide), rfl⟩
      rw [read, Option.getD_some]
  rw [afterFence?, opened, Option.map_some, named]

theorem subset_skipLineFeed (s : Text) : skipLineFeed s ⊆ s := by
  cases s with
  | nil => exact List.Subset.refl _
  | cons c s =>
    rw [skipLineFeed]
    split
    · exact List.subset_cons_self c s
    · exact List.Subset.refl _

/-- A fence in front of a line takes no more than blanks with it. -/
theorem FenceText.afterFence? (h : FenceText f) (t : Text) :
    ∃ g, AllBlank g ∧ afterFence? (f ++ '\n' :: t) = some (g ++ t) := by
  cases h with
  | @mk u g hu hg =>
    have feed : isBlank '\n' = true := by decide
    have rest := afterFence?_append hu
      (hg.clear_isWord (r := '\n' :: t) (clear_cons.mpr (isWord_of_isBlank feed)))
    rw [dropWhile_upTo g t (by decide)] at rest
    rw [List.append_assoc, List.append_assoc, rest]
    have blank : AllBlank (g.dropWhile fun c => c = ' ' || c = '\t') := fun c mem =>
      hg c ((List.dropWhile_sublist _).subset mem)
    generalize g.dropWhile (fun c => c = ' ' || c = '\t') = g at blank
    cases g with
    | nil => exact ⟨[], allBlank_nil, rfl⟩
    | cons c g =>
      obtain ⟨hc, hg⟩ := List.forall_mem_cons.mp blank
      by_cases line : c = '\n'
      · refine ⟨g ++ ['\n'], ?_, by simp [skipLineFeed, line]⟩
        exact List.forall_mem_append.mpr ⟨hg, by simpa using feed⟩
      · refine ⟨c :: g ++ ['\n'], ?_, by simp [skipLineFeed, line]⟩
        exact List.forall_mem_append.mpr ⟨blank, by simpa using feed⟩

theorem afterFence?_blanks (hw : AllBlank w) :
    ∃ g, AllBlank g ∧ Text.afterFence? (fence ++ w) = some g := by
  have rest := afterFence?_append (.inl rfl) (by simpa using hw.clear_isWord clear_nil)
  refine ⟨_, fun c mem => hw c ?_, rest⟩
  exact (List.dropWhile_sublist _).subset (subset_skipLineFeed _ mem)

-- ---------------------------------------------------------------------------
-- All fences
-- ---------------------------------------------------------------------------

theorem dropFences_plain (hg : '\x60' ∉ g) (r : Text) :
    dropFences (g ++ r) = g ++ dropFences r := by
  induction g with
  | nil => rfl
  | cons c g ih =>
    obtain ⟨hc, hg⟩ := List.ne_and_not_mem_of_not_mem_cons hg
    have other : ¬fence <+: c :: (g ++ r) := fun front => hc (List.cons_prefix_cons.mp front).1
    rw [List.cons_append, dropFences_cons other, ih hg]
    rfl

/-- No fence begins in a text without fences, if no back quote follows it. -/
theorem not_fence_prefix (h : ¬fence <:+: s) (hr : r.head? ≠ some '\x60') (hs : s ≠ []) :
    ¬fence <+: s ++ r := by
  rintro ⟨t, whole⟩
  match s, hs with
  | [_], _ =>
    obtain ⟨-, rfl⟩ := List.cons.inj whole
    exact hr rfl
  | [_, _], _ =>
    obtain ⟨-, rest⟩ := List.cons.inj whole
    obtain ⟨-, rfl⟩ := List.cons.inj rest
    exact hr rfl
  | a :: b :: c :: s, _ =>
    simp only [fence, List.cons_append, List.nil_append, List.cons.injEq] at whole
    obtain ⟨rfl, rfl, rfl, -⟩ := whole
    exact h (List.prefix_append fence s).isInfix

theorem dropFences_append (h : ¬fence <:+: s) (hr : r.head? ≠ some '\x60') :
    dropFences (s ++ r) = s ++ dropFences r := by
  induction s with
  | nil => rfl
  | cons c s ih =>
    have none := not_fence_prefix h hr (by simp)
    rw [List.cons_append] at none ⊢
    rw [dropFences_cons none, ih fun inner => h (List.infix_cons inner)]
    rfl

theorem dropFences_eq_self (h : ¬fence <:+: s) : dropFences s = s := by
  have whole := dropFences_append (r := []) h (by simp)
  rwa [dropFences, List.append_nil] at whole

/-- A back quote that is left in front was one in front, be it of a fence. -/
theorem head?_of_dropFences (h : (dropFences s).head? = some '\x60') : s.head? = some '\x60' := by
  cases s with
  | nil => simp [dropFences] at h
  | cons c s =>
    by_cases front : fence <+: c :: s
    · rw [← (List.cons_prefix_cons.mp front).1]
      rfl
    · rwa [dropFences_cons front] at h

/-- Two back quotes that are left in front stood there, or a fence did. -/
theorem prefix_of_dropFences (h : ['\x60', '\x60'] <+: dropFences s) :
    ['\x60', '\x60'] <+: s := by
  by_cases front : fence <+: s
  · exact (List.prefix_append ['\x60', '\x60'] ['\x60']).trans front
  · cases s with
    | nil => simp [dropFences] at h
    | cons c s =>
      rw [dropFences_cons front] at h
      obtain ⟨rfl, t, next⟩ := List.cons_prefix_cons.mp h
      have head : (dropFences s).head? = some '\x60' := by rw [← next]; rfl
      obtain ⟨s, rfl⟩ := List.head?_eq_some_iff.mp (head?_of_dropFences head)
      exact List.prefix_append ['\x60', '\x60'] s

theorem no_fence_dropFences (s : Text) : ¬fence <:+: dropFences s := by
  fun_induction dropFences s with
  | case1 => simp [fence]
  | case2 c rest after read ih => exact ih
  | case3 c rest none ih =>
    intro found
    rcases List.infix_cons_iff.mp found with front | inner
    · obtain ⟨rfl, behind⟩ := List.cons_prefix_cons.mp front
      have opens : fence <+: '\x60' :: rest :=
        List.cons_prefix_cons.mpr ⟨rfl, prefix_of_dropFences behind⟩
      exact afterFence?_eq_none_iff.mp none opens
    · exact ih inner

/-- What stands between two fences is left, with blanks around it. -/
theorem dropFences_fenced (hf : FenceText f) (hs : ¬fence <:+: s) (hw : AllBlank w) :
    ∃ g g', AllBlank g ∧ AllBlank g' ∧
      dropFences (f ++ '\n' :: (s ++ '\n' :: (fence ++ w))) = g ++ (s ++ g') := by
  obtain ⟨g, hg, opened⟩ := hf.afterFence? (s ++ '\n' :: (fence ++ w))
  obtain ⟨g', hg', closed⟩ := afterFence?_blanks hw
  have feed : ¬fence <+: '\n' :: (fence ++ w) := fun front => by
    simpa using (List.cons_prefix_cons.mp front).1
  have behind : dropFences g' = g' := by
    simpa [dropFences] using dropFences_plain (hg'.notMem (by decide)) []
  refine ⟨g, '\n' :: g', hg, List.forall_mem_cons.mpr ⟨by decide, hg'⟩, ?_⟩
  rw [dropFences_of_afterFence? opened, dropFences_plain (hg.notMem (by decide)),
    dropFences_append hs (by simp), dropFences_cons feed, dropFences_of_afterFence? closed, behind]

end Text

open Text

-- ---------------------------------------------------------------------------
-- Answers
-- ---------------------------------------------------------------------------

theorem cleanAnswer_string (s : Text) : cleanAnswer (.string s) = .ok (strip (dropFences s)) := by
  cases s with
  | nil => simp [cleanAnswer, Json.isPresent, dropFences, strip, trim, trimEnd]
  | cons c s => rfl

theorem cleanAnswer_eq_self (clean : strip s = s) (none : ¬fence <:+: s) :
    cleanAnswer (.string s) = .ok s := by
  rw [cleanAnswer_string, dropFences_eq_self none, clean]

/-- Whatever a model answers, its script has no fence and no blanks at its ends, and is left
alone if it is cleaned again. A script without them is left alone from the start, and it is
what remains of it between two fences on lines of their own. -/
theorem answers_unfenced :
    (∀ content : Text, ∃ script, cleanAnswer (.string content) = .ok script ∧
      ¬fence <:+: script ∧ Clear isBlank script ∧ Clear isBlank script.reverse ∧
      cleanAnswer (.string script) = .ok script) ∧
    ∀ s, strip s = s → ¬fence <:+: s → cleanAnswer (.string s) = .ok s ∧
      ∀ f w, FenceText f → AllBlank w →
        cleanAnswer (.string (f ++ '\n' :: (s ++ '\n' :: (fence ++ w)))) = .ok s := by
  constructor
  · intro content
    have none : ¬fence <:+: strip (dropFences content) := fun found =>
      no_fence_dropFences content (found.trans (isInfix_trim isBlank _))
    exact ⟨_, cleanAnswer_string content, none, clear_trim isBlank _, clear_reverse_trim isBlank _,
      cleanAnswer_eq_self (strip_strip _) none⟩
  · intro s clean none
    refine ⟨cleanAnswer_eq_self clean none, fun f w hf hw => ?_⟩
    obtain ⟨g, g', hg, hg', left⟩ := dropFences_fenced hf none hw
    rw [cleanAnswer_string, left, strip_padded hg clean hg']

/-- A script that begins and ends with two back quotes, in a fence with a tab. -/
theorem answers_unfenced_back_quotes :
    let s : Text := "\x60\x60t\x60\x60"
    let f : Text := "\x60\x60\x60SqL \t"
    let w : Text := "\n "
    (strip s = s ∧ ¬fence <:+: s ∧ FenceText f ∧ AllBlank w) ∧
      cleanAnswer (.string s) = .ok s ∧
      cleanAnswer (.string (f ++ '\n' :: (s ++ '\n' :: (fence ++ w)))) = .ok s := by
  intro s f w
  have clean : strip s = s := by decide
  have none : ¬fence <:+: s := by decide
  have blank : ∀ c ∈ w, isBlank c = true := by decide
  have opening : FenceText f := by
    have gap : ∀ c ∈ (" \t" : Text), isBlank c = true := by decide
    have written : f = fence ++ ("SqL" ++ " \t") := by decide
    rw [written]
    exact .mk (.inr (by decide)) gap
  obtain ⟨same, fenced⟩ := answers_unfenced.2 s clean none
  exact ⟨⟨clean, none, opening, blank⟩, same, fenced f w opening blank⟩

end SchemaChart
