import SchemaChart.Proofs.Layout
import SchemaChart.Proofs.Normal
import SchemaChart.Text.Upper

/-!
# Keywords in capitals

The flags of a column are looked for in its clause written in capitals. Capitals make no
new spaces, so a phrase of two keywords can only be found where one word ends as the
first keyword does and the next one begins as the second (`infix_window`).
-/

namespace SchemaChart

open Text

-- ---------------------------------------------------------------------------
-- Capitals of keywords
-- ---------------------------------------------------------------------------

theorem toNat_lt_of_toLower {c : Char} (h : c.toLower.toNat < 0x80) : c.toNat < 0x80 := by
  rcases toLower_cases c with ⟨-, high, -⟩ | same
  · omega
  · rwa [same] at h

theorem Spelled.upper {words : List Text} {s : Text} (h : Spelled words s)
    (ascii : ∀ k ∈ joinWith [' '] words, k.toNat < 0x80) :
    upper s = (joinWith [' '] words).map Char.toUpper := by
  have letter : ∀ c ∈ s, upperChar c = [c.toLower.toUpper] := by
    intro c mem
    have small := toNat_lt_of_toLower (ascii _ (h ▸ List.mem_map_of_mem mem))
    rw [upperChar_of_lt small, Char.toUpper_toLower_eq_toUpper]
  rw [← h, Text.upper, List.flatMap_congr letter, List.map_map, List.map_eq_flatMap]
  rfl

-- ---------------------------------------------------------------------------
-- Capitals make no spaces
-- ---------------------------------------------------------------------------

theorem eq_of_ofNat_eq_space {n : Nat} (h : Char.ofNat n = ' ') : n = 0x20 := by
  by_cases valid : n.isValidChar
  · have point : Char.ofNat n = Char.ofNatAux n valid := dif_pos valid
    exact congrArg Char.toNat (point.symm.trans h)
  · have none : Char.ofNat n = '\x00' := dif_neg valid
    exact absurd (none.symm.trans h) (by decide)

theorem mapCase_ne_space {c : Char} (h : c ≠ ' ') : mapCase upperRuns c ≠ ' ' := by
  have images : (upperRuns.all fun run => (0x20).blt run.image) = true := by decide +kernel
  unfold mapCase
  split
  · next run found =>
    intro same
    have high := List.all_eq_true.mp images run (List.mem_of_find?_eq_some found)
    rw [Nat.blt_eq] at high
    have code := eq_of_ofNat_eq_space same
    rw [CaseRun.apply] at code
    omega
  · exact h

theorem space_notMem_upperChar {c : Char} (h : c ≠ ' ') : ' ' ∉ upperChar c := by
  have spellings : (upperSpellings.all fun row => !row.2.contains 0x20) = true := by decide +kernel
  unfold upperChar
  split
  · next small =>
    have all : ∀ n < 0x80, (Char.ofNat n).toUpper = ' ' → Char.ofNat n = ' ' := by decide
    intro mem
    have image : (Char.ofNat c.toNat).toUpper = ' ' := by
      simpa using (List.mem_singleton.mp mem).symm
    exact h (by simpa using all c.toNat small image)
  · split
    · next spelling found =>
      intro mem
      obtain ⟨n, inside, same⟩ := List.mem_map.mp mem
      obtain ⟨front, back, cut, -⟩ := List.lookup_eq_some_iff.mp found
      have none := List.all_eq_true.mp spellings (c.toNat, spelling) (by simp [cut])
      rw [eq_of_ofNat_eq_space same] at inside
      simp [inside] at none
    · simpa using (mapCase_ne_space h).symm

theorem space_notMem_upper (h : ' ' ∉ s) : ' ' ∉ Text.upper s := by
  intro mem
  obtain ⟨c, inside, image⟩ := List.mem_flatMap.mp mem
  exact space_notMem_upperChar (fun same => h (same ▸ inside)) image

theorem upper_cons_space (s : Text) : Text.upper (' ' :: s) = ' ' :: Text.upper s := rfl

theorem upper_space (a b : Text) :
    Text.upper (a ++ ' ' :: b) = Text.upper a ++ ' ' :: Text.upper b := by
  rw [Text.upper_append, upper_cons_space]

/-- Where a pair of letters stands on both sides of a space: around the first space of
the text or behind it. -/
theorem infix_window (ha : a ≠ ' ') (hu : ' ' ∉ u) (h : [a, ' ', b] <:+: u ++ ' ' :: v) :
    u.getLast? = some a ∧ v.head? = some b ∨ [a, ' ', b] <:+: v := by
  induction u with
  | nil =>
    rcases List.infix_cons_iff.mp h with front | inner
    · exact absurd (List.cons_prefix_cons.mp front).1 ha
    · exact .inr inner
  | cons c u ih =>
    have inside : ' ' ∉ u := fun mem => hu (List.mem_cons_of_mem _ mem)
    rcases List.infix_cons_iff.mp h with front | inner
    · obtain ⟨rfl, rest⟩ := List.cons_prefix_cons.mp front
      cases u with
      | nil =>
        have next := (List.cons_prefix_cons.mp rest).2
        cases v with
        | nil => simp at next
        | cons d v => exact .inl ⟨rfl, by rw [(List.cons_prefix_cons.mp next).1]; rfl⟩
      | cons d u =>
        have space : ' ' = d := (List.cons_prefix_cons.mp rest).1
        simp [← space] at hu
    · rcases ih inside inner with ⟨last, first⟩ | behind
      · refine .inl ⟨?_, first⟩
        cases u with
        | nil => simp at last
        | cons d u => simpa using last
      · exact .inr behind

theorem not_infix_window (hu : ' ' ∉ u) : ¬[a, ' ', b] <:+: u :=
  fun h => hu (h.subset (by simp))

end SchemaChart
