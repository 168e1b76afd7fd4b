import Mathlib
import SchemaChart.Script.Name
import SchemaChart.Script.Phrase
import SchemaChart.Script.Scan

/-!
# Classes of characters

Word characters, blanks and the marks around names are kept apart, and a character
that stands for the letter of a keyword is a word character. Every reader of a script
rests on these facts: where one part of a header or a clause ends, the first character
of the next part cannot belong to it.
-/

namespace SchemaChart

/-- A character that a name may be written with: its own ones and the marks. -/
def isNameChar (c : Char) : Bool := isWord c || isNameMark c

/-- The blanks beyond ASCII. -/
def blankRanges : List (Nat × Nat) :=
  [(0x85, 0x85), (0xA0, 0xA0), (0x1680, 0x1680), (0x2000, 0x200A), (0x2028, 0x2029),
    (0x202F, 0x202F), (0x205F, 0x205F), (0x3000, 0x3000)]

theorem wordRanges_apart :
    (wordRanges.all fun word => blankRanges.all fun blank =>
      blank.2.blt word.1 || word.2.blt blank.1) = true := by
  decide +kernel

theorem isWord_of_isBlank (h : isBlank c = true) : isWord c = false := by
  simp only [isBlank, Bool.or_eq_true, Bool.and_eq_true, decide_eq_true_eq] at h
  by_cases small : c.toNat < 0x80
  · have ascii : c.toNat ∈ [9, 10, 11, 12, 13, 28, 29, 30, 31, 32] := by
      simp only [List.mem_cons, List.not_mem_nil, or_false]
      omega
    have none : ∀ n ∈ [9, 10, 11, 12, 13, 28, 29, 30, 31, 32], isWord (Char.ofNat n) = false := by
      decide
    simpa using none _ ascii
  · rw [isWord, if_neg small, Bool.eq_false_iff]
    intro word
    obtain ⟨range, mem, low, high⟩ := inRanges_iff.mp word
    have apart := List.all_eq_true.mp wordRanges_apart range mem
    simp only [blankRanges, List.all_cons, List.all_nil, Bool.and_true, Bool.and_eq_true,
      Bool.or_eq_true, Nat.blt_eq] at apart
    omega

theorem isBlank_of_isWord (h : isWord c = true) : isBlank c = false := by
  rw [Bool.eq_false_iff]
  intro blank
  simp [isWord_of_isBlank blank] at h

theorem isWord_of_isNameMark (h : isNameMark c = true) : isWord c = false := by
  simp only [isNameMark, Bool.or_eq_true, decide_eq_true_eq] at h
  rcases h with (((rfl | rfl) | rfl) | rfl) | rfl <;> decide +kernel

theorem isNameMark_of_isWord (h : isWord c = true) : isNameMark c = false := by
  rw [Bool.eq_false_iff]
  intro mark
  simp [isWord_of_isNameMark mark] at h

theorem isBlank_of_isNameMark (h : isNameMark c = true) : isBlank c = false := by
  simp only [isNameMark, Bool.or_eq_true, decide_eq_true_eq] at h
  rcases h with (((rfl | rfl) | rfl) | rfl) | rfl <;> decide

theorem isBlank_of_isNameChar (h : isNameChar c = true) : isBlank c = false := by
  rcases Bool.or_eq_true _ _ ▸ h with word | mark
  · exact isBlank_of_isWord word
  · exact isBlank_of_isNameMark mark

theorem isNameChar_of_isBlank (h : isBlank c = true) : isNameChar c = false := by
  rw [Bool.eq_false_iff]
  intro part
  simp [isBlank_of_isNameChar part] at h

theorem isNameMark_of_isQuote (h : isQuote c = true) : isNameMark c = true := by
  simp only [isQuote, Bool.or_eq_true, decide_eq_true_eq] at h
  rcases h with (rfl | rfl) | rfl <;> decide

theorem ne_of_isWord (word : isWord c = true) (other : isWord d = false) : c ≠ d := by
  rintro rfl
  simp [word] at other

/-- The small letter of a capital stands 0x20 behind it, and no other character changes. -/
theorem toLower_cases (c : Char) :
    0x41 ≤ c.toNat ∧ c.toNat ≤ 0x5A ∧ c.toLower.toNat = c.toNat + 0x20 ∨ c.toLower = c := by
  by_cases upper : c.isUpper = true
  · have range : 'A'.val ≤ c.val ∧ c.val ≤ 'Z'.val := of_decide_eq_true upper
    have low : 0x41 ≤ c.toNat := UInt32.le_iff_toNat_le.mp range.1
    have high : c.toNat ≤ 0x5A := UInt32.le_iff_toNat_le.mp range.2
    have valid : (c.toNat + 32).isValidChar := by
      simp only [Nat.isValidChar]
      omega
    refine .inl ⟨low, high, ?_⟩
    rw [Char.toLower_eq_of_isUpper upper, Char.toNat_ofNat, if_pos valid]
  · exact .inr (Char.toLower_eq_of_not_isUpper upper)

theorem isWord_of_foldLetter (h : (foldLetter c).isLower = true) : isWord c = true := by
  unfold foldLetter at h
  split at h
  · next dotted =>
    simp only [Bool.or_eq_true, decide_eq_true_eq] at dotted
    rcases dotted with rfl | rfl <;> decide +kernel
  · split at h
    · next long => subst long; decide +kernel
    · split at h
      · next kelvin => subst kelvin; decide +kernel
      · rw [Char.isLower_toLower_eq_isAlpha] at h
        exact Text.isWord_of_isAlphanum (Bool.or_eq_true_iff.mpr (.inl h))

end SchemaChart
