import SchemaChart.Text.Blank

/-!
# Keywords

Keywords are read without regard to case. A character stands for the letter that
is its simple lower case, so the Kelvin sign is a `k` and a capital I with a dot is
an `i`; a dotless `i` and a long `s` count as their plain letters too. Keywords are
given in lower case, and a phrase is a row of keywords with blanks between them.
-/

namespace SchemaChart

/-- The letter a character stands for inside a keyword. -/
def foldLetter (c : Char) : Char :=
  if c = '\u0130' || c = '\u0131' then 'i'
  else if c = '\u017F' then 's'
  else if c = '\u212A' then 'k'
  else c.toLower

namespace Text

/-- What follows the keyword, if the text begins with it. -/
def keyword? : Text → Text → Option Text
  | [], s => some s
  | _ :: _, [] => none
  | k :: more, c :: s => if foldLetter c = k then keyword? more s else none

/-- What follows the keywords, if the text begins with them. -/
def phrase? : List Text → Text → Option Text
  | [], s => some s
  | [word], s => keyword? word s
  | word :: more, s => do
    let s ← keyword? word s
    let s ← blanks? s
    phrase? more s

theorem length_of_keyword? {word s rest : Text} (h : keyword? word s = some rest) :
    s.length = word.length + rest.length := by
  induction word generalizing s with
  | nil => cases Option.some.inj h; simp
  | cons k more ih =>
    cases s with
    | nil => simp [keyword?] at h
    | cons c s =>
      simp only [keyword?] at h
      split at h
      · rw [List.length_cons, ih h, List.length_cons]; omega
      · simp at h

theorem length_le_of_phrase? {words : List Text} {s rest : Text}
    (h : phrase? words s = some rest) : rest.length ≤ s.length := by
  fun_induction phrase? words s with
  | case1 s => cases Option.some.inj h; exact Nat.le_refl _
  | case2 s word => rw [length_of_keyword? h]; omega
  | case3 s word more notLast ih =>
    simp only [bind, Option.bind_eq_some_iff] at h
    obtain ⟨a, readWord, b, readGap, readMore⟩ := h
    have := length_of_keyword? readWord
    have := length_lt_of_blanks? readGap
    have := ih b readMore
    omega

end Text

end SchemaChart
