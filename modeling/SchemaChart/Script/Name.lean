import SchemaChart.Text.Blank
import SchemaChart.Text.Word

/-!
# Names

A name is a word that may have a quotation mark on either side. The two marks need
not match, and either may be missing; the name itself is the word between them. A
qualified name has a second name in front, set off by a point.
-/

namespace SchemaChart

/-- The marks a name may stand between: back quote, double quote, apostrophe and
the two typographic single quotes. -/
def isNameMark (c : Char) : Bool :=
  c = '\x60' || c = '\x22' || c = '\x27' || c = '\u2018' || c = '\u2019'

namespace Text

def skipMark : Text → Text
  | [] => []
  | c :: rest => if isNameMark c then rest else c :: rest

/-- Reads a name and the marks around it. -/
def name? (s : Text) : Option (Text × Text) :=
  (word? (skipMark s)).map fun read => (read.1, skipMark read.2)

/-- Reads a name with or without a qualifier and gives the name alone. -/
def qualifiedName? (s : Text) : Option (Text × Text) := do
  let (name, rest) ← name? s
  match skipBlanks rest with
  | '.' :: inner => name? (skipBlanks inner)
  | _ => some (name, rest)

/-- Skips blanks and then the given character. -/
def mark? (mark : Char) (s : Text) : Option Text :=
  match skipBlanks s with
  | [] => none
  | c :: rest => if c = mark then some rest else none

theorem length_skipMark_le (s : Text) : (skipMark s).length ≤ s.length := by
  cases s with
  | nil => simp [skipMark]
  | cons c rest => simp only [skipMark]; split <;> simp

theorem length_lt_of_name? {s name rest : Text} (h : name? s = some (name, rest)) :
    rest.length < s.length := by
  obtain ⟨⟨word, after⟩, read, same⟩ := Option.map_eq_some_iff.1 h
  simp only [Prod.mk.injEq] at same
  have := length_lt_of_word? read
  have := length_skipMark_le s
  have := length_skipMark_le after
  rw [← same.2]
  omega

theorem length_lt_of_qualifiedName? {s name rest : Text}
    (h : qualifiedName? s = some (name, rest)) : rest.length < s.length := by
  simp only [qualifiedName?, bind, Option.bind_eq_some_iff] at h
  obtain ⟨⟨first, after⟩, readFirst, h⟩ := h
  have shorter := length_lt_of_name? readFirst
  simp only at h
  split at h
  · next inner dotted =>
    have := length_lt_of_name? h
    have := length_skipBlanks_le inner
    have := length_skipBlanks_le after
    rw [dotted, List.length_cons] at this
    omega
  · cases Option.some.inj h
    exact shorter

theorem length_lt_of_mark? {mark : Char} {s rest : Text} (h : mark? mark s = some rest) :
    rest.length < s.length := by
  have := length_skipBlanks_le s
  unfold mark? at h
  split at h
  · simp at h
  · next c after skipped =>
    split at h
    · cases Option.some.inj h
      rw [skipped, List.length_cons] at this
      omega
    · simp at h

end Text

end SchemaChart
