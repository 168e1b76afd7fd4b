import SchemaChart.Text.Blank

/-!
# Normal form of a script

Before statements are looked for, typographic double quotes become plain ones,
comments are taken out and every run of blanks becomes one space. A line comment
runs from two hyphens up to the line feed, which stays. A block comment counts as a
space; one that is never closed is plain text. Line comments go first, so the end
of a block comment that stands in a line comment is lost with it.
-/

namespace SchemaChart

def straighten (c : Char) : Char := if c = '\u201C' || c = '\u201D' then '\x22' else c

namespace Text

/-- Takes out line comments; `inside` tells whether one is open. -/
def dropLineComments (inside : Bool) : Text → Text
  | [] => []
  | c :: rest =>
    if inside then
      if c = '\n' then '\n' :: dropLineComments false rest else dropLineComments true rest
    else if c = '-' && rest.head? = some '-' then dropLineComments true rest
    else c :: dropLineComments false rest

/-- What follows the first end of a block comment. -/
def afterBlock? : Text → Option Text
  | [] => none
  | c :: rest =>
    if c = '*' && rest.head? = some '/' then some (rest.drop 1) else afterBlock? rest

theorem length_lt_of_afterBlock? {s rest : Text} (h : afterBlock? s = some rest) :
    rest.length < s.length := by
  induction s with
  | nil => simp [afterBlock?] at h
  | cons c s ih =>
    simp only [afterBlock?] at h
    split at h
    · cases Option.some.inj h
      simp only [List.length_drop, List.length_cons]
      omega
    · exact Nat.lt_succ_of_lt (ih h)

/-- Writes a space for every closed block comment. -/
def dropBlockComments : Text → Text
  | '/' :: '*' :: rest =>
    match _h : afterBlock? rest with
    | some after => ' ' :: dropBlockComments after
    | none => '/' :: '*' :: rest
  | c :: rest => c :: dropBlockComments rest
  | [] => []
termination_by s => s.length
decreasing_by
  · have := length_lt_of_afterBlock? _h
    simp only [List.length_cons]
    omega
  · simp

/-- The text in which statements are looked for. -/
def normalize (script : Text) : Text :=
  strip (collapse false (dropBlockComments (dropLineComments false (script.map straighten))))

end Text

end SchemaChart
