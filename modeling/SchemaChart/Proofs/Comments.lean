import SchemaChart.Proofs.Spacing

/-!
# A block comment counts as a space

`schema_read_block_comment`: a block comment behind text without comments can be replaced
by a space, if no two hyphens stand in the last line of the comment. Hyphens in its other
lines do no harm, and neither do openings of further comments.

Two hyphens in the last line begin a line comment, which goes first and takes the end of
the block comment with it (`normalize_hyphens_in_comment`).
-/

namespace SchemaChart

namespace Text

/-- What stands behind the last line feed; the whole text if there is none. -/
def lastLine (s : Text) : Text := (s.reverse.takeWhile (· ≠ '\n')).reverse

theorem lastLine_cases (s : Text) : s = lastLine s ∨ ∃ a, s = a ++ '\n' :: lastLine s := by
  rcases before_cases '\n' s.reverse with whole | ⟨t, cut⟩
  · have same := congrArg List.reverse whole
    rw [List.reverse_reverse] at same
    exact .inl same
  · have same := congrArg List.reverse cut
    rw [List.reverse_reverse, List.reverse_append, List.reverse_cons, List.append_assoc] at same
    exact .inr ⟨t.reverse, same⟩

-- ---------------------------------------------------------------------------
-- Line comments of a text that is cut in two
-- ---------------------------------------------------------------------------

/-- Line comments of a text go on their own if none is open at its end. -/
theorem dropLineComments_closed (closed : ¬['-', '-'] <:+: lastLine a)
    (hb : b.head? ≠ some '-') :
    dropLineComments false (a ++ b) = dropLineComments false a ++ dropLineComments false b := by
  have line : ∀ {b : Text}, b.head? ≠ some '-' →
      dropLineComments false (lastLine a ++ b) = lastLine a ++ dropLineComments false b :=
    fun hb => dropLineComments_append closed hb
  have alone := line (b := []) (by simp)
  rw [List.append_nil, dropLineComments, List.append_nil] at alone
  rcases lastLine_cases a with whole | ⟨lead, cut⟩
  · rw [whole, line hb, alone]
  · rw [cut, List.append_assoc, List.cons_append, dropLineComments_append_feed, line hb,
      dropLineComments_append_feed, alone, List.append_assoc, List.cons_append]

theorem head?_dropLineComments_inside (h : (dropLineComments true s).head? = some d) :
    d = '\n' := by
  induction s with
  | nil => simp [dropLineComments] at h
  | cons c s ih =>
    rw [dropLineComments, if_pos rfl] at h
    split at h
    · exact (Option.some.inj h).symm
    · exact ih h

theorem head?_of_dropLineComments (h : (dropLineComments false s).head? = some d)
    (hd : d ≠ '\n') : s.head? = some d := by
  cases s with
  | nil => exact h
  | cons c s =>
    by_cases opens : c = '-' ∧ s.head? = some '-'
    · rw [dropLineComments, if_neg (by simp), if_pos (by simpa using opens)] at h
      exact absurd (head?_dropLineComments_inside h) hd
    · rwa [dropLineComments_cons opens] at h

/-- Taking out line comments brings no star in front of a slash: the line feed stays. -/
theorem infix_of_dropLineComments (h : ['*', '/'] <:+: dropLineComments inside s) :
    ['*', '/'] <:+: s := by
  induction s generalizing inside with
  | nil => simp [dropLineComments] at h
  | cons c s ih =>
    rw [dropLineComments] at h
    split at h
    · split at h
      · rcases List.infix_cons_iff.mp h with front | inner
        · simp at front
        · exact List.infix_cons (ih inner)
      · exact List.infix_cons (ih h)
    · split at h
      · exact List.infix_cons (ih h)
      · rcases List.infix_cons_iff.mp h with front | inner
        · obtain ⟨rfl, next⟩ := List.cons_prefix_cons.mp front
          obtain ⟨rest, cut⟩ := next
          have slash := head?_of_dropLineComments (s := s) (by rw [← cut]; rfl) (by decide)
          obtain ⟨s, rfl⟩ := List.head?_eq_some_iff.mp slash
          exact (List.prefix_append ['*', '/'] s).isInfix
        · exact List.infix_cons (ih inner)

-- ---------------------------------------------------------------------------
-- Block comments behind plain text
-- ---------------------------------------------------------------------------

theorem dropBlockComments_append (plain : ¬['/', '*'] <:+: a) (hb : b.head? ≠ some '*') :
    dropBlockComments (a ++ b) = a ++ dropBlockComments b := by
  induction a with
  | nil => rfl
  | cons c a ih =>
    have other : ¬(c = '/' ∧ (a ++ b).head? = some '*') := by
      rintro ⟨rfl, front⟩
      cases a with
      | nil => exact hb front
      | cons d a =>
        cases Option.some.inj front
        exact plain (List.prefix_append ['/', '*'] a).isInfix
    rw [List.cons_append, dropBlockComments_cons other, ih fun mem => plain (List.infix_cons mem),
      List.cons_append]

/-- A comment that does not mention its end ends where it is closed. -/
theorem afterBlock?_shut (shut : ¬['*', '/'] <:+: c) (s : Text) :
    afterBlock? (c ++ '*' :: '/' :: s) = some s := by
  induction c with
  | nil => simp [afterBlock?]
  | cons d c ih =>
    have other : ¬(d = '*' ∧ (c ++ '*' :: '/' :: s).head? = some '/') := by
      rintro ⟨rfl, front⟩
      cases c with
      | nil => simp at front
      | cons e c =>
        cases Option.some.inj front
        exact shut (List.prefix_append ['*', '/'] c).isInfix
    rw [List.cons_append, afterBlock?_cons other, ih fun mem => shut (List.infix_cons mem)]

end Text

open Text

/-- Behind text without comments, a block comment is read as a space if its last line
does not have two hyphens. -/
theorem schema_read_block_comment (noLine : mentions "--" a = false)
    (noBlock : mentions "/*" a = false) (shut : mentions "*/" c = false)
    (closed : mentions "--" (lastLine c) = false) (b : Text) :
    normalize (a ++ "/*" ++ c ++ "*/" ++ b) = normalize (a ++ " " ++ b) ∧
      Schema.read (a ++ "/*" ++ c ++ "*/" ++ b) = Schema.read (a ++ " " ++ b) := by
  rw [Bool.eq_false_iff, Ne, mentions_iff] at noLine noBlock shut closed
  have marked : a ++ "/*" ++ c ++ "*/" ++ b = a ++ ('/' :: '*' :: (c ++ '*' :: '/' :: b)) := by
    simp
  have spaced : a ++ " " ++ b = a ++ ' ' :: b := by simp
  have remark : dropLineComments false ('/' :: '*' :: (c ++ '*' :: '/' :: b)) =
      '/' :: '*' :: (dropLineComments false c ++ '*' :: '/' :: dropLineComments false b) := by
    rw [dropLineComments_cons (by simp), dropLineComments_cons (by simp),
      dropLineComments_closed closed (by simp), dropLineComments_cons (by simp),
      dropLineComments_cons (by simp)]
  have inside : ¬['*', '/'] <:+: dropLineComments false c :=
    fun mem => shut (infix_of_dropLineComments mem)
  have ended := afterBlock?_shut inside (dropLineComments false b)
  have same : dropBlockComments (dropLineComments false (a ++ "/*" ++ c ++ "*/" ++ b)) =
      dropBlockComments (dropLineComments false (a ++ " " ++ b)) := by
    rw [marked, spaced, dropLineComments_append noLine (by simp),
      dropLineComments_append noLine (by simp), remark, dropLineComments_cons (by simp),
      dropBlockComments_append noBlock (by simp), dropBlockComments_append noBlock (by simp),
      dropBlockComments_closed ended, dropBlockComments_cons (by simp)]
  have normal : normalize (a ++ "/*" ++ c ++ "*/" ++ b) = normalize (a ++ " " ++ b) := by
    rw [normalize_eq_fields, normalize_eq_fields, same]
  refine ⟨normal, Schema.read_congr ?_ normal⟩
  rw [marked, spaced]
  cases a <;> rfl

/-- A comment of two lines with hyphens in the first one, an opening and a statement. -/
theorem schema_read_block_comment_lines :
    (Schema.read ("CREATE TABLE t (a INT, " ++ "/*" ++ " -- it\x27s a row\n/* CREATE TABLE u ( " ++
      "*/" ++ "b TEXT)")).schema =
      ⟨[⟨"t", [⟨"a", "INT", false, true, none⟩, ⟨"b", "TEXT", false, true, none⟩]⟩], []⟩ := by
  have spaced := (schema_read_block_comment (a := "CREATE TABLE t (a INT, ")
    (c := " -- it\x27s a row\n/* CREATE TABLE u ( ") (by decide) (by decide) (by decide)
    (by decide) "b TEXT)").2
  exact (congrArg SchemaReading.schema spaced).trans (by decide +kernel)

/-- Hyphens in the last line of a comment take its end away, and with it the table. -/
theorem normalize_hyphens_in_comment :
    mentions "--" "CREATE TABLE t (a INT, " = false ∧
      mentions "/*" "CREATE TABLE t (a INT, " = false ∧
      mentions "*/" " key -- of the row " = false ∧
      normalize ("CREATE TABLE t (a INT, " ++ "/*" ++ " key -- of the row " ++ "*/" ++ " b TEXT)") =
        "CREATE TABLE t (a INT, /* key" ∧
      normalize ("CREATE TABLE t (a INT, " ++ " " ++ " b TEXT)") =
        "CREATE TABLE t (a INT, b TEXT)" := by
  decide +kernel

end SchemaChart
