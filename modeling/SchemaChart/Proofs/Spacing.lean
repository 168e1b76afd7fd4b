import SchemaChart.Proofs.Normal
import SchemaChart.Schema.Reading

/-!
# Blanks do not matter

Two texts are alike (`Alike`) if they differ only in the length and the make of the
blanks inside them, and in the blanks at their ends. Taking out block comments keeps texts
alike, and alike texts have the same normal form, so a script is read as any other one
that is alike once line comments are out (`normalize_eq_of_alike`).

`schema_read_relaid`: in a script without line comments every run of blanks may be
replaced by other blanks with line comments among them, inside of block comments and
literals too.
-/

namespace SchemaChart

namespace Text

-- ---------------------------------------------------------------------------
-- Straight quotes
-- ---------------------------------------------------------------------------

/-- Straightening makes only double quotes, and of nothing but typographic ones. -/
theorem straighten_cases (c : Char) :
    straighten c = c ∨ straighten c = '\x22' ∧ (c = '\u201C' ∨ c = '\u201D') := by
  unfold straighten
  split
  · next curly =>
    simp only [Bool.or_eq_true, decide_eq_true_eq] at curly
    exact .inr ⟨rfl, curly⟩
  · exact .inl rfl

theorem straighten_eq_iff (quote : d ≠ '\x22') (left : d ≠ '\u201C') (right : d ≠ '\u201D') :
    straighten c = d ↔ c = d := by
  rcases straighten_cases c with same | ⟨same, curly⟩
  · rw [same]
  · rw [same]
    refine ⟨fun plain => absurd plain.symm quote, ?_⟩
    rintro rfl
    exact curly.elim (absurd · left) (absurd · right)

theorem isBlank_straighten (c : Char) : isBlank (straighten c) = isBlank c := by
  rcases straighten_cases c with same | ⟨same, rfl | rfl⟩
  · rw [same]
  · decide
  · decide

theorem head?_map_straighten (quote : d ≠ '\x22') (left : d ≠ '\u201C') (right : d ≠ '\u201D')
    (s : Text) : (s.map straighten).head? = some d ↔ s.head? = some d := by
  cases s with
  | nil => simp
  | cons c s => simp [straighten_eq_iff quote left right]

theorem dropLineComments_map_straighten (inside : Bool) (s : Text) :
    dropLineComments inside (s.map straighten) =
      (dropLineComments inside s).map straighten := by
  have feed : straighten '\n' = '\n' := by decide
  induction s generalizing inside with
  | nil => rfl
  | cons c s ih =>
    have ends : straighten c = '\n' ↔ c = '\n' :=
      straighten_eq_iff (by decide) (by decide) (by decide)
    have dash : straighten c = '-' ↔ c = '-' :=
      straighten_eq_iff (by decide) (by decide) (by decide)
    have next := head?_map_straighten (d := '-') (by decide) (by decide) (by decide) s
    cases inside with
    | true =>
      by_cases hc : c = '\n'
      · simp [dropLineComments, hc, feed, ih]
      · simp [dropLineComments, hc, ends, ih]
    | false =>
      by_cases opens : c = '-' ∧ s.head? = some '-'
      · obtain ⟨rfl, dashes⟩ := opens
        simp [dropLineComments, dash.mpr rfl, next.mpr dashes, dashes, ih]
      · have other : ¬(straighten c = '-' ∧ (s.map straighten).head? = some '-') := by
          rwa [dash, next]
        simp only [List.map_cons, dropLineComments, Bool.and_eq_true, decide_eq_true_eq, opens,
          other, Bool.false_eq_true, if_false, ih]

theorem afterBlock?_map_straighten (s : Text) :
    afterBlock? (s.map straighten) = (afterBlock? s).map (List.map straighten) := by
  induction s with
  | nil => rfl
  | cons c s ih =>
    have star : straighten c = '*' ↔ c = '*' :=
      straighten_eq_iff (by decide) (by decide) (by decide)
    have next := head?_map_straighten (d := '/') (by decide) (by decide) (by decide) s
    by_cases ends : c = '*' ∧ s.head? = some '/'
    · obtain ⟨rfl, slash⟩ := ends
      simp [afterBlock?, star.mpr rfl, next.mpr slash, slash]
    · have other : ¬(straighten c = '*' ∧ (s.map straighten).head? = some '/') := by
        rwa [star, next]
      rw [List.map_cons, afterBlock?_cons other, afterBlock?_cons ends, ih]

theorem dropBlockComments_open (h : afterBlock? s = none) :
    dropBlockComments ('/' :: '*' :: s) = '/' :: '*' :: s := by
  rw [dropBlockComments]
  split
  · next closed => simp [h] at closed
  · rfl

theorem dropBlockComments_map_straighten (s : Text) :
    dropBlockComments (s.map straighten) = (dropBlockComments s).map straighten := by
  fun_induction dropBlockComments s with
  | case1 rest after closed ih =>
    have closed' := afterBlock?_map_straighten rest
    rw [closed, Option.map_some] at closed'
    exact (dropBlockComments_closed closed').trans (congrArg _ ih)
  | case2 rest opened =>
    have opened' := afterBlock?_map_straighten rest
    rw [opened, Option.map_none] at opened'
    exact dropBlockComments_open opened'
  | case3 c rest other ih =>
    have slash : straighten c = '/' ↔ c = '/' :=
      straighten_eq_iff (by decide) (by decide) (by decide)
    have next := head?_map_straighten (d := '*') (by decide) (by decide) (by decide) rest
    have plain : ¬(straighten c = '/' ∧ (rest.map straighten).head? = some '*') := by
      rw [slash, next]
      rintro ⟨rfl, star⟩
      obtain ⟨rest, rfl⟩ := List.head?_eq_some_iff.mp star
      exact other rest rfl rfl
    rw [List.map_cons, dropBlockComments_cons plain, ih, List.map_cons]
  | case4 => rw [List.map_nil, dropBlockComments]

/-- The normal form, with quotes straightened after the comments are out. -/
theorem normalize_eq_fields (script : Text) : normalize script = joinWith [' '] (fields
    ((dropBlockComments (dropLineComments false script)).map straighten)) := by
  rw [normalize_eq, dropLineComments_map_straighten, dropBlockComments_map_straighten]

-- ---------------------------------------------------------------------------
-- Texts that differ in blanks
-- ---------------------------------------------------------------------------

theorem AllBlank.append (ha : AllBlank a) (hb : AllBlank b) : AllBlank (a ++ b) := by
  intro c mem
  exact (List.mem_append.mp mem).elim (ha c) (hb c)

/-- The same characters apart from blanks, and blanks between them at the same places.
The ends may have blanks in one of the texts only. -/
inductive Alike : Text → Text → Prop
  | ends : AllBlank a → AllBlank b → Alike a b
  | letter : isBlank c = false → Alike a b → Alike (c :: a) (c :: b)
  | run : isBlank c = true → isBlank d = true → AllBlank g → AllBlank g' → Alike a b →
    Alike (c :: (g ++ a)) (d :: (g' ++ b))

namespace Alike

theorem cons (c : Char) (h : Alike a b) : Alike (c :: a) (c :: b) := by
  by_cases hc : isBlank c = true
  · exact .run hc hc allBlank_nil allBlank_nil h
  · exact .letter (Bool.eq_false_iff.mpr hc) h

theorem refl (s : Text) : Alike s s := by
  induction s with
  | nil => exact .ends allBlank_nil allBlank_nil
  | cons c s ih => exact ih.cons c

theorem symm (h : Alike a b) : Alike b a := by
  induction h with
  | ends ha hb => exact .ends hb ha
  | letter hc _ ih => exact .letter hc ih
  | run hc hd hg hg' _ ih => exact .run hd hc hg' hg ih

/-- Behind a character that is not blank, both texts go on alike. -/
theorem of_cons (h : Alike (c :: a) t) (hc : isBlank c = false) :
    ∃ b, t = c :: b ∧ Alike a b := by
  cases h with
  | ends ha _ => simp [ha c (by simp)] at hc
  | letter _ h => exact ⟨_, rfl, h⟩
  | run hb => simp [hb] at hc

theorem head? (h : Alike a b) (hc : isBlank c = false) : a.head? = some c ↔ b.head? = some c := by
  have forth : ∀ {a b : Text}, Alike a b → a.head? = some c → b.head? = some c := by
    intro a b h front
    cases a with
    | nil => simp at front
    | cons d a =>
      cases Option.some.inj front
      obtain ⟨b, rfl, -⟩ := h.of_cons hc
      rfl
  exact ⟨forth h, forth h.symm⟩

theorem map_straighten (h : Alike a b) : Alike (a.map straighten) (b.map straighten) := by
  have blanks : ∀ {g : Text}, AllBlank g → AllBlank (g.map straighten) := by
    intro g hg c mem
    obtain ⟨d, inside, rfl⟩ := List.mem_map.mp mem
    rw [isBlank_straighten, hg d inside]
  induction h with
  | ends ha hb => exact .ends (blanks ha) (blanks hb)
  | letter hc _ ih => exact .letter (by rwa [isBlank_straighten]) ih
  | run hc hd hg hg' _ ih =>
    rw [List.map_cons, List.map_append, List.map_cons, List.map_append]
    exact .run (by rwa [isBlank_straighten]) (by rwa [isBlank_straighten]) (blanks hg)
      (blanks hg') ih

end Alike

theorem fields_blanks (hg : AllBlank g) (s : Text) : fields (g ++ s) = fields s := by
  induction g with
  | nil => rfl
  | cons c g ih =>
    obtain ⟨hc, hg⟩ := List.forall_mem_cons.mp hg
    rw [List.cons_append, fields_cons_blank hc, ih hg]

theorem all_head?_eq_false {s : Text} : s.head?.all isBlank = false ↔
    ∃ c, isBlank c = false ∧ s.head? = some c := by
  cases s <;> simp

theorem Alike.fields (h : Alike a b) : Text.fields a = Text.fields b := by
  induction h with
  | @ends a b ha hb =>
    have none : ∀ {g : Text}, AllBlank g → Text.fields g = [] := by
      intro g hg
      rw [← List.append_nil g, fields_blanks hg, Text.fields]
    rw [none ha, none hb]
  | @letter c a b hc h ih =>
    have same : a.head?.all isBlank = false ↔ b.head?.all isBlank = false := by
      rw [all_head?_eq_false, all_head?_eq_false]
      exact exists_congr fun d => and_congr_right fun hd => h.head? hd
    have ends : a.head?.all isBlank = b.head?.all isBlank := by
      rw [Bool.eq_iff_iff, ← not_iff_not, Bool.not_eq_true, Bool.not_eq_true, same]
    rw [fields_cons hc, fields_cons hc, ends, ih]
  | run hc hd hg hg' _ ih =>
    rw [fields_cons_blank hc, fields_cons_blank hd, fields_blanks hg, fields_blanks hg', ih]

-- ---------------------------------------------------------------------------
-- Block comments
-- ---------------------------------------------------------------------------

theorem afterBlock?_blanks (hg : AllBlank g) (s : Text) : afterBlock? (g ++ s) = afterBlock? s := by
  induction g with
  | nil => rfl
  | cons c g ih =>
    obtain ⟨hc, hg⟩ := List.forall_mem_cons.mp hg
    have plain : c ≠ '*' := by
      rintro rfl
      exact absurd hc (by decide)
    rw [List.cons_append, afterBlock?_cons (by simp [plain]), ih hg]

theorem dropBlockComments_blanks (hg : AllBlank g) (s : Text) :
    dropBlockComments (g ++ s) = g ++ dropBlockComments s := by
  induction g with
  | nil => rfl
  | cons c g ih =>
    obtain ⟨hc, hg⟩ := List.forall_mem_cons.mp hg
    have plain : c ≠ '/' := by
      rintro rfl
      exact absurd hc (by decide)
    rw [List.cons_append, dropBlockComments_cons (by simp [plain]), ih hg, List.cons_append]

/-- Alike texts go on alike behind the end of a comment, or neither has such an end. -/
theorem Alike.afterBlock? (h : Alike a b) :
    Option.Rel Alike (Text.afterBlock? a) (Text.afterBlock? b) := by
  induction h with
  | @ends a b ha hb =>
    have none : ∀ {g : Text}, AllBlank g → Text.afterBlock? g = none := by
      intro g hg
      rw [← List.append_nil g, afterBlock?_blanks hg, Text.afterBlock?]
    rw [none ha, none hb]
    exact .none
  | @letter c a b hc h ih =>
    by_cases ends : c = '*' ∧ a.head? = some '/'
    · obtain ⟨rfl, slash⟩ := ends
      obtain ⟨a, rfl⟩ := List.head?_eq_some_iff.mp slash
      obtain ⟨b, rfl, behind⟩ := h.of_cons (by decide)
      exact .some behind
    · have ends' : ¬(c = '*' ∧ b.head? = some '/') := by rwa [← h.head? (by decide)]
      rw [afterBlock?_cons ends, afterBlock?_cons ends']
      exact ih
  | run hc hd hg hg' _ ih =>
    have first := afterBlock?_blanks (List.forall_mem_cons.mpr ⟨hc, hg⟩)
    have second := afterBlock?_blanks (List.forall_mem_cons.mpr ⟨hd, hg'⟩)
    rw [← List.cons_append, ← List.cons_append, first, second]
    exact ih

/-- The induction is on the length: behind a comment the texts are alike, but not by a
part of the derivation. -/
theorem Alike.dropBlockComments (h : Alike a b) :
    Alike (Text.dropBlockComments a) (Text.dropBlockComments b) := by
  induction size : a.length using Nat.strong_induction_on generalizing a b with
  | _ n ih =>
  cases h with
  | ends ha hb =>
    have same : ∀ {g : Text}, AllBlank g → Text.dropBlockComments g = g := by
      intro g hg
      have whole := dropBlockComments_blanks hg []
      rwa [Text.dropBlockComments, List.append_nil] at whole
    rw [same ha, same hb]
    exact .ends ha hb
  | @letter c a b hc h =>
    by_cases opens : c = '/' ∧ a.head? = some '*'
    · obtain ⟨rfl, star⟩ := opens
      obtain ⟨a, rfl⟩ := List.head?_eq_some_iff.mp star
      obtain ⟨b, rfl, inner⟩ := h.of_cons (by decide)
      have ended := inner.afterBlock?
      cases closed : Text.afterBlock? a with
      | none =>
        cases closed' : Text.afterBlock? b with
        | none =>
          rw [dropBlockComments_open closed, dropBlockComments_open closed']
          exact .letter (by decide) (.letter (by decide) inner)
        | some t' => simp [closed, closed'] at ended
      | some t =>
        cases closed' : Text.afterBlock? b with
        | none => simp [closed, closed'] at ended
        | some t' =>
          rw [closed, closed', Option.rel_some_some] at ended
          have short := length_lt_of_afterBlock? closed
          rw [dropBlockComments_closed closed, dropBlockComments_closed closed']
          refine .run (by decide) (by decide) allBlank_nil allBlank_nil (ih t.length ?_ ended rfl)
          simp only [← size, List.length_cons]
          omega
    · have opens' : ¬(c = '/' ∧ b.head? = some '*') := by rwa [← h.head? (by decide)]
      rw [dropBlockComments_cons opens, dropBlockComments_cons opens']
      exact .letter hc (ih a.length (by simp [← size]) h rfl)
  | @run c d g g' a b hc hd hg hg' h =>
    have first := dropBlockComments_blanks (List.forall_mem_cons.mpr ⟨hc, hg⟩) a
    have second := dropBlockComments_blanks (List.forall_mem_cons.mpr ⟨hd, hg'⟩) b
    rw [← List.cons_append, ← List.cons_append, first, second]
    refine .run hc hd hg hg' (ih a.length ?_ h rfl)
    simp only [← size, List.length_cons, List.length_append]
    omega

/-- Scripts that are alike once line comments are out have one normal form. -/
theorem normalize_eq_of_alike {s t : Text}
    (h : Alike (dropLineComments false s) (dropLineComments false t)) :
    normalize s = normalize t := by
  rw [normalize_eq_fields, normalize_eq_fields, h.dropBlockComments.map_straighten.fields]

-- ---------------------------------------------------------------------------
-- Other blanks and line comments in the place of blanks
-- ---------------------------------------------------------------------------

/-- Blanks and line comments in any order; a comment ends with its line feed. -/
inductive FillerText : Text → Prop
  | nil : FillerText []
  | blank : isBlank c = true → FillerText s → FillerText (c :: s)
  | comment : '\n' ∉ t → FillerText s → FillerText ('-' :: '-' :: (t ++ '\n' :: s))

/-- The second text is the first one with every run of blanks replaced by a filler that
begins with a blank. -/
inductive Relaid : Text → Text → Prop
  | nil : Relaid [] []
  | letter : isBlank c = false → Relaid s s' → Relaid (c :: s) (c :: s')
  | run : Gap g → Clear isBlank s → isBlank d = true → FillerText f → Relaid s s' →
    Relaid (g ++ s) (d :: (f ++ s'))

theorem dropLineComments_inside (h : '\n' ∉ s) : dropLineComments true s = [] := by
  induction s with
  | nil => rfl
  | cons c s ih =>
    obtain ⟨hc, hs⟩ := List.ne_and_not_mem_of_not_mem_cons h
    rw [dropLineComments, if_pos rfl, if_neg hc.symm, ih hs]

theorem dropLineComments_cons (h : ¬(c = '-' ∧ s.head? = some '-')) :
    dropLineComments false (c :: s) = c :: dropLineComments false s := by
  rw [dropLineComments, if_neg (by simp), if_neg (by simpa using h)]

theorem dropLineComments_dashes (h : s.head? = some '-') :
    dropLineComments false ('-' :: s) = dropLineComments true s := by
  simp [dropLineComments, h]

theorem dropLineComments_feed (s : Text) :
    dropLineComments true ('\n' :: s) = '\n' :: dropLineComments false s := by
  simp [dropLineComments]

theorem dropLineComments_skip (feed : c ≠ '\n') (s : Text) :
    dropLineComments true (c :: s) = dropLineComments true s := by
  simp [dropLineComments, feed]

theorem dropLineComments_blank (hc : isBlank c = true) (s : Text) :
    dropLineComments false (c :: s) = c :: dropLineComments false s := by
  have plain : c ≠ '-' := by
    rintro rfl
    exact absurd hc (by decide)
  exact dropLineComments_cons (by simp [plain])

/-- Of a filler only blanks are left. -/
theorem FillerText.dropLineComments (h : FillerText f) :
    ∃ g, AllBlank g ∧ ∀ s, Text.dropLineComments false (f ++ s) =
      g ++ Text.dropLineComments false s := by
  induction h with
  | nil => exact ⟨[], allBlank_nil, fun s => rfl⟩
  | @blank c f hc _ ih =>
    obtain ⟨g, hg, rest⟩ := ih
    refine ⟨c :: g, List.forall_mem_cons.mpr ⟨hc, hg⟩, fun s => ?_⟩
    rw [List.cons_append, dropLineComments_blank hc, rest, List.cons_append]
  | @comment t f ht _ ih =>
    obtain ⟨g, hg, rest⟩ := ih
    refine ⟨'\n' :: g, List.forall_mem_cons.mpr ⟨by decide, hg⟩, fun s => ?_⟩
    have opened : Text.dropLineComments false ('-' :: '-' :: t) = [] := by
      simp [Text.dropLineComments, dropLineComments_inside ht]
    have line : '-' :: '-' :: (t ++ '\n' :: f) ++ s = '-' :: '-' :: t ++ '\n' :: (f ++ s) := by simp
    rw [line, dropLineComments_append_feed, opened, rest]
    rfl

theorem Relaid.head? (h : Relaid s s') (hc : isBlank c = false) (front : s'.head? = some c) :
    s.head? = some c := by
  cases h with
  | nil => exact front
  | letter => exact front
  | run _ _ hd =>
    cases Option.some.inj front
    simp [hd] at hc

theorem Relaid.alike (h : Relaid s s') (plain : mentions "--" s = false) :
    Alike s (dropLineComments false s') := by
  rw [Bool.eq_false_iff, Ne, mentions_iff] at plain
  induction h with
  | nil => exact .ends allBlank_nil allBlank_nil
  | @letter c s s' hc h ih =>
    have other : ¬(c = '-' ∧ s'.head? = some '-') := by
      rintro ⟨rfl, front⟩
      obtain ⟨t, rfl⟩ := List.head?_eq_some_iff.mp (h.head? (by decide) front)
      exact plain (List.prefix_append ['-', '-'] t).isInfix
    rw [dropLineComments_cons other]
    exact .letter hc (ih fun mem => plain (List.infix_cons mem))
  | @run g s d f s' hg _ hd hf h ih =>
    obtain ⟨g', hg', rest⟩ := hf.dropLineComments
    obtain ⟨c, g, rfl⟩ := List.exists_cons_of_ne_nil hg.1
    obtain ⟨hc, hg⟩ := List.forall_mem_cons.mp hg.2
    rw [dropLineComments_blank hd, rest]
    exact .run hc hd hg hg' (ih fun mem => plain (mem.trans (List.suffix_append _ _).isInfix))

/-- Text without two hyphens is kept; no comment begins where it ends. -/
theorem dropLineComments_append (plain : ¬['-', '-'] <:+: a) (hb : b.head? ≠ some '-') :
    dropLineComments false (a ++ b) = a ++ dropLineComments false b := by
  induction a with
  | nil => rfl
  | cons c a ih =>
    have other : ¬(c = '-' ∧ (a ++ b).head? = some '-') := by
      rintro ⟨rfl, front⟩
      cases a with
      | nil => exact hb front
      | cons d a =>
        cases Option.some.inj front
        exact plain (List.prefix_append ['-', '-'] a).isInfix
    rw [List.cons_append, dropLineComments_cons other, ih fun mem => plain (List.infix_cons mem),
      List.cons_append]

end Text

open Text

theorem Schema.read_congr {s t : Text} (empty : s.isEmpty = t.isEmpty)
    (same : normalize s = normalize t) : Schema.read s = Schema.read t := by
  rw [Schema.read, Schema.read, empty, same]

theorem Text.Relaid.isEmpty (h : Relaid s s') : s'.isEmpty = s.isEmpty := by
  cases h with
  | nil => rfl
  | letter => rfl
  | run hg => simp [hg.1]

/-- A script without line comments is read as before when fillers take the place of its
blanks, wherever they stand. -/
theorem schema_read_relaid (plain : mentions "--" s = false) (h : Relaid s s') :
    normalize s' = normalize s ∧ Schema.read s' = Schema.read s := by
  have none : ¬['-', '-'] <:+: s := by
    rw [Bool.eq_false_iff, Ne, mentions_iff] at plain
    exact plain
  have kept : dropLineComments false s = s := by
    have whole := dropLineComments_append none (b := []) (by simp)
    rwa [dropLineComments, List.append_nil] at whole
  have same : normalize s' = normalize s :=
    (normalize_eq_of_alike (kept.symm ▸ h.alike plain)).symm
  exact ⟨same, Schema.read_congr h.isEmpty same⟩

theorem Text.Relaid.letters (hu : ∀ c ∈ u, isBlank c = false) (h : Relaid s s') :
    Relaid (u ++ s) (u ++ s') := by
  induction u with
  | nil => exact h
  | cons c u ih =>
    obtain ⟨hc, hu⟩ := List.forall_mem_cons.mp hu
    exact .letter hc (ih hu)

/-- In front of a word a space gives way to a line feed and a line comment. -/
theorem Text.Relaid.remark (t : Text) {u : Text} (hne : u ≠ []) (hu : ∀ c ∈ u, isBlank c = false)
    (ht : '\n' ∉ t) (h : Relaid s s') :
    Relaid (' ' :: (u ++ s)) ('\n' :: ('-' :: '-' :: (t ++ ['\n']) ++ (u ++ s'))) := by
  refine .run gap_space ?_ (by decide) (.comment ht .nil) (.letters hu h)
  obtain ⟨c, u, rfl⟩ := List.exists_cons_of_ne_nil hne
  exact clear_cons.mpr (hu c (by simp))

def spacedScript : Text := "CREATE TABLE t(a CHAR('x y')/* */)"

/-- The spaces of `spacedScript` replaced by comments that look like a statement and like
the ends of literals, groups and comments. -/
def remarkedScript : Text :=
  ("CREATE\n--CREATE TABLE u (\nTABLE\n--'\nt(a\n--)\nCHAR('x\n--'/*\ny')/*" : Text) ++
    "\n--*/\n*/)"

theorem relaid_remarkedScript : Relaid spacedScript remarkedScript := by
  have built := Relaid.letters (u := "CREATE") (by decide) <|
    .remark "CREATE TABLE u (" (u := "TABLE") (by decide) (by decide) (by decide) <|
    .remark "'" (u := "t(a") (by decide) (by decide) (by decide) <|
    .remark ")" (u := "CHAR('x") (by decide) (by decide) (by decide) <|
    .remark "'/*" (u := "y')/*") (by decide) (by decide) (by decide) <|
    .remark "*/" (u := "*/)") (by decide) (by decide) (by decide) .nil
  refine cast (congrArg₂ Relaid ?_ ?_) built <;> decide +kernel

theorem schema_read_relaid_remarks :
    mentions "--" spacedScript = false ∧ Relaid spacedScript remarkedScript ∧
      (Schema.read remarkedScript).schema =
        ⟨[⟨"t", [⟨"a", "CHAR('XY')", false, true, none⟩]⟩], []⟩ := by
  have plain : mentions "--" spacedScript = false := by decide +kernel
  have same := (schema_read_relaid plain relaid_remarkedScript).2
  refine ⟨plain, relaid_remarkedScript, ?_⟩
  exact (congrArg SchemaReading.schema same).trans (by decide +kernel)

end SchemaChart
