import SchemaChart.Proofs.Trimming
import SchemaChart.Script.Clause

/-!
# The kind of a clause

Keywords count as whole words only, so the first word of a clause tells whether the clause
can be anything but a column (`ClauseKind.ofClause_unreserved`). The name of a constraint is
passed over: what stands behind it has the kind that it has without the name, except that it
is never a column (`ClauseKind.ofClause_named`).
-/

namespace SchemaChart

open Text

-- ---------------------------------------------------------------------------
-- The first word
-- ---------------------------------------------------------------------------

namespace Text

/-- The word that a text begins with, by the letters that it stands for in a keyword. -/
def firstWord (s : Text) : Text := (s.takeWhile isWord).map foldLetter

theorem firstWord_run (hw : ∀ c ∈ w, isWord c = true) (hr : Clear isWord r) :
    firstWord (w ++ r) = w.map foldLetter := by
  rw [firstWord, takeWhile_run hw hr]

theorem firstWord_clear (hs : Clear isWord s) : firstWord s = [] := by
  rw [firstWord, takeWhile_clear hs, List.map_nil]

theorem firstWord_append (s : Text) (hr : Clear isWord r) : firstWord (s ++ r) = firstWord s := by
  rw [firstWord, firstWord, List.takeWhile_append, takeWhile_clear hr, List.append_nil]
  split
  · next whole => rw [(List.takeWhile_prefix isWord).eq_of_length whole]
  · rfl

theorem firstWord_strip (s : Text) : firstWord (strip s) = firstWord (skipBlanks s) := by
  obtain ⟨g, blank, cut⟩ := exists_trimEnd isBlank (skipBlanks s)
  have clear : Clear isWord g := by simpa using AllBlank.clear_isWord blank clear_nil
  calc firstWord (strip s) = firstWord (strip s ++ g) := (firstWord_append _ clear).symm
    _ = firstWord (skipBlanks s) := congrArg firstWord cut.symm

theorem endsWord_iff : endsWord r = true ↔ Clear isWord r := by
  cases r with
  | nil => simp [endsWord]
  | cons c r => simp [endsWord]

theorem opensWith_iff :
    opensWith words s = true ↔ ∃ r, phrase? words s = some r ∧ Clear isWord r := by
  simp only [opensWith, Option.any_eq_true, endsWord_iff]

theorem firstWord_of_opensWith (hk : IsKeyword word) (h : opensWith (word :: more) s = true) :
    firstWord s = word := by
  obtain ⟨r, read, ends⟩ := opensWith_iff.mp h
  cases more with
  | nil => exact (keyword?_whole hk read ends).1
  | cons next more =>
    simp only [phrase?, bind, Option.bind_eq_some_iff] at read
    obtain ⟨a, readWord, b, gap, -⟩ := read
    exact (keyword?_whole hk readWord (clear_of_blanks? gap)).1

-- ---------------------------------------------------------------------------
-- The name of a constraint
-- ---------------------------------------------------------------------------

/-- The text begins with the keyword of a constraint and a name. -/
inductive Named : Text → Prop
  | mk {u g v r name} : PhraseText ["constraint"] u → Gap g → NameText name v →
      Named (u ++ (g ++ (v ++ r)))

theorem Named.append (h : Named s) (t : Text) : Named (s ++ t) := by
  cases h with
  | mk hu hg hv =>
    simp only [List.append_assoc]
    exact .mk hu hg hv

theorem Named.firstWord (h : Named s) : firstWord s = "constraint" := by
  cases h with
  | mk hu hg =>
    rw [firstWord_run (IsKeyword.isWord (by decide) hu.spelled).2 (hg.clear_isWord _), hu.spelled]

theorem name?_ne_none (h : NameText name v) (r : Text) : name? (v ++ r) ≠ none := by
  cases h with
  | @mk m m' hm hn hm' =>
    obtain ⟨c, w, rfl⟩ := List.exists_cons_of_ne_nil hn.1
    have letter := hn.2 c (by simp)
    have behind : skipMark (m ++ (c :: (w ++ (m' ++ r)))) = c :: (w ++ (m' ++ r)) :=
      skipMark_append hm (clear_cons.mpr (isNameMark_of_isWord letter))
    simp [name?, behind, word?, letter]

theorem named_iff : Named s ↔ constraintName? s ≠ none := by
  constructor
  · rintro @⟨u, g, v, r, name, hu, hg, hv⟩ unread
    have keyword := phrase?_append (r := g ++ (v ++ r)) hu (by decide)
    have gap : blanks? (g ++ (v ++ r)) = some (v ++ r) :=
      blanks?_eq_some_iff.mpr ⟨g, hg, rfl, hv.clear_isBlank⟩
    obtain ⟨read, named⟩ := Option.ne_none_iff_exists'.mp (name?_ne_none hv r)
    simp only [constraintName?, keyword, gap, named, bind, Option.bind_some] at unread
    cases unread
  · intro h
    obtain ⟨t, read⟩ := Option.ne_none_iff_exists'.mp h
    simp only [constraintName?, bind, Option.bind_eq_some_iff] at read
    obtain ⟨a, readWord, b, readGap, ⟨name, c⟩, readName, -⟩ := read
    obtain ⟨u, hu, rfl⟩ := phrase?_sound readWord
    obtain ⟨g, hg, rfl, -⟩ := blanks?_eq_some_iff.mp readGap
    obtain ⟨v, hv, rfl⟩ := name?_sound readName
    exact .mk hu hg hv

/-- The name is passed over together with the blanks behind it. -/
theorem constraintName?_append (hu : PhraseText ["constraint"] u) (hg : Gap g)
    (hv : NameText name v) (hg' : Gap g') (hs : Clear isBlank s) :
    constraintName? (u ++ (g ++ (v ++ (g' ++ s)))) = some s := by
  have keyword := phrase?_append (r := g ++ (v ++ (g' ++ s))) hu (by decide)
  have gap : blanks? (g ++ (v ++ (g' ++ s))) = some (v ++ (g' ++ s)) :=
    blanks?_eq_some_iff.mpr ⟨g, hg, rfl, hv.clear_isBlank⟩
  have apart : Clear isNameChar (g' ++ s) := by
    obtain ⟨c, g', rfl⟩ := List.exists_cons_of_ne_nil hg'.1
    exact clear_cons.mpr (isNameChar_of_isBlank (hg'.2 c (by simp)))
  simp only [constraintName?, keyword, gap, name?_append hv apart, skipBlanks_append hg'.2 hs, bind,
    Option.bind_some, pure]

-- ---------------------------------------------------------------------------
-- The end of a clause
-- ---------------------------------------------------------------------------

theorem strip_upTo (front : Clear isBlank (a ++ c :: s)) (hc : isBlank c = false) :
    strip (a ++ c :: s) = a ++ c :: trimEnd isBlank s := by
  rw [strip, trim, dropWhile_clear front, trimEnd_upTo a s hc]

theorem PhraseText.exists_concat (h : PhraseText words u) (hw : ∀ word ∈ words, IsKeyword word)
    (hne : words ≠ []) : ∃ v c, u = v ++ [c] ∧ isWord c = true := by
  induction h with
  | nil => exact absurd rfl hne
  | @last word u hu =>
    have spelled := IsKeyword.isWord (hw word (by simp)) hu
    obtain ⟨v, c, rfl⟩ := (List.eq_nil_or_concat' u).resolve_left spelled.1
    exact ⟨v, c, rfl, spelled.2 c (by simp)⟩
  | cons _ _ _ ih =>
    have more := fun word mem => hw word (List.mem_cons_of_mem _ mem)
    obtain ⟨v, c, rfl, letter⟩ := ih more (by simp)
    exact ⟨_ ++ v, c, (List.append_assoc _ _ _).symm, letter⟩

theorem clear_trimEnd (h : Clear q s) (p : Char → Bool) : Clear q (trimEnd p s) := by
  obtain ⟨t, cut⟩ := isPrefix_trimEnd p s
  cases kept : trimEnd p s with
  | nil => exact clear_nil
  | cons c rest =>
    rw [← cut, kept] at h
    exact clear_cons.mpr (clear_cons.mp h)

end Text

-- ---------------------------------------------------------------------------
-- What the first words declare
-- ---------------------------------------------------------------------------

namespace ClauseKind

/-- The words that begin a clause which is no column, with what they declare. -/
def openings : List (List Text × ClauseKind) :=
  [(["primary", "key"], primaryKey), (["foreign", "key"], foreignKey), (["unique"], unique),
    (["check"], check), (["key"], other), (["index"], other), (["fulltext", "key"], other),
    (["fulltext", "index"], other), (["spatial", "key"], other), (["spatial", "index"], other)]

/-- The first words of a clause that need not be a column. -/
def reserved : List Text :=
  ["constraint", "primary", "foreign", "unique", "check", "key", "index", "fulltext", "spatial"]

theorem opensIndex_iff :
    opensIndex s = true ↔ ∃ words, (words, other) ∈ openings ∧ opensWith words s = true := by
  simp [opensIndex, openings]

theorem ofWords?_sound (h : ofWords? s = some kind) :
    ∃ words, (words, kind) ∈ openings ∧ opensWith words s = true := by
  unfold ofWords? at h
  split_ifs at h with primary foreign unique check index <;> cases h
  · exact ⟨_, by decide, primary⟩
  · exact ⟨_, by decide, foreign⟩
  · exact ⟨_, by decide, unique⟩
  · exact ⟨_, by decide, check⟩
  · exact opensIndex_iff.mp index

theorem ofWords?_ne_none (mem : (words, kind) ∈ openings) (opens : opensWith words s = true) :
    ofWords? s ≠ none := by
  intro none
  unfold ofWords? at none
  split_ifs at none with primary foreign unique check index
  cases kind with
  | column => simp [openings] at mem
  | primaryKey =>
    obtain rfl : words = ["primary", "key"] := by simpa [openings] using mem
    exact primary opens
  | foreignKey =>
    obtain rfl : words = ["foreign", "key"] := by simpa [openings] using mem
    exact foreign opens
  | unique =>
    obtain rfl : words = ["unique"] := by simpa [openings] using mem
    exact unique opens
  | check =>
    obtain rfl : words = ["check"] := by simpa [openings] using mem
    exact check opens
  | other => exact index (opensIndex_iff.mpr ⟨words, mem, opens⟩)

theorem isKeyword_of_mem_openings : ∀ opening ∈ openings, ∀ word ∈ opening.1, IsKeyword word := by
  decide

theorem firstWord_of_opening (mem : (words, kind) ∈ openings) (opens : opensWith words s = true) :
    words.head? = some (firstWord s) := by
  cases words with
  | nil => simp [openings] at mem
  | cons word more =>
    have key := isKeyword_of_mem_openings _ mem word (by simp)
    rw [firstWord_of_opensWith key opens, List.head?_cons]

/-- Two openings with one first word declare the same. -/
theorem openings_functional :
    ∀ a ∈ openings, ∀ b ∈ openings, a.1.head? = b.1.head? → a.2 = b.2 := by
  decide

theorem ofWords?_of_opening (mem : (words, kind) ∈ openings) (opens : opensWith words s = true) :
    ofWords? s = some kind := by
  obtain ⟨kind', declared⟩ := Option.ne_none_iff_exists'.mp (ofWords?_ne_none mem opens)
  obtain ⟨words', mem', opens'⟩ := ofWords?_sound declared
  -- another test may come first, but the clause begins with the first word of both openings
  have first : words'.head? = words.head? := by
    rw [firstWord_of_opening mem opens, firstWord_of_opening mem' opens']
  rw [declared]
  exact congrArg some (openings_functional _ mem' _ mem first)

-- ---------------------------------------------------------------------------
-- Clauses
-- ---------------------------------------------------------------------------

theorem ofClause_unreserved (h : firstWord (skipBlanks s) ∉ reserved) : ofClause s = column := by
  rw [← firstWord_strip] at h
  have unnamed : constraintName? (strip s) = none := by
    by_contra named
    rw [(named_iff.mpr named).firstWord] at h
    exact h (by decide)
  have plain : ofWords? (strip s) = none := by
    by_contra declared
    obtain ⟨kind, declared⟩ := Option.ne_none_iff_exists'.mp declared
    obtain ⟨words, mem, opens⟩ := ofWords?_sound declared
    have heads : ∀ opening ∈ openings, ∀ word ∈ opening.1.head?, word ∈ reserved := by decide
    exact h (heads _ mem _ (firstWord_of_opening mem opens))
  simp only [ofClause, unnamed, plain, Option.getD_none]

theorem ofClause_wordless (hg : AllBlank g) (blank : isBlank q = false) (word : isWord q = false)
    (s : Text) : ofClause (g ++ q :: s) = column := by
  refine ofClause_unreserved ?_
  rw [skipBlanks_append hg (clear_cons.mpr blank), firstWord_clear (clear_cons.mpr word)]
  decide

theorem ofClause_of_mark (hq : isNameMark q = true) (s : Text) : ofClause (q :: s) = column :=
  ofClause_wordless allBlank_nil (isBlank_of_isNameMark hq) (isWord_of_isNameMark hq) s

/-- A clause that begins with an opening declares what the opening does. -/
theorem ofClause_of_opening (mem : (words, kind) ∈ openings) (hu : PhraseText words u)
    (hr : Clear isWord r) : ofClause (u ++ r) = kind := by
  have keys := isKeyword_of_mem_openings _ mem
  obtain ⟨word, more, rfl⟩ : ∃ word more, words = word :: more := by
    cases words with
    | nil => simp [openings] at mem
    | cons word more => exact ⟨word, more, rfl⟩
  have clean : strip (u ++ r) = u ++ trimEnd isBlank r := by
    have front : Clear isBlank (u ++ r) := hu.clear_isBlank (keys word (by simp))
    obtain ⟨v, c, rfl, letter⟩ := hu.exists_concat keys (by simp)
    rw [List.append_assoc, List.append_assoc] at *
    exact strip_upTo front (isBlank_of_isWord letter)
  have opens : opensWith (word :: more) (u ++ trimEnd isBlank r) = true :=
    opensWith_iff.mpr ⟨_, phrase?_append hu keys, clear_trimEnd hr isBlank⟩
  have unnamed : constraintName? (u ++ trimEnd isBlank r) = none := by
    by_contra named
    have first := firstWord_of_opening mem opens
    rw [(named_iff.mpr named).firstWord] at first
    exact (by decide : ∀ opening ∈ openings, opening.1.head? ≠ some "constraint") _ mem first
  simp only [ofClause, clean, unnamed, ofWords?_of_opening mem opens, Option.getD_some]

/-- Behind the name of a constraint a clause has the kind that it has alone, but it is no column. -/
theorem ofClause_named (hu : PhraseText ["constraint"] u) (hg : Gap g) (hv : NameText name v)
    (hg' : Gap g') (hc : isBlank c = false) (unnamed : constraintName? (c :: s) = none) :
    ofClause (u ++ (g ++ (v ++ (g' ++ c :: s)))) =
      if ofClause (c :: s) = column then other else ofClause (c :: s) := by
  have alone : strip (c :: s) = c :: trimEnd isBlank s :=
    strip_upTo (a := []) (clear_cons.mpr hc) hc
  have whole : strip (u ++ (g ++ (v ++ (g' ++ c :: s)))) =
      u ++ (g ++ (v ++ (g' ++ c :: trimEnd isBlank s))) := by
    have front : Clear isBlank (u ++ (g ++ (v ++ (g' ++ c :: s)))) := hu.clear_isBlank (by decide)
    simp only [← List.append_assoc] at *
    exact strip_upTo front hc
  -- a name that stands before the end is there in the whole text too
  have unnamed' : constraintName? (c :: trimEnd isBlank s) = none := by
    by_contra named
    obtain ⟨g, -, cut⟩ := exists_trimEnd isBlank s
    have longer := (named_iff.mpr named).append g
    rw [List.cons_append, ← cut] at longer
    exact named_iff.mp longer unnamed
  have behind := constraintName?_append (s := c :: trimEnd isBlank s) hu hg hv hg'
    (clear_cons.mpr hc)
  simp only [ofClause, alone, whole, unnamed', behind]
  cases declared : ofWords? (c :: trimEnd isBlank s) with
  | none => rfl
  | some kind =>
    obtain ⟨words, mem, -⟩ := ofWords?_sound declared
    have apart : kind ≠ column := (by decide : ∀ opening ∈ openings, opening.2 ≠ column) _ mem
    simp [apart]

end ClauseKind

open ClauseKind (openings reserved)

/-- Keywords decide the kind of a clause only as whole words, in whatever case: a clause that
begins with any other word, or with what is in no word such as a quotation mark, is a column,
and one that begins with the words of an opening is what they declare. The name of a constraint
changes the kind of a clause only if that would be a column. -/
theorem clause_kinds :
    (∀ w rest, IsWord w → w.map foldLetter ∉ reserved → Clear isWord rest →
      ClauseKind.ofClause (w ++ rest) = .column) ∧
    (∀ g q rest, AllBlank g → isBlank q = false → isWord q = false →
      ClauseKind.ofClause (g ++ q :: rest) = .column) ∧
    (∀ words kind u rest, (words, kind) ∈ openings → PhraseText words u → Clear isWord rest →
      ClauseKind.ofClause (u ++ rest) = kind) ∧
    (∀ u g name v g' c rest, PhraseText ["constraint"] u → Gap g → NameText name v → Gap g' →
      isBlank c = false → constraintName? (c :: rest) = none →
      ClauseKind.ofClause (u ++ (g ++ (v ++ (g' ++ c :: rest)))) =
        if ClauseKind.ofClause (c :: rest) = .column then .other
        else ClauseKind.ofClause (c :: rest)) := by
  refine ⟨?word, ?wordless, ?opening, ?named⟩
  case word =>
    intro w rest hw other hr
    refine ClauseKind.ofClause_unreserved ?_
    rwa [skipBlanks_clear hw.clear_isBlank, firstWord_run hw.2 hr]
  case wordless =>
    intro g q rest hg blank word
    exact ClauseKind.ofClause_wordless hg blank word rest
  case opening =>
    intro words kind u rest mem hu hr
    exact ClauseKind.ofClause_of_opening mem hu hr
  case named =>
    intro u g name v g' c rest hu hg hv hg' hc unnamed
    exact ClauseKind.ofClause_named hu hg hv hg' hc unnamed

/-- Words that begin like keywords, marked keywords, keywords of other letters, and a constraint
that is called like one. -/
theorem clause_kinds_keyword_names :
    (IsWord "key_id" ∧ ("key_id" : Text).map foldLetter ∉ reserved ∧
      ClauseKind.ofClause ("key_id" ++ " INT") = .column) ∧
    (isBlank '\x60' = false ∧ isWord '\x60' = false ∧
      ClauseKind.ofClause ("\t" ++ '\x60' :: "check\x60 INT") = .column) ∧
    (((["spatial", "index"], .other) : List Text × ClauseKind) ∈ openings ∧
      ClauseKind.ofClause ("ſPATIAL" ++ "\n" ++ "İndex" ++ "(a)") = .other) ∧
    (constraintName? ('U' :: "NIQUE (a)") = none ∧
      ClauseKind.ofClause
        ("constraint" ++ (" " ++ ("'primary'" ++ (" " ++ 'U' :: "NIQUE (a)")))) = .unique) := by
  obtain ⟨word, wordless, opening, named⟩ := clause_kinds
  have tab : AllBlank "\t" := by unfold AllBlank; decide
  have spatial : PhraseText ["spatial", "index"] ("ſPATIAL" ++ "\n" ++ "İndex") :=
    .cons (by decide) ⟨by decide, by unfold AllBlank; decide⟩ (.last (by decide))
  have keyword : PhraseText ["constraint"] "constraint" := .last (by decide)
  have mark : OptionalMark ['\x27'] := .inr ⟨_, by decide, rfl⟩
  have name : NameText "primary" "'primary'" := NameText.mk mark (by decide) mark
  have unnamed : constraintName? ('U' :: "NIQUE (a)") = none := by decide
  have alone : ClauseKind.ofClause ('U' :: "NIQUE (a)") = .unique :=
    opening ["unique"] .unique "UNIQUE" " (a)" (by decide) (.last (by decide))
      (clear_cons.mpr (by decide))
  have behind := named "constraint" " " "primary" "'primary'" " " 'U' "NIQUE (a)" keyword gap_space
    name gap_space (by decide) unnamed
  rw [alone] at behind
  exact ⟨⟨by decide, by decide, word _ _ (by decide) (by decide) (clear_cons.mpr (by decide))⟩,
    ⟨by decide, by decide, wordless _ _ _ tab (by decide) (by decide)⟩,
    ⟨by decide, opening _ _ _ _ (by decide) spatial (clear_cons.mpr (by decide))⟩, unnamed, behind⟩

end SchemaChart
