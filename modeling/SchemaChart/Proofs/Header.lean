import SchemaChart.Proofs.Readers
import SchemaChart.Script.Statement

/-!
# Headers of statements

`Header.read?_eq_some_iff`: the reader of headers takes exactly the texts of
`HeaderText` followed by an opening parenthesis, whatever comes behind. The optional
parts of a header leave no second way to read it: a table named `IF` cannot be
mistaken for `IF NOT EXISTS`, since a point or a parenthesis follows a name.
-/

namespace SchemaChart

open Text

/-- `IF NOT EXISTS` and the blanks after it, or nothing. -/
def GuardText (s : Text) : Prop :=
  s = [] ∨ ∃ u g, PhraseText ["if", "not", "exists"] u ∧ Gap g ∧ s = u ++ g

/-- A header up to its opening parenthesis. -/
inductive HeaderText (name : Text) : Text → Prop
  | mk {u g e v g'} : PhraseText ["create", "table"] u → Gap g → GuardText e →
      QualifiedText name v → AllBlank g' → HeaderText name (u ++ g ++ e ++ v ++ g')

theorem ifNotExists?_append (h : PhraseText ["if", "not", "exists"] u) (hg : Gap g)
    (hr : Clear isBlank r) : ifNotExists? (u ++ g ++ r) = some r := by
  have words := phrase?_append (r := g ++ r) h (by decide)
  have gap : blanks? (g ++ r) = some r := blanks?_eq_some_iff.mpr ⟨g, hg, rfl, hr⟩
  simp only [ifNotExists?, List.append_assoc, words, gap, bind, Option.bind_some]

theorem ifNotExists?_sound (h : ifNotExists? s = some r) :
    ∃ u g, PhraseText ["if", "not", "exists"] u ∧ Gap g ∧ s = u ++ g ++ r := by
  simp only [ifNotExists?, bind, Option.bind_eq_some_iff] at h
  obtain ⟨a, readPhrase, readGap⟩ := h
  obtain ⟨u, hu, rfl⟩ := phrase?_sound readPhrase
  obtain ⟨g, hg, rfl, -⟩ := blanks?_eq_some_iff.mp readGap
  exact ⟨u, g, hu, hg, by simp⟩

/-- After the word `IF` of a guard comes `NOT`, so the guard is no table name with an
opening parenthesis behind it. -/
theorem mark?_of_ifNotExists? (h : ifNotExists? s = some r) :
    (qualifiedName? s).bind (fun read => mark? '(' read.2) = none := by
  obtain ⟨u, g, hu, -, rfl⟩ := ifNotExists?_sound h
  cases hu with
  | @cons _ _ _ i gap rest hi hgap hrest =>
    have word : Text.IsWord i := IsKeyword.isWord (by decide) hi
    have letter : Clear isBlank (rest ++ (g ++ r)) := hrest.clear_isBlank (by decide)
    have skipped : skipBlanks (gap ++ (rest ++ (g ++ r))) = rest ++ (g ++ r) :=
      skipBlanks_append hgap.2 letter
    obtain ⟨c, more, first, hc⟩ : ∃ c more, rest = c :: more ∧ isWord c = true := by
      have opens : ∀ v, PhraseText ["not", "exists"] v →
          ∃ c more, v = c :: more ∧ isWord c = true := by
        rintro v (_ | _ | ⟨hu, -, -⟩)
        obtain ⟨hne, hw⟩ := IsKeyword.isWord (by decide) hu
        obtain ⟨c, more, rfl⟩ := List.exists_cons_of_ne_nil hne
        exact ⟨c, _, rfl, hw c (by simp)⟩
      exact opens rest hrest
    have gapClear : Clear isNameChar (gap ++ (rest ++ (g ++ r))) := by
      obtain ⟨d, more', rfl⟩ := List.exists_cons_of_ne_nil hgap.1
      exact clear_cons.mpr (isNameChar_of_isBlank (hgap.2 d (by simp)))
    have name : NameText i i := by
      simpa using @NameText.mk i [] [] (.inl rfl) word (.inl rfl)
    have dot : Clear (· = '.') (skipBlanks (gap ++ (rest ++ (g ++ r)))) := by
      rw [skipped, first]
      exact clear_cons.mpr (decide_eq_false (ne_of_isWord hc (by decide)))
    have read := qualifiedName?_append (.bare name) gapClear dot
    have noMark : mark? '(' (gap ++ (rest ++ (g ++ r))) = none := by
      rw [mark?, skipped, first]
      exact if_neg (ne_of_isWord hc (by decide))
    simp only [List.append_assoc, read, Option.bind_some, noMark]

theorem Header.read?_append {name u : Text} (h : HeaderText name u) (after : Text) :
    Header.read? (u ++ '(' :: after) = some ⟨name, after⟩ := by
  cases h with
  | @mk u g e v g' hu hg he hv hg' =>
    have paren : mark? '(' (g' ++ '(' :: after) = some after :=
      (mark?_eq_some_iff (by decide)).mpr ⟨g', hg', rfl⟩
    have stop : Clear isNameChar (g' ++ '(' :: after) := by
      cases g' with
      | nil => exact clear_cons.mpr (by decide)
      | cons c g' => exact clear_cons.mpr (isNameChar_of_isBlank (hg' c (by simp)))
    have dot : Clear (· = '.') (skipBlanks (g' ++ '(' :: after)) := by
      rw [skipBlanks_append hg' (clear_cons.mpr (by decide))]
      exact clear_cons.mpr (by decide)
    have named : qualifiedName? (v ++ (g' ++ '(' :: after)) = some (name, g' ++ '(' :: after) :=
      qualifiedName?_append hv stop dot
    have start : phrase? ["create", "table"] (u ++ (g ++ (e ++ (v ++ (g' ++ '(' :: after))))) =
        some (g ++ (e ++ (v ++ (g' ++ '(' :: after)))) := phrase?_append hu (by decide)
    have nameClear : Clear isBlank (v ++ (g' ++ '(' :: after)) := hv.clear_isBlank
    -- with no guard written, the guard's reader has to fail on the name
    have guard : Clear isBlank (e ++ (v ++ (g' ++ '(' :: after))) ∧
        (ifNotExists? (e ++ (v ++ (g' ++ '(' :: after)))).getD (e ++ (v ++ (g' ++ '(' :: after)))
          = v ++ (g' ++ '(' :: after) := by
      rcases he with rfl | ⟨i, gap, hi, hgap, rfl⟩
      · refine ⟨nameClear, ?_⟩
        cases absent : ifNotExists? (v ++ (g' ++ '(' :: after)) with
        | none => rw [List.nil_append, absent, Option.getD_none]
        | some r =>
          have clash := mark?_of_ifNotExists? absent
          simp [named, paren] at clash
      · rw [ifNotExists?_append hi hgap nameClear, List.append_assoc]
        exact ⟨hi.clear_isBlank (by decide), rfl⟩
    have gap : blanks? (g ++ (e ++ (v ++ (g' ++ '(' :: after)))) =
        some (e ++ (v ++ (g' ++ '(' :: after))) :=
      blanks?_eq_some_iff.mpr ⟨g, hg, rfl, guard.1⟩
    simp only [List.append_assoc, Header.read?, bind, start, gap, Option.bind_some, guard.2, named,
      paren, pure]

theorem Header.read?_sound {header : Header} (h : Header.read? s = some header) :
    ∃ u, HeaderText header.name u ∧ s = u ++ '(' :: header.after := by
  simp only [Header.read?, bind, Option.bind_eq_some_iff, pure, Option.some.injEq] at h
  obtain ⟨a, readStart, b, readGap, ⟨name, c⟩, readName, after, readMark, rfl⟩ := h
  obtain ⟨u, hu, rfl⟩ := phrase?_sound readStart
  obtain ⟨g, hg, rfl, -⟩ := blanks?_eq_some_iff.mp readGap
  obtain ⟨v, hv, cut⟩ := qualifiedName?_sound readName
  obtain ⟨g', hg', rfl⟩ := (mark?_eq_some_iff (by decide)).mp readMark
  obtain ⟨e, he, same⟩ : ∃ e, GuardText e ∧ b = e ++ (ifNotExists? b).getD b := by
    cases present : ifNotExists? b with
    | none => exact ⟨[], .inl rfl, rfl⟩
    | some r =>
      obtain ⟨i, gap, hi, hgap, rfl⟩ := ifNotExists?_sound present
      exact ⟨i ++ gap, .inr ⟨i, gap, hi, hgap, rfl⟩, rfl⟩
  refine ⟨u ++ g ++ e ++ v ++ g', .mk hu hg he hv hg', ?_⟩
  rw [same, cut]
  simp

/-- The reader takes a header and its parenthesis off the front of a text, and takes
nothing else. -/
theorem Header.read?_eq_some_iff {header : Header} :
    Header.read? s = some header ↔
      ∃ u, HeaderText header.name u ∧ s = u ++ '(' :: header.after := by
  constructor
  · exact Header.read?_sound
  · rintro ⟨u, hu, rfl⟩
    exact Header.read?_append hu header.after

-- ---------------------------------------------------------------------------
-- The characters of a header
-- ---------------------------------------------------------------------------

def isHeaderChar (c : Char) : Bool := isNameChar c || isBlank c || c = '.'

theorem isHeaderChar_of_phrase (h : PhraseText words u) (hw : ∀ word ∈ words, IsKeyword word)
    (hc : c ∈ u) : isHeaderChar c = true := by
  induction h with
  | nil => simp at hc
  | @last word u hu =>
    have := ((hw word (by simp)).isWord hu).2 c hc
    simp [isHeaderChar, isNameChar, this]
  | @cons word next more u g v hu hg hv ih =>
    simp only [List.append_assoc, List.mem_append] at hc
    rcases hc with hc | hc | hc
    · have := ((hw word (by simp)).isWord hu).2 c hc
      simp [isHeaderChar, isNameChar, this]
    · simp [isHeaderChar, hg.2 c hc]
    · exact ih (fun word mem => hw word (List.mem_cons_of_mem _ mem)) hc

theorem isHeaderChar_of_qualified (h : QualifiedText name u) (hc : c ∈ u) :
    isHeaderChar c = true := by
  cases h with
  | bare hn => simp [isHeaderChar, hn.mem hc]
  | qualified hv hg hg' hn =>
    simp only [List.append_assoc, List.mem_append, List.mem_cons] at hc
    rcases hc with hc | hc | rfl | hc | hc
    · simp [isHeaderChar, hv.mem hc]
    · simp [isHeaderChar, hg c hc]
    · simp [isHeaderChar]
    · simp [isHeaderChar, hg' c hc]
    · simp [isHeaderChar, hn.mem hc]

theorem isHeaderChar_of_header (h : HeaderText name u) (hc : c ∈ u) : isHeaderChar c = true := by
  cases h with
  | mk hu hg he hv hg' =>
    simp only [List.append_assoc, List.mem_append] at hc
    rcases hc with hc | hc | hc | hc | hc
    · exact isHeaderChar_of_phrase hu (by decide) hc
    · simp [isHeaderChar, hg.2 c hc]
    · rcases he with rfl | ⟨i, gap, hi, hgap, rfl⟩
      · simp at hc
      · rcases List.mem_append.mp hc with hc | hc
        · exact isHeaderChar_of_phrase hi (by decide) hc
        · simp [isHeaderChar, hgap.2 c hc]
    · exact isHeaderChar_of_qualified hv hc
    · simp [isHeaderChar, hg' c hc]

theorem HeaderText.not_mem (h : HeaderText name u) (hd : isHeaderChar d = false) : d ∉ u := by
  intro hc
  simp [isHeaderChar_of_header h hc] at hd

theorem HeaderText.isWord (h : HeaderText name u) : Text.IsWord name := by
  cases h with
  | mk _ _ _ hv _ => exact hv.isWord

theorem HeaderText.ne_nil (h : HeaderText name u) : u ≠ [] := by
  cases h with
  | mk _ _ _ hv _ => simp [hv.ne_nil]

theorem Header.read?_of_head (h : isWord c = false) (s : Text) : Header.read? (c :: s) = none := by
  have none : phrase? ["create", "table"] (c :: s) = none := phrase?_of_head (by decide) h s
  simp only [Header.read?, none, bind, Option.bind_none]

theorem Header.read?_extend {header : Header} (h : Header.read? s = some header) (t : Text) :
    Header.read? (s ++ t) = some ⟨header.name, header.after ++ t⟩ := by
  obtain ⟨u, hu, rfl⟩ := Header.read?_sound h
  rw [List.append_assoc, List.cons_append]
  exact Header.read?_append hu _

end SchemaChart
