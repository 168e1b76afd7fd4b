import SchemaChart.Proofs.Header
import SchemaChart.Schema.Reading

/-!
# How tables are written

The texts that a list of tables may be printed as. Every name stands between two marks
of one kind, keywords come in any case, and a reference is written at the end of its
column or as a clause of its own anywhere in the table (`Layout`).
-/

namespace SchemaChart

open Text

/-- The words with single spaces between them, in capitals and small letters mixed. -/
def Spelled (words : List Text) (s : Text) : Prop := s.map Char.toLower = joinWith [' '] words

instance (words : List Text) (s : Text) : Decidable (Spelled words s) :=
  inferInstanceAs (Decidable (_ = _))

/-- A name between two plain marks of one kind. -/
def QuotedText (name s : Text) : Prop := ∃ q, isQuote q = true ∧ s = q :: (name ++ [q])

/-- A word, perhaps with a group of words and commas behind it. -/
inductive TypeText : Text → Prop
  | plain : IsWord w → TypeText w
  | sized : IsWord w → (∀ c ∈ p, isWord c = true ∨ c = ',') → TypeText (w ++ '(' :: (p ++ [')']))

/-- A column that can be printed and read again. -/
structure Column.Printable (c : Column) : Prop where
  word : Text.IsWord c.name
  typed : TypeText c.type
  capital : upper c.type = c.type
  required : c.primaryKey = true → c.nullable = false
  target : ∀ t, c.references = some t → Text.IsWord t.table ∧ Text.IsWord t.column

-- ---------------------------------------------------------------------------
-- Clauses
-- ---------------------------------------------------------------------------

/-- `REFERENCES r (x)`. -/
inductive TargetText (t : ColumnRef) : Text → Prop
  | mk : Spelled ["references"] w → QuotedText t.table r → QuotedText t.column x →
      TargetText t (w ++ ' ' :: (r ++ ' ' :: '(' :: (x ++ [')'])))

/-- What a column clause says about keys and missing values. -/
inductive FlagText (c : Column) : Text → Prop
  | key : c.primaryKey = true → Spelled ["primary", "key"] u → FlagText c (' ' :: u)
  | required : c.primaryKey = false → c.nullable = false → Spelled ["not", "null"] u →
      FlagText c (' ' :: u)
  | none : c.primaryKey = false → c.nullable = true → FlagText c []

inductive ReferenceText : Option ColumnRef → Text → Prop
  | none : ReferenceText .none []
  | some : TargetText t u → ReferenceText (.some t) (' ' :: u)

/-- The name, the type, the flags and the reference of a column. -/
inductive ColumnText (c : Column) : Text → Prop
  | mk : QuotedText c.name n → FlagText c f → ReferenceText c.references r →
      ColumnText c (n ++ ' ' :: (c.type ++ (f ++ r)))

/-- `FOREIGN KEY (c) REFERENCES r (x)`. -/
inductive KeyText (k : Key) : Text → Prop
  | mk : Spelled ["foreign", "key"] w → QuotedText k.column n → TargetText k.target t →
      KeyText k (w ++ ' ' :: '(' :: (n ++ ')' :: ' ' :: t))

inductive ClauseText : Entry → Text → Prop
  | column : ColumnText c s → ClauseText (.column c) s
  | key : KeyText k s → ClauseText (.keys [k]) s

/-- Clauses with commas between them. -/
inductive BodyText : List Entry → Text → Prop
  | nil : BodyText [] []
  | last : ClauseText e s → BodyText [e] s
  | cons : ClauseText e s → BodyText (e' :: es) r → BodyText (e :: e' :: es) (s ++ ',' :: ' ' :: r)

-- ---------------------------------------------------------------------------
-- Tables and scripts
-- ---------------------------------------------------------------------------

def Entry.ownColumns : Entry → List Column
  | .column c => [c]
  | _ => []

def Entry.ownKeys : Entry → List Key
  | .keys ks => ks
  | _ => []

/-- The relation that a column declares with its reference. -/
def Column.relations (table : Text) (c : Column) : List Relation :=
  c.references.toList.map fun target => .ofKey ⟨table, c.name⟩ target

def Entry.relations (table : Text) : Entry → List Relation
  | .column c => c.relations table
  | .keys ks => ks.map fun k => .ofKey ⟨table, k.column⟩ k.target
  | _ => []

def Column.ownKeys (c : Column) : List Key := c.references.toList.map fun t => ⟨c.name, t⟩

/-- A column whose reference is left to a key if it is one of those set apart. -/
def Column.inClause (apart : Column → Bool) (c : Column) : Column :=
  if apart c then { c with references := none } else c

/-- A table that can be printed, and the clauses to print it with: its columns in order
and, anywhere between them, one key for each reference that is set apart. -/
structure Layout where
  table : Table
  clauses : List Entry
  apart : Column → Bool
  named : Text.IsWord table.name
  distinct : (table.columns.map Column.name).Nodup
  printable : ∀ c ∈ table.columns, c.Printable
  columns_clauses : clauses.flatMap Entry.ownColumns = table.columns.map (Column.inClause apart)
  keys_clauses : (clauses.flatMap Entry.ownKeys).Perm
    ((table.columns.filter apart).flatMap Column.ownKeys)

def Layout.relations (l : Layout) : List Relation :=
  l.clauses.flatMap (Entry.relations l.table.name)

def Table.references (t : Table) : List Relation :=
  t.columns.flatMap (Column.relations t.name)

/-- `CREATE TABLE`, perhaps `IF NOT EXISTS`, perhaps a qualifier, a name and the body. -/
inductive TableText (l : Layout) : Text → Prop
  | mk : Spelled ["create", "table"] u →
      (e = [] ∨ ∃ v, Spelled ["if", "not", "exists"] v ∧ e = v ++ [' ']) →
      (d = [] ∨ ∃ other v, Text.IsWord other ∧ QuotedText other v ∧ d = v ++ ['.']) →
      QuotedText l.table.name n → BodyText l.clauses b →
      TableText l (u ++ ' ' :: (e ++ (d ++ (n ++ ' ' :: '(' :: (b ++ [')', ';'])))))

/-- Printed tables one behind the other, with any blanks around them. -/
inductive ScriptText : List Layout → Text → Prop
  | nil : AllBlank g → ScriptText [] g
  | cons : AllBlank g → TableText l s → ScriptText ls r → ScriptText (l :: ls) (g ++ (s ++ r))

-- ---------------------------------------------------------------------------
-- Keywords and names as the readers take them
-- ---------------------------------------------------------------------------

theorem foldLetter_of_isLower {c : Char} (h : c.toLower.isLower = true) :
    foldLetter c = c.toLower := by
  have plain : ∀ d ∈ ['\u0130', '\u0131', '\u017F', '\u212A'], c ≠ d := by
    rintro d mem rfl
    have none : ∀ d ∈ ['\u0130', '\u0131', '\u017F', '\u212A'], d.toLower.isLower = false := by
      decide
    simp [none c mem] at h
  simp only [List.mem_cons, List.not_mem_nil, or_false, forall_eq_or_imp, forall_eq] at plain
  rw [foldLetter, if_neg (by simp [plain]), if_neg plain.2.2.1, if_neg plain.2.2.2]

theorem eq_space_of_toLower {c : Char} (h : c.toLower = ' ') : c = ' ' := by
  rcases toLower_cases c with ⟨low, -, moved⟩ | same
  · rw [h] at moved
    have space : ' '.toNat = 0x20 := rfl
    omega
  · exact same.symm.trans h

theorem map_foldLetter {u word : Text} (h : u.map Char.toLower = word) (hw : IsKeyword word) :
    u.map foldLetter = word := by
  rw [← h, List.map_inj_left]
  intro c mem
  exact foldLetter_of_isLower (hw.2 c.toLower (h ▸ List.mem_map_of_mem mem))

theorem Spelled.split {word next s : Text} {more : List Text}
    (h : Spelled (word :: next :: more) s) :
    ∃ u v, s = u ++ ' ' :: v ∧ u.map Char.toLower = word ∧ Spelled (next :: more) v := by
  have parts : s.map Char.toLower = word ++ ' ' :: joinWith [' '] (next :: more) := by
    rw [h, joinWith]
    · simp
    · simp
  obtain ⟨u, t, rfl, hu, ht⟩ := List.map_eq_append_iff.mp parts
  obtain ⟨c, v, rfl, hc, hv⟩ := List.map_eq_cons_iff.mp ht
  exact ⟨u, v, by rw [eq_space_of_toLower hc], hu, hv⟩

theorem Spelled.phrase {words : List Text} {s : Text} (h : Spelled words s)
    (hw : ∀ word ∈ words, IsKeyword word) : PhraseText words s := by
  induction words generalizing s with
  | nil =>
    cases List.map_eq_nil_iff.mp h
    exact .nil
  | cons word more ih =>
    cases more with
    | nil => exact .last (map_foldLetter h (hw word (by simp)))
    | cons next more =>
      obtain ⟨u, v, rfl, hu, hv⟩ := h.split
      have rest := ih hv fun word mem => hw word (List.mem_cons_of_mem _ mem)
      simpa using PhraseText.cons (map_foldLetter hu (hw word (by simp))) gap_space rest

theorem QuotedText.name {name s : Text} (h : QuotedText name s) (hn : Text.IsWord name) :
    NameText name s := by
  obtain ⟨q, hq, rfl⟩ := h
  have mark : OptionalMark [q] := .inr ⟨q, isNameMark_of_isQuote hq, rfl⟩
  exact NameText.mk mark hn mark

-- ---------------------------------------------------------------------------
-- Entries that can be printed
-- ---------------------------------------------------------------------------

def Key.Printable (k : Key) : Prop :=
  Text.IsWord k.column ∧ Text.IsWord k.target.table ∧ Text.IsWord k.target.column

theorem Column.Printable.inClause {c : Column} (h : c.Printable) (apart : Column → Bool) :
    (c.inClause apart).Printable := by
  unfold Column.inClause
  split
  · exact { h with target := by simp }
  · exact h

theorem Column.Printable.ownKeys {c : Column} (h : c.Printable) : ∀ k ∈ c.ownKeys, k.Printable := by
  intro k mem
  obtain ⟨t, refers, rfl⟩ := List.mem_map.mp mem
  exact ⟨h.word, h.target t (Option.mem_toList.mp refers)⟩

def Entry.Printable : Entry → Prop
  | .column c => c.Printable
  | .keys ks => ∀ k ∈ ks, k.Printable
  | _ => True

theorem Layout.printable_clauses (l : Layout) : ∀ e ∈ l.clauses, e.Printable := by
  rintro (c | ks | _ | kind) mem
  · have own : c ∈ l.table.columns.map (Column.inClause l.apart) := by
      rw [← l.columns_clauses]
      exact List.mem_flatMap.mpr ⟨_, mem, by simp [Entry.ownColumns]⟩
    obtain ⟨c', mem', rfl⟩ := List.mem_map.mp own
    exact (l.printable c' mem').inClause l.apart
  · intro k hk
    have own : k ∈ (l.table.columns.filter l.apart).flatMap Column.ownKeys :=
      l.keys_clauses.mem_iff.mp (List.mem_flatMap.mpr ⟨_, mem, hk⟩)
    obtain ⟨c, mem', refers⟩ := List.mem_flatMap.mp own
    exact (l.printable c ((List.mem_filter.mp mem').1)).ownKeys k refers
  · trivial
  · trivial

-- ---------------------------------------------------------------------------
-- Properties by parts
-- ---------------------------------------------------------------------------

/-- A property of texts that clauses have because their parts have it. -/
structure Inherited (P : Text → Prop) : Prop where
  word : Text.IsWord w → P w
  quoted : QuotedText name s → Text.IsWord name → P s
  typed : TypeText s → P s
  group : P s → P ('(' :: (s ++ [')']))
  space : P a → P b → P (a ++ ' ' :: b)

section
variable {P : Text → Prop} (hP : Inherited P)
include hP

theorem Spelled.inherits {words : List Text} {s : Text} (h : Spelled words s) (hne : words ≠ [])
    (hw : ∀ word ∈ words, IsKeyword word) : P s := by
  induction words generalizing s with
  | nil => exact absurd rfl hne
  | cons first more ih =>
    have isWord : ∀ u, u.map Char.toLower = first → P u := fun u hu =>
      hP.word ((hw first (by simp)).isWord (map_foldLetter hu (hw first (by simp))))
    cases more with
    | nil => exact isWord s h
    | cons next more =>
      obtain ⟨u, v, rfl, hu, hv⟩ := h.split
      refine hP.space (isWord u hu) (ih hv (by simp) ?_)
      exact fun w mem => hw w (List.mem_cons_of_mem _ mem)

theorem TargetText.inherits {t : ColumnRef} (h : TargetText t s)
    (words : Text.IsWord t.table ∧ Text.IsWord t.column) : P s := by
  cases h with
  | mk hw hr hx =>
    have group := hP.group (hP.quoted hx words.2)
    exact hP.space (hw.inherits hP (by simp) (by decide)) (hP.space (hP.quoted hr words.1) group)

theorem FlagText.inherits {c : Column} (h : FlagText c f) (ha : P a) : P (a ++ f) := by
  cases h with
  | key _ hu => exact hP.space ha (hu.inherits hP (by simp) (by decide))
  | required _ _ hu => exact hP.space ha (hu.inherits hP (by simp) (by decide))
  | none => simpa using ha

theorem ReferenceText.inherits (h : ReferenceText o r)
    (words : ∀ t, o = .some t → Text.IsWord t.table ∧ Text.IsWord t.column) (ha : P a) :
    P (a ++ r) := by
  cases h with
  | none => simpa using ha
  | some ht => exact hP.space ha (ht.inherits hP (words _ rfl))

theorem ColumnText.inherits {c : Column} (h : ColumnText c s) (hc : c.Printable) : P s := by
  cases h with
  | mk hn hf hr =>
    have typed := hf.inherits hP (hP.typed hc.typed)
    rw [← List.append_assoc c.type]
    exact hP.space (hP.quoted hn hc.word) (hr.inherits hP hc.target typed)

theorem KeyText.inherits {k : Key} (h : KeyText k s) (hk : k.Printable) : P s := by
  cases h with
  | mk hw hn ht =>
    have group := hP.space (hP.group (hP.quoted hn hk.1)) (ht.inherits hP hk.2)
    simpa using hP.space (hw.inherits hP (by simp) (by decide)) group

theorem ClauseText.inherits (h : ClauseText e s) (he : e.Printable) : P s := by
  cases h with
  | column hc => exact hc.inherits hP he
  | key hk => exact hk.inherits hP (he _ (by simp))

end

end SchemaChart
