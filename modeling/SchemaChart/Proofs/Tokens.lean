import SchemaChart.Diagram.Graph
import SchemaChart.Proofs.Readers

/-!
# Tokens of the DOT language

DOT text is read by its own lexical rules: a bare word or numeral stands for itself, a
string ends at the first quote that does not follow a backslash, and in it a backslash in
front of a quote is left out. What the writer of identifiers makes of a text is read back
as that text exactly if the text is `Legible` (`Token.value_read?_iff`).
-/

namespace SchemaChart.Dot

open Text

/-- An identifier as it stands in DOT text. -/
inductive Token
  | bare (word : Text)
  | quoted (body : Text)
  deriving DecidableEq, Repr

/-- What the inside of a string stands for. -/
def unescape : Text → Text
  | [] => []
  | c :: rest =>
    if c = '\\' ∧ rest.head? = some '\x22' then unescape rest else c :: unescape rest

def Token.value : Token → Text
  | .bare word => word
  | .quoted body => unescape body

/-- The inside of a string that is open, and what follows it; `slashed` tells whether a
backslash stands just before. A string ends in its own line. -/
def stringBody? (slashed : Bool) : Text → Option (Text × Text)
  | [] => none
  | c :: rest =>
    if c = '\n' then none
    else if c = '\x22' ∧ slashed = false then some ([], rest)
    else (stringBody? (c = '\\') rest).map fun read => (c :: read.1, read.2)

/-- Characters beyond ASCII count as letters. -/
def isLetter (c : Char) : Bool := c.isAlpha || c = '_' || 0x80 ≤ c.toNat

def isLetterOrDigit (c : Char) : Bool := isLetter c || c.isDigit

/-- Digits with an optional point; at least one digit. -/
def unsigned? (s : Text) : Option (Text × Text) :=
  let whole := s.takeWhile Char.isDigit
  match s.dropWhile Char.isDigit with
  | [] => if whole = [] then none else some (whole, [])
  | c :: rest =>
    if c = '.' then
      let places := rest.takeWhile Char.isDigit
      if whole = [] ∧ places = [] then none
      else some (whole ++ '.' :: places, rest.dropWhile Char.isDigit)
    else if whole = [] then none else some (whole, c :: rest)

def numeral? : Text → Option (Text × Text)
  | [] => none
  | c :: rest =>
    if c = '-' then (unsigned? rest).map fun read => ('-' :: read.1, read.2)
    else unsigned? (c :: rest)

/-- Reads one identifier; markup is none. -/
def Token.read? : Text → Option (Token × Text)
  | [] => none
  | c :: rest =>
    if c = '\x22' then (stringBody? false rest).map fun read => (.quoted read.1, read.2)
    else if isLetter c then
      let word := c :: rest.takeWhile isLetterOrDigit
      if isKeyword word then none else some (.bare word, rest.dropWhile isLetterOrDigit)
    else (numeral? (c :: rest)).map fun read => (.bare read.1, read.2)

/-- The token that a text is written as. -/
def token (s : Text) : Token := if isBare s then .bare s else .quoted (escapeQuotes false s)

/-- How many backslashes stand at the end of a text. -/
def slashes (s : Text) : Nat := (s.reverse.takeWhile (· = '\\')).length

/-- A text of one line that is no markup, has only even numbers of backslashes in front of
its quotes, and none at its end. -/
structure Legible (s : Text) : Prop where
  line : '\n' ∉ s
  plain : isMarkup s = false
  even : ∀ a b, s = a ++ '\x22' :: b → slashes a % 2 = 0
  ends : slashes s = 0

/-- What makes a text without quotes legible. -/
def Unquoted (s : Text) : Prop :=
  '\n' ∉ s ∧ '\x22' ∉ s ∧ s.head? ≠ some '<' ∧ s.getLast? ≠ some '\\'

instance (s : Text) : Decidable (Unquoted s) := by
  unfold Unquoted
  infer_instance

-- ---------------------------------------------------------------------------
-- Backslashes
-- ---------------------------------------------------------------------------

@[simp] theorem slashes_nil : slashes [] = 0 := rfl

@[simp] theorem slashes_concat (s : Text) (c : Char) :
    slashes (s ++ [c]) = if c = '\\' then slashes s + 1 else 0 := by
  rw [slashes, List.reverse_concat, List.takeWhile_cons]
  by_cases hc : c = '\\'
  · simp [hc, slashes]
  · simp [hc]

theorem slashes_eq_zero_iff (s : Text) : slashes s = 0 ↔ s.getLast? ≠ some '\\' := by
  rcases List.eq_nil_or_concat' s with rfl | ⟨t, c, rfl⟩
  · simp
  · by_cases slash : c = '\\' <;> simp [slash]

theorem unescape_cons (h : ¬(c = '\\' ∧ s.head? = some '\x22')) :
    unescape (c :: s) = c :: unescape s := if_neg h

theorem unescape_slash_quote (s : Text) :
    unescape ('\\' :: '\x22' :: s) = '\x22' :: unescape s := by
  rw [unescape, if_pos ⟨rfl, rfl⟩, unescape_cons (by simp)]

theorem length_unescape_cons_le (c : Char) (s : Text) :
    (unescape (c :: s)).length ≤ (unescape s).length + 1 := by
  rw [unescape]
  split
  · exact Nat.le_succ _
  · exact Nat.le_refl _

/-- What the writer puts out for one character. -/
theorem escapeQuotes_cons (escaped : Bool) (c : Char) (s : Text) :
    escapeQuotes escaped (c :: s) =
      if c = '\\' then c :: escapeQuotes (!escaped) s
      else if c = '\x22' ∧ escaped = false then '\\' :: c :: escapeQuotes false s
      else c :: escapeQuotes false s := by
  rw [escapeQuotes]
  cases escaped <;> simp

theorem head?_escapeQuotes (escaped : Bool) (s : Text) :
    (escapeQuotes escaped s).head? = some '\x22' ↔ escaped = true ∧ s.head? = some '\x22' := by
  cases s with
  | nil => simp [escapeQuotes]
  | cons c s =>
    rw [escapeQuotes_cons]
    split
    · next slash => simp [slash]
    · split
      · next quote => simp [quote.2]
      · next other =>
        simp only [List.head?_cons, Option.some.injEq]
        constructor
        · intro hc
          exact ⟨by simpa using fun h => other ⟨hc, h⟩, hc⟩
        · exact And.right

theorem length_unescape_escapeQuotes (escaped : Bool) (s : Text) :
    (unescape (escapeQuotes escaped s)).length ≤ s.length := by
  induction s generalizing escaped with
  | nil => simp [escapeQuotes, unescape]
  | cons c s ih =>
    rw [escapeQuotes_cons, List.length_cons]
    split
    · exact (length_unescape_cons_le _ _).trans (Nat.succ_le_succ (ih _))
    · split
      · next quote =>
        rw [quote.1, unescape_slash_quote, List.length_cons]
        exact Nat.succ_le_succ (ih _)
      · exact (length_unescape_cons_le _ _).trans (Nat.succ_le_succ (ih _))

/-- Every quote but one that begins the text stands behind an even number of backslashes,
those of the text in front counted. -/
def EvenQuotes (front s : Text) : Prop :=
  ∀ a b, s = a ++ '\x22' :: b → a ≠ [] → slashes (front ++ a) % 2 = 0

theorem evenQuotes_cons : EvenQuotes front (c :: s) ↔
    (s.head? = some '\x22' → slashes (front ++ [c]) % 2 = 0) ∧ EvenQuotes (front ++ [c]) s := by
  constructor
  · intro h
    refine ⟨fun first => ?_, fun a b same _ => ?_⟩
    · obtain ⟨b, rfl⟩ := List.head?_eq_some_iff.mp first
      exact h [c] b rfl (by simp)
    · simpa using h (c :: a) b (by rw [same, List.cons_append]) (by simp)
  · rintro ⟨here, later⟩ a b same ne
    obtain ⟨d, a, rfl⟩ := List.exists_cons_of_ne_nil ne
    obtain ⟨rfl, cut⟩ := List.cons.inj same
    cases a with
    | nil => exact here (by rw [cut]; rfl)
    | cons e a => simpa using later (e :: a) b cut (by simp)

/-- The writer's inside of a string stands for the text if its quotes are even. -/
theorem unescape_escapeQuotes_iff (front s : Text) :
    unescape (escapeQuotes (slashes front % 2 = 1) s) = s ↔ EvenQuotes front s := by
  induction s generalizing front with
  | nil => simp [escapeQuotes, unescape, EvenQuotes]
  | cons c s ih =>
    have step := ih (front ++ [c])
    rw [evenQuotes_cons, ← step, escapeQuotes_cons]
    by_cases slash : c = '\\'
    · have flip : (!decide (slashes front % 2 = 1)) = decide (slashes (front ++ [c]) % 2 = 1) := by
        rw [slashes_concat, if_pos slash, ← decide_not, decide_eq_decide]
        omega
      rw [if_pos slash, flip]
      by_cases lost : s.head? = some '\x22' ∧ slashes (front ++ [c]) % 2 = 1
      · -- the backslash is read as part of the quote behind it
        have first := (head?_escapeQuotes (slashes (front ++ [c]) % 2 = 1) s).mpr
          ⟨decide_eq_true lost.2, lost.1⟩
        have short := length_unescape_escapeQuotes (slashes (front ++ [c]) % 2 = 1) s
        rw [unescape, if_pos ⟨slash, first⟩]
        constructor
        · intro same
          have := congrArg List.length same
          simp only [List.length_cons] at this
          omega
        · rintro ⟨even, -⟩
          have := even lost.1
          omega
      · have kept : ¬(c = '\\' ∧ (escapeQuotes (slashes (front ++ [c]) % 2 = 1) s).head? =
            some '\x22') := by
          rw [head?_escapeQuotes, decide_eq_true_iff]
          exact fun h => lost h.2.symm
        rw [unescape_cons kept, List.cons.injEq, eq_self, true_and]
        refine (and_iff_right fun first => ?_).symm
        have := not_and.mp lost first
        omega
    · have fresh : slashes (front ++ [c]) = 0 := by rw [slashes_concat, if_neg slash]
      have start : decide (slashes (front ++ [c]) % 2 = 1) = false := by simp [fresh]
      have written : unescape
          (if c = '\\' then c :: escapeQuotes (!decide (slashes front % 2 = 1)) s
          else if c = '\x22' ∧ decide (slashes front % 2 = 1) = false then
            '\\' :: c :: escapeQuotes false s
          else c :: escapeQuotes false s) = c :: unescape (escapeQuotes false s) := by
        rw [if_neg slash]
        split
        · next quote => rw [quote.1, unescape_slash_quote]
        · exact unescape_cons fun h => slash h.1
      rw [written, start, fresh, List.cons.injEq, eq_self, true_and]
      exact (and_iff_right fun _ => rfl).symm

-- ---------------------------------------------------------------------------
-- Strings
-- ---------------------------------------------------------------------------

theorem stringBody?_of_notMem (h : '\x22' ∉ s) (slashed : Bool) : stringBody? slashed s = none := by
  induction s generalizing slashed with
  | nil => rfl
  | cons c s ih =>
    obtain ⟨hc, hs⟩ := List.ne_and_not_mem_of_not_mem_cons h
    rw [stringBody?]
    split
    · rfl
    · rw [if_neg fun quote => hc quote.1.symm, ih hs]
      rfl

theorem stringBody?_cons (hc : c ≠ '\n') (open_ : ¬(c = '\x22' ∧ slashed = false)) (s : Text) :
    stringBody? slashed (c :: s) =
      (stringBody? (c = '\\') s).map fun read => (c :: read.1, read.2) := by
  rw [stringBody?, if_neg hc, if_neg open_]

/-- What is read when the inside of a string has been passed and its closing quote follows:
the string is over, or it goes on because of a backslash in front of the quote. -/
def closeString (slashed : Bool) (inside rest : Text) : Option (Text × Text) :=
  if slashed then (stringBody? false rest).map fun read => (inside ++ '\x22' :: read.1, read.2)
  else some (inside, rest)

theorem closeString_cons (slashed : Bool) (c : Char) (inside rest : Text) :
    (closeString slashed inside rest).map (fun read => (c :: read.1, read.2)) =
      closeString slashed (c :: inside) rest := by
  cases slashed
  · rfl
  · simp [closeString, Function.comp_def]

/-- Whether a backslash stands at the end of a text, or in front of it if it is empty. -/
def endsSlashed (slashed : Bool) (s : Text) : Bool :=
  (s.getLast?.map fun c => decide (c = '\\')).getD slashed

theorem endsSlashed_cons (slashed : Bool) (c : Char) (s : Text) :
    endsSlashed slashed (c :: s) = endsSlashed (c = '\\') s := by
  rw [endsSlashed, endsSlashed, List.getLast?_cons]
  cases s.getLast? <;> rfl

theorem endsSlashed_iff (s : Text) : endsSlashed false s = true ↔ slashes s ≠ 0 := by
  rw [ne_eq, slashes_eq_zero_iff, not_not, endsSlashed]
  cases s.getLast? <;> simp

/-- Every quote inside the writer's string follows a backslash, so only the end counts. -/
theorem stringBody?_escapeQuotes (line : '\n' ∉ s) (escaped slashed : Bool)
    (odd : escaped = true → slashed = true) (rest : Text) :
    stringBody? slashed (escapeQuotes escaped s ++ '\x22' :: rest) =
      closeString (endsSlashed slashed s) (escapeQuotes escaped s) rest := by
  induction s generalizing escaped slashed with
  | nil => cases slashed <;> simp [escapeQuotes, endsSlashed, closeString, stringBody?]
  | cons c s ih =>
    obtain ⟨hc, hs⟩ := List.ne_and_not_mem_of_not_mem_cons line
    have step (before after : Bool) (open_ : ¬(c = '\x22' ∧ before = false))
        (odd : after = true → decide (c = '\\') = true) :
        stringBody? before (c :: (escapeQuotes after s ++ '\x22' :: rest)) =
          closeString (endsSlashed (c = '\\') s) (c :: escapeQuotes after s) rest := by
      rw [stringBody?_cons hc.symm open_, ih hs after _ odd, closeString_cons]
    rw [endsSlashed_cons, escapeQuotes_cons]
    split
    · next slash => exact step _ _ (by simp [slash]) (by simp [slash])
    · split
      · next quote =>
        have first : stringBody? slashed ('\\' :: c :: (escapeQuotes false s ++ '\x22' :: rest)) =
            _ := stringBody?_cons (by decide) (by simp) _
        rw [← closeString_cons, ← step true false (by simp) (by simp)]
        exact first
      · next other =>
        refine step _ _ ?_ (by simp)
        rintro ⟨quote, open_⟩
        refine other ⟨quote, ?_⟩
        rw [Bool.eq_false_iff]
        intro follows
        simp [odd follows] at open_

-- ---------------------------------------------------------------------------
-- Bare words and numerals
-- ---------------------------------------------------------------------------

theorem isLetter_of_isWordStart (h : isWordStart c = true) : isLetter c = true := by
  simp only [isWordStart, Bool.or_eq_true, decide_eq_true_eq] at h
  simp [isLetter, h]

theorem isLetterOrDigit_of_isAlphanum (h : (c.isAlphanum || decide (c = '_')) = true) :
    isLetterOrDigit c = true := by
  simp only [Char.isAlphanum, Bool.or_eq_true] at h
  rcases h with (h | h) | h
  · simp [isLetterOrDigit, isLetter, h]
  · simp [isLetterOrDigit, h]
  · simp [isLetterOrDigit, isLetter, h]

theorem read?_of_isBareWord (h : isBareWord s = true) (hr : Clear isLetterOrDigit rest) :
    Token.read? (s ++ rest) = if isKeyword s then none else some (.bare s, rest) := by
  cases s with
  | nil => simp [isBareWord] at h
  | cons c s =>
    simp only [isBareWord, Bool.and_eq_true, List.all_eq_true] at h
    have letters : ∀ d ∈ s, isLetterOrDigit d = true := fun d mem =>
      isLetterOrDigit_of_isAlphanum (h.2 d mem)
    have start := isLetter_of_isWordStart h.1
    have unquoted : c ≠ '\x22' := by
      rintro rfl
      exact absurd h.1 (by decide)
    rw [List.cons_append, Token.read?, if_neg unquoted, if_pos start, takeWhile_run letters hr,
      dropWhile_run letters hr]

/-- Digits, or digits on one side of a point at least. -/
theorem isUnsigned_cases (h : isUnsigned s = true) :
    (s ≠ [] ∧ ∀ c ∈ s, c.isDigit = true) ∨
      ∃ whole places, s = whole ++ '.' :: places ∧ (∀ c ∈ whole, c.isDigit = true) ∧
        (∀ c ∈ places, c.isDigit = true) ∧ ¬(whole = [] ∧ places = []) := by
  have digits : ∀ c ∈ s.takeWhile Char.isDigit, c.isDigit = true :=
    fun c mem => List.mem_takeWhile_imp mem
  have cut : s.takeWhile Char.isDigit ++ s.dropWhile Char.isDigit = s :=
    List.takeWhile_append_dropWhile
  unfold isUnsigned at h
  cases behind : s.dropWhile Char.isDigit with
  | nil =>
    rw [behind, List.append_nil] at cut
    rw [behind, cut] at h
    rw [cut] at digits
    exact .inl ⟨by simpa using h, digits⟩
  | cons c places =>
    rw [behind] at h cut
    simp only [Bool.and_eq_true, decide_eq_true_eq, List.all_eq_true, Bool.not_eq_true',
      Bool.and_eq_false_iff, List.isEmpty_eq_false_iff] at h
    obtain ⟨⟨rfl, hp⟩, one⟩ := h
    exact .inr ⟨_, places, cut.symm, digits, hp, by tauto⟩

theorem unsigned?_append (h : isUnsigned s = true) (hd : Clear Char.isDigit rest)
    (hp : Clear (· = '.') rest) : unsigned? (s ++ rest) = some (s, rest) := by
  rcases isUnsigned_cases h with ⟨ne, digits⟩ | ⟨whole, places, rfl, hw, hpl, one⟩
  · rw [unsigned?, takeWhile_run digits hd, dropWhile_run digits hd]
    cases rest with
    | nil => simp [ne]
    | cons c rest =>
      have other : c ≠ '.' := by simpa using hp
      simp [ne, other]
  · have point : Clear Char.isDigit ('.' :: (places ++ rest)) := clear_cons.mpr (by decide)
    rw [List.append_assoc, List.cons_append, unsigned?, takeWhile_run hw point,
      dropWhile_run hw point]
    simp [takeWhile_run hpl hd, dropWhile_run hpl hd, one]

theorem exists_start_of_isUnsigned (h : isUnsigned s = true) :
    ∃ c t, s = c :: t ∧ (c.isDigit = true ∨ c = '.') := by
  rcases isUnsigned_cases h with ⟨ne, digits⟩ | ⟨whole, places, rfl, hw, -, -⟩
  · obtain ⟨c, t, rfl⟩ := List.exists_cons_of_ne_nil ne
    exact ⟨c, t, rfl, .inl (digits c List.mem_cons_self)⟩
  · cases whole with
    | nil => exact ⟨'.', places, rfl, .inr rfl⟩
    | cons c whole => exact ⟨c, whole ++ '.' :: places, rfl, .inl (hw c List.mem_cons_self)⟩

/-- The first character of an unsigned numeral begins nothing else. -/
theorem unsignedStart (h : c.isDigit = true ∨ c = '.') :
    isLetter c = false ∧ c ≠ '\x22' ∧ c ≠ '-' := by
  rcases h with digit | rfl
  · have bounds : 48 ≤ c.toNat ∧ c.toNat ≤ 57 := by
      simpa [Char.isDigit, UInt32.le_iff_toNat_le] using digit
    rw [← Char.ofNat_toNat c]
    generalize c.toNat = n at bounds
    obtain ⟨low, high⟩ := bounds
    interval_cases n <;> decide
  · decide

theorem numeral?_append (h : isNumeral s = true) (hd : Clear Char.isDigit rest)
    (hp : Clear (· = '.') rest) : numeral? (s ++ rest) = some (s, rest) := by
  unfold isNumeral at h
  split at h
  · simp [numeral?, unsigned?_append h hd hp]
  · obtain ⟨c, t, rfl, start⟩ := exists_start_of_isUnsigned h
    have := unsigned?_append h hd hp
    rwa [List.cons_append, numeral?, if_neg (unsignedStart start).2.2]

theorem read?_of_isNumeral (h : isNumeral s = true) (hd : Clear Char.isDigit rest)
    (hp : Clear (· = '.') rest) : Token.read? (s ++ rest) = some (.bare s, rest) := by
  have numeral := numeral?_append h hd hp
  obtain ⟨c, t, rfl, notLetter, notQuote⟩ :
      ∃ c t, s = c :: t ∧ isLetter c = false ∧ c ≠ '\x22' := by
    unfold isNumeral at h
    split at h
    · next t => exact ⟨'-', t, rfl, by decide⟩
    · obtain ⟨c, t, rfl, start⟩ := exists_start_of_isUnsigned h
      exact ⟨c, t, rfl, (unsignedStart start).1, (unsignedStart start).2.1⟩
  rw [List.cons_append] at numeral ⊢
  simp [Token.read?, notQuote, notLetter, numeral]

theorem letters_of_isBare (h : isBareWord s = true ∨ isNumeral s = true) :
    ∀ c ∈ s, isLetterOrDigit c = true ∨ c = '.' ∨ c = '-' := by
  rcases h with word | numeral
  · cases s with
    | nil => simp
    | cons c s =>
      simp only [isBareWord, Bool.and_eq_true, List.all_eq_true] at word
      refine List.forall_mem_cons.mpr ⟨.inl ?_, fun d mem => .inl ?_⟩
      · simp [isLetterOrDigit, isLetter_of_isWordStart word.1]
      · exact isLetterOrDigit_of_isAlphanum (word.2 d mem)
  · have digit {c : Char} (h : c.isDigit = true) : isLetterOrDigit c = true := by
      simp [isLetterOrDigit, h]
    have unsigned {s : Text} (h : isUnsigned s = true) :
        ∀ c ∈ s, isLetterOrDigit c = true ∨ c = '.' ∨ c = '-' := by
      rcases isUnsigned_cases h with ⟨-, digits⟩ | ⟨whole, places, rfl, hw, hp, -⟩
      · exact fun c mem => .inl (digit (digits c mem))
      · refine List.forall_mem_append.mpr ⟨fun c mem => .inl (digit (hw c mem)), ?_⟩
        exact List.forall_mem_cons.mpr ⟨.inr (.inl rfl), fun c mem => .inl (digit (hp c mem))⟩
    unfold isNumeral at numeral
    split at numeral
    · exact List.forall_mem_cons.mpr ⟨.inr (.inr rfl), unsigned numeral⟩
    · exact unsigned numeral

-- ---------------------------------------------------------------------------
-- Identifiers
-- ---------------------------------------------------------------------------

theorem dropLineFeed_of_notMem (line : '\n' ∉ s) : dropLineFeed s = s :=
  if_neg fun last => line (List.mem_of_getLast? last)

theorem isBare_cases (line : '\n' ∉ s) (h : isBare s = true) :
    (isBareWord s = true ∨ isNumeral s = true) ∧ isKeyword s = false := by
  simpa [isBare, dropLineFeed_of_notMem line] using h

theorem Unquoted.legible (h : Unquoted s) : Legible s := by
  obtain ⟨line, quote, first, last⟩ := h
  refine ⟨line, by simp [isMarkup, first], fun a b same => absurd ?_ quote,
    (slashes_eq_zero_iff s).mpr last⟩
  rw [same]
  exact List.mem_append_right a List.mem_cons_self

theorem unquoted_of_notMem (line : '\n' ∉ s) (quote : '\x22' ∉ s) (angle : '<' ∉ s)
    (slash : '\\' ∉ s) : Unquoted s :=
  ⟨line, quote, fun first => angle (List.mem_of_mem_head? first),
    fun last => slash (List.mem_of_getLast? last)⟩

theorem unquoted_of_isWord (h : IsWord w) : Unquoted w := by
  have absent {c : Char} (hc : isWord c = false) : c ∉ w := fun mem => by simp [h.2 c mem] at hc
  exact unquoted_of_notMem (absent (by decide)) (absent (by decide)) (absent (by decide))
    (absent (by decide))

theorem legible_of_isWord (h : IsWord w) : Legible w := (unquoted_of_isWord h).legible

theorem legible_of_isBare (line : '\n' ∉ s) (h : isBare s = true) : Legible s := by
  have letters := letters_of_isBare (isBare_cases line h).1
  have absent (c : Char) (hc : ¬(isLetterOrDigit c = true ∨ c = '.' ∨ c = '-')) : c ∉ s :=
    fun mem => hc (letters c mem)
  exact (unquoted_of_notMem line (absent _ (by decide)) (absent _ (by decide))
    (absent _ (by decide))).legible

theorem identifier_of_isMarkup (line : '\n' ∉ s) (h : isMarkup s = true) : identifier s = s := by
  rw [identifier, dropLineFeed_of_notMem line, h, Bool.true_or, if_pos rfl]

theorem read?_identifier (line : '\n' ∉ s) (plain : isMarkup s = false) (ends : slashes s = 0)
    (hr : Clear isLetterOrDigit rest) (hp : Clear (· = '.') rest) :
    Token.read? (identifier s ++ rest) = some (token s, rest) := by
  rw [identifier, token, dropLineFeed_of_notMem line, plain, Bool.false_or]
  split
  · next bare =>
    obtain ⟨word | numeral, keyword⟩ := isBare_cases line bare
    · rw [read?_of_isBareWord word hr, if_neg (by simp [keyword])]
    · exact read?_of_isNumeral numeral (hr.mono fun c digit => by simp [isLetterOrDigit, digit]) hp
  · have closed : endsSlashed false s = false := by
      rw [Bool.eq_false_iff, ne_eq, endsSlashed_iff, not_not]
      exact ends
    have body := stringBody?_escapeQuotes line false false (by simp) rest
    simp [Token.read?, body, closed, closeString]

/-- Markup is no token, and with a backslash at its end a text runs into what follows. -/
theorem read?_identifier_eq_none (line : '\n' ∉ s) (h : isMarkup s = true ∨ slashes s ≠ 0)
    (last : '\x22' ∉ rest) : Token.read? (identifier s ++ rest) = none := by
  cases plain : isMarkup s with
  | true =>
    rw [identifier_of_isMarkup line plain]
    simp only [isMarkup, Bool.and_eq_true, decide_eq_true_eq] at plain
    obtain ⟨t, rfl⟩ := List.head?_eq_some_iff.mp plain.1.2
    rfl
  | false =>
    have ends : slashes s ≠ 0 := by simpa [plain] using h
    have quoted : ¬(isBare s = true) := fun bare => ends (legible_of_isBare line bare).ends
    rw [identifier, dropLineFeed_of_notMem line, plain, Bool.false_or, if_neg quoted]
    have body := stringBody?_escapeQuotes line false false (by simp) rest
    simp [Token.read?, body, (endsSlashed_iff s).mpr ends, closeString, stringBody?_of_notMem last]

theorem value_token_iff (line : '\n' ∉ s) (plain : isMarkup s = false) (ends : slashes s = 0) :
    (token s).value = s ↔ Legible s := by
  rw [token]
  split
  · next bare => exact iff_of_true rfl (legible_of_isBare line bare)
  · refine (unescape_escapeQuotes_iff [] s).trans ⟨fun even => ⟨line, plain, ?_, ends⟩, ?_⟩
    · intro a b same
      by_cases empty : a = []
      · rw [empty]
        rfl
      · exact even a b same empty
    · exact fun h a b same _ => h.even a b same

/-- What the writer makes of a text is read back as that text exactly if it is legible. -/
theorem value_read?_iff (line : '\n' ∉ s) (last : '\x22' ∉ rest)
    (hr : Clear isLetterOrDigit rest) (hp : Clear (· = '.') rest) :
    (Token.read? (identifier s ++ rest)).map (·.1.value) = some s ↔ Legible s := by
  by_cases h : isMarkup s = false ∧ slashes s = 0
  · rw [read?_identifier line h.1 h.2 hr hp]
    simpa using value_token_iff line h.1 h.2
  · rw [read?_identifier_eq_none line (by simpa [or_iff_not_imp_left] using h) last]
    exact iff_of_false (by simp) fun legible => h ⟨legible.plain, legible.ends⟩

theorem Legible.value_token (h : Legible s) : (token s).value = s :=
  (value_token_iff h.line h.plain h.ends).mpr h

end SchemaChart.Dot
