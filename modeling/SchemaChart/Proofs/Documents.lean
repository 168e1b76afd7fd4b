import SchemaChart.Proofs.Escapes

/-!
# Written values are read back

The reader passes over what a layout puts between the parts of a value
(`Layout.Readable`), so a value comes back from its text (`readFrom_text`) if it is plain:
it has no numbers, none of its objects has two members of one name, and it is not deeper
than the reader goes (`Plain`). Such a text is ASCII (`Plain.writesAscii`).
-/

namespace SchemaChart.Json

/-- Values without numbers, with distinct names and at most so many levels. -/
inductive Plain : Nat → Json → Prop
  | null : Plain n .null
  | bool : Plain n (.bool b)
  | string : Plain n (.string s)
  | array : (∀ item ∈ items, Plain n item) → Plain (n + 1) (.array items)
  | object : (members.map Prod.fst).Nodup → (∀ member ∈ members, Plain n member.2) →
    Plain (n + 1) (.object members)

theorem Plain.mono (h : Plain n v) (more : n ≤ m) : Plain m v := by
  induction h generalizing m with
  | null => exact .null
  | bool => exact .bool
  | string => exact .string
  | array _ ih =>
    obtain ⟨m, rfl⟩ := Nat.exists_eq_succ_of_ne_zero (by omega : m ≠ 0)
    exact .array fun item mem => ih item mem (by omega)
  | object distinct _ ih =>
    obtain ⟨m, rfl⟩ := Nat.exists_eq_succ_of_ne_zero (by omega : m ≠ 0)
    exact .object distinct fun member mem => ih member mem (by omega)

-- ---------------------------------------------------------------------------
-- Gaps
-- ---------------------------------------------------------------------------

theorem skipGap_append (hg : ∀ c ∈ g, isGap c = true) (s : Text) : skipGap (g ++ s) = skipGap s :=
  List.dropWhile_append_of_pos hg

theorem skipGap_stop (hc : isGap c = false) (s : Text) : skipGap (c :: s) = c :: s := by
  rw [skipGap, List.dropWhile_cons_of_neg (by simp [hc])]

namespace Layout

/-- The separators are a comma and a colon with gaps behind them, and texts are escaped. -/
structure Readable (l : Layout) : Prop where
  gap : ∃ g, l.gap = ',' :: g ∧ ∀ c ∈ g, isGap c = true
  colon : ∃ g, l.colon = ':' :: g ∧ ∀ c ∈ g, isGap c = true
  escape : l.escape = escapeText

theorem compact_readable : compact.Readable := ⟨⟨[], rfl, by simp⟩, ⟨[], rfl, by simp⟩, rfl⟩

theorem spaced_readable : spaced.Readable :=
  ⟨⟨[' '], rfl, by simp [isGap]⟩, ⟨[' '], rfl, by simp [isGap]⟩, rfl⟩

theorem indented_readable : indented.Readable :=
  ⟨⟨[], rfl, by simp⟩, ⟨[' '], rfl, by simp [isGap]⟩, rfl⟩

theorem isGap_newline {l : Layout} (h : c ∈ l.newline depth) : isGap c = true := by
  rw [newline] at h
  split at h
  · rcases List.mem_cons.mp h with rfl | space
    · decide
    · rw [List.eq_of_mem_replicate space]
      decide
  · simp at h

end Layout

variable {l : Layout}

theorem skipGap_newline (depth : Nat) (s : Text) : skipGap (l.newline depth ++ s) = skipGap s :=
  skipGap_append (fun _ => Layout.isGap_newline) s

-- ---------------------------------------------------------------------------
-- What a written value begins with
-- ---------------------------------------------------------------------------

/-- The first characters of plain values. -/
def openings : List Char := ['n', 't', 'f', '\x22', '[', '\x7b']

theorem isGap_opening (h : c ∈ openings) : isGap c = false := by
  have none : openings.all (!isGap ·) = true := by decide
  simpa using List.all_eq_true.mp none c h

theorem Plain.opening (h : Plain n v) (depth : Nat) :
    ∃ c t, v.write l depth = c :: t ∧ c ∈ openings := by
  cases h with
  | null => exact ⟨'n', _, rfl, by decide⟩
  | @bool _ b => cases b <;> exact ⟨_, _, rfl, by decide⟩
  | string => exact ⟨'\x22', _, rfl, by decide⟩
  | @array items =>
    cases items with
    | nil => exact ⟨'[', _, rfl, by decide⟩
    | cons item rest => exact ⟨'[', _, by rw [write]; rfl, by decide⟩
  | @object members =>
    cases members with
    | nil => exact ⟨'\x7b', _, rfl, by decide⟩
    | cons member rest => exact ⟨'\x7b', _, by rw [write]; rfl, by decide⟩

theorem Plain.skipGap (h : Plain n v) (depth : Nat) (s : Text) :
    Json.skipGap (v.write l depth ++ s) = v.write l depth ++ s := by
  obtain ⟨c, t, front, mem⟩ := h.opening (l := l) depth
  rw [front, List.cons_append, skipGap_stop (isGap_opening mem)]

-- ---------------------------------------------------------------------------
-- Items and members
-- ---------------------------------------------------------------------------

/-- The value is read back wherever it is written, with a bound of its length. -/
def ReadsBack (l : Layout) (levels : Nat) (v : Json) : Prop :=
  ∀ depth bound rest, (v.write l depth).length ≤ bound →
    readValue levels bound (v.write l depth ++ rest) = .ok (v, rest)

theorem skipGap_writeItems_nil (depth : Nat) (rest : Text) :
    skipGap (writeItems l depth [] ++ rest) = ']' :: rest := by
  rw [writeItems, List.append_assoc, skipGap_newline]
  exact skipGap_stop (by decide) rest

theorem skipGap_writeItems_cons (layout : l.Readable) (plain : Plain n item) (items : List Json)
    (depth : Nat) (rest : Text) :
    ∃ inner, skipGap (writeItems l depth (item :: items) ++ rest) = ',' :: inner ∧
      skipGap inner = item.write l (depth + 1) ++ (writeItems l depth items ++ rest) := by
  obtain ⟨g, gap, hg⟩ := layout.gap
  refine ⟨g ++ (l.newline (depth + 1) ++
    (item.write l (depth + 1) ++ (writeItems l depth items ++ rest))), ?_, ?_⟩
  · rw [writeItems, gap]
    simp only [List.append_assoc, List.cons_append]
    exact skipGap_stop (by decide) _
  · rw [skipGap_append hg, skipGap_newline, plain.skipGap]

theorem length_writeItems_nil (depth : Nat) : 0 < (writeItems l depth []).length := by
  simp [writeItems]

theorem length_writeItems_cons (layout : l.Readable) (item : Json) (items : List Json)
    (depth : Nat) : (item.write l (depth + 1)).length + (writeItems l depth items).length <
      (writeItems l depth (item :: items)).length := by
  obtain ⟨g, gap, -⟩ := layout.gap
  simp only [writeItems, gap, List.length_append, List.length_cons]
  omega

/-- Each step of the bound is paid for by the bracket or the comma behind an item. -/
theorem readItems_write (layout : l.Readable) (plain : ∀ v ∈ item :: items, Plain n v)
    (reads : ∀ v ∈ item :: items, ReadsBack l levels v) (rest : Text)
    (size : (item.write l (depth + 1)).length + (writeItems l depth items).length ≤ bound) :
    readItems levels bound (item.write l (depth + 1) ++ (writeItems l depth items ++ rest)) =
      .ok (item :: items, rest) := by
  induction items generalizing item bound with
  | nil =>
    have bracket := length_writeItems_nil (l := l) depth
    obtain ⟨bound, rfl⟩ : ∃ m, bound = m + 1 := ⟨bound - 1, by omega⟩
    have read := reads item (by simp) (depth + 1) bound (writeItems l depth [] ++ rest) (by omega)
    simp only [readItems, read, skipGap_writeItems_nil]
  | cons next items ih =>
    have comma := length_writeItems_cons layout next items depth
    obtain ⟨bound, rfl⟩ : ∃ m, bound = m + 1 := ⟨bound - 1, by omega⟩
    have read := reads item (by simp) (depth + 1) bound
      (writeItems l depth (next :: items) ++ rest) (by omega)
    obtain ⟨inner, apart, front⟩ :=
      skipGap_writeItems_cons layout (plain next (by simp)) items depth rest
    have fits : (next.write l (depth + 1)).length + (writeItems l depth items).length ≤ bound := by
      omega
    have more := ih (fun v mem => plain v (List.mem_cons_of_mem _ mem))
      (fun v mem => reads v (List.mem_cons_of_mem _ mem)) fits
    simp only [readItems, read, apart, front, more]
    rfl

/-- A member as it is written. -/
def memberText (l : Layout) (depth : Nat) (member : Text × Json) : Text :=
  l.quote member.1 ++ (l.colon ++ member.2.write l depth)

theorem writeMembers_cons (l : Layout) (depth : Nat) (member : Text × Json)
    (members : List (Text × Json)) : writeMembers l depth (member :: members) =
      l.gap ++ (l.newline (depth + 1) ++
        (memberText l (depth + 1) member ++ writeMembers l depth members)) := by
  rw [writeMembers, memberText]
  simp only [List.append_assoc]

theorem skipGap_memberText (depth : Nat) (member : Text × Json) (rest : Text) :
    skipGap (memberText l depth member ++ rest) = memberText l depth member ++ rest :=
  skipGap_stop (by decide) _

theorem skipGap_writeMembers_nil (depth : Nat) (rest : Text) :
    skipGap (writeMembers l depth [] ++ rest) = '\x7d' :: rest := by
  rw [writeMembers, List.append_assoc, skipGap_newline]
  exact skipGap_stop (by decide) rest

theorem skipGap_writeMembers_cons (layout : l.Readable) (member : Text × Json)
    (members : List (Text × Json)) (depth : Nat) (rest : Text) :
    ∃ inner, skipGap (writeMembers l depth (member :: members) ++ rest) = ',' :: inner ∧
      skipGap inner =
        memberText l (depth + 1) member ++ (writeMembers l depth members ++ rest) := by
  obtain ⟨g, gap, hg⟩ := layout.gap
  refine ⟨g ++ (l.newline (depth + 1) ++
    (memberText l (depth + 1) member ++ (writeMembers l depth members ++ rest))), ?_, ?_⟩
  · rw [writeMembers_cons, gap]
    simp only [List.append_assoc, List.cons_append]
    exact skipGap_stop (by decide) _
  · rw [skipGap_append hg, skipGap_newline, skipGap_memberText]

theorem length_writeMembers_nil (depth : Nat) : 0 < (writeMembers l depth []).length := by
  simp [writeMembers]

theorem length_writeMembers_cons (layout : l.Readable) (member : Text × Json)
    (members : List (Text × Json)) (depth : Nat) :
    (memberText l (depth + 1) member).length + (writeMembers l depth members).length <
      (writeMembers l depth (member :: members)).length := by
  obtain ⟨g, gap, -⟩ := layout.gap
  simp only [writeMembers_cons, gap, List.length_append, List.length_cons]
  omega

theorem length_memberText (depth : Nat) (member : Text × Json) :
    (member.2.write l depth).length ≤ (memberText l depth member).length := by
  simp only [memberText, List.length_append]
  omega

/-- The name of a member is read up to its value. -/
theorem readName_memberText (layout : l.Readable) (plain : Plain n member.2) (depth : Nat)
    (rest : Text) :
    ∃ inner behind value, memberText l depth member ++ rest = '\x22' :: inner ∧
      (∀ opening, readText opening inner = .ok (member.1, behind)) ∧
      skipGap behind = ':' :: value ∧ skipGap value = member.2.write l depth ++ rest := by
  obtain ⟨g, colon, hg⟩ := layout.colon
  refine ⟨escapeText member.1 ++ '\x22' :: (l.colon ++ (member.2.write l depth ++ rest)),
    l.colon ++ (member.2.write l depth ++ rest), g ++ (member.2.write l depth ++ rest),
    ?_, fun opening => readText_escapeText _ _ _, ?_, ?_⟩
  · rw [memberText, Layout.quote, layout.escape]
    simp
  · rw [colon]
    exact skipGap_stop (by decide) _
  · rw [skipGap_append hg, plain.skipGap]

theorem readMembers_write (layout : l.Readable)
    (plain : ∀ m ∈ member :: members, Plain n m.2)
    (reads : ∀ m ∈ member :: members, ReadsBack l levels m.2) (rest : Text)
    (size : (memberText l (depth + 1) member).length + (writeMembers l depth members).length ≤
      bound) :
    readMembers levels bound
        (memberText l (depth + 1) member ++ (writeMembers l depth members ++ rest)) =
      .ok (member :: members, rest) := by
  induction members generalizing member bound with
  | nil =>
    have brace := length_writeMembers_nil (l := l) depth
    have value := length_memberText (l := l) (depth + 1) member
    obtain ⟨bound, rfl⟩ : ∃ m, bound = m + 1 := ⟨bound - 1, by omega⟩
    have read := reads member (by simp) (depth + 1) bound (writeMembers l depth [] ++ rest)
      (by omega)
    obtain ⟨inner, behind, value, front, name, colon, start⟩ :=
      readName_memberText layout (plain member (by simp)) (depth + 1)
        (writeMembers l depth [] ++ rest)
    simp only [front, readMembers, name, colon, start, read, skipGap_writeMembers_nil]
  | cons other members ih =>
    have comma := length_writeMembers_cons layout other members depth
    have value := length_memberText (l := l) (depth + 1) member
    obtain ⟨bound, rfl⟩ : ∃ m, bound = m + 1 := ⟨bound - 1, by omega⟩
    have read := reads member (by simp) (depth + 1) bound
      (writeMembers l depth (other :: members) ++ rest) (by omega)
    obtain ⟨inner, behind, value, front, name, colon, start⟩ :=
      readName_memberText layout (plain member (by simp)) (depth + 1)
        (writeMembers l depth (other :: members) ++ rest)
    obtain ⟨tail, apart, next⟩ := skipGap_writeMembers_cons layout other members depth rest
    have fits : (memberText l (depth + 1) other).length + (writeMembers l depth members).length ≤
        bound := by
      omega
    have more := ih (fun m mem => plain m (List.mem_cons_of_mem _ mem))
      (fun m mem => reads m (List.mem_cons_of_mem _ mem)) fits
    simp only [front, readMembers, name, colon, start, read, apart, next, more]
    rfl

-- ---------------------------------------------------------------------------
-- Objects as they are read
-- ---------------------------------------------------------------------------

theorem setMember_new (h : name ∉ members.map Prod.fst) (value : Json) :
    setMember members name value = members ++ [(name, value)] := by
  induction members with
  | nil => rfl
  | cons m members ih =>
    obtain ⟨hm, hrest⟩ := List.ne_and_not_mem_of_not_mem_cons h
    rw [setMember, if_neg hm.symm, ih hrest, List.cons_append]

theorem foldl_setMember (before : List (Text × Json)) {members : List (Text × Json)}
    (h : ((before ++ members).map Prod.fst).Nodup) :
    members.foldl (fun set member => setMember set member.1 member.2) before =
      before ++ members := by
  induction members generalizing before with
  | nil => simp
  | cons m members ih =>
    have fresh : m.1 ∉ before.map Prod.fst := by
      rw [List.map_append, List.map_cons, List.nodup_append] at h
      exact fun mem => h.2.2 _ mem _ (by simp) rfl
    rw [List.foldl_cons, setMember_new fresh, List.append_cons before m members]
    exact ih _ (List.append_cons before m members ▸ h)

theorem ofMembers_distinct (h : (members.map Prod.fst).Nodup) :
    ofMembers members = .object members := by
  rw [ofMembers, foldl_setMember [] h, List.nil_append]

-- ---------------------------------------------------------------------------
-- Values
-- ---------------------------------------------------------------------------

theorem readValue_items (levels bound : Nat) (start : skipGap s = t)
    (nonempty : t.head? ≠ some ']') : readValue (levels + 1) (bound + 1) ('[' :: s) =
      (readItems levels bound t).map fun r => (.array r.1, r.2) := by
  rw [readValue, if_neg (by simp), start]
  split
  · exact absurd rfl nonempty
  · rfl

theorem readValue_members (levels bound : Nat) (start : skipGap s = t)
    (nonempty : t.head? ≠ some '\x7d') : readValue (levels + 1) (bound + 1) ('\x7b' :: s) =
      (readMembers levels bound t).map fun r => (ofMembers r.1, r.2) := by
  rw [readValue, if_neg (by simp), start]
  split
  · exact absurd rfl nonempty
  · rfl

/-- A value takes at least one step of the bound, and has at least one character. -/
theorem Plain.readsBack_of_step (h : Plain n v)
    (step : ∀ depth bound rest, (v.write l depth).length ≤ bound + 1 →
      readValue levels (bound + 1) (v.write l depth ++ rest) = .ok (v, rest)) :
    ReadsBack l levels v := by
  intro depth bound rest size
  obtain ⟨c, t, front, -⟩ := h.opening (l := l) depth
  cases bound with
  | zero => simp [front] at size
  | succ bound => exact step depth bound rest size

theorem readsBack_array (layout : l.Readable) (plain : ∀ v ∈ items, Plain n v)
    (reads : ∀ v ∈ items, ReadsBack l n v) : ReadsBack l (n + 1) (.array items) := by
  refine (Plain.array plain).readsBack_of_step fun depth bound rest size => ?_
  cases items with
  | nil => simp [readValue, write, skipGap, isGap]
  | cons item items =>
    have front : write l depth (.array (item :: items)) ++ rest =
        '[' :: (l.newline (depth + 1) ++
          (item.write l (depth + 1) ++ (writeItems l depth items ++ rest))) := by
      simp [write]
    have inner := congrArg List.length front
    simp only [List.length_append, List.length_cons] at inner
    have fits : (item.write l (depth + 1)).length + (writeItems l depth items).length ≤ bound := by
      omega
    have behind : skipGap (l.newline (depth + 1) ++
        (item.write l (depth + 1) ++ (writeItems l depth items ++ rest))) =
          item.write l (depth + 1) ++ (writeItems l depth items ++ rest) := by
      rw [skipGap_newline, (plain item (by simp)).skipGap]
    rw [front, readValue_items n bound behind ?_, readItems_write layout plain reads rest fits]
    · rfl
    · obtain ⟨c, t, start, opening⟩ := (plain item (by simp)).opening (l := l) (depth + 1)
      rw [start]
      intro closed
      cases Option.some.inj closed
      exact absurd opening (by decide)

theorem readsBack_object (layout : l.Readable) (distinct : (members.map Prod.fst).Nodup)
    (plain : ∀ m ∈ members, Plain n m.2) (reads : ∀ m ∈ members, ReadsBack l n m.2) :
    ReadsBack l (n + 1) (.object members) := by
  refine (Plain.object distinct plain).readsBack_of_step fun depth bound rest size => ?_
  cases members with
  | nil => simp [readValue, write, skipGap, isGap]
  | cons member members =>
    have front : write l depth (.object (member :: members)) ++ rest =
        '\x7b' :: (l.newline (depth + 1) ++
          (memberText l (depth + 1) member ++ (writeMembers l depth members ++ rest))) := by
      simp [write, memberText]
    have inner := congrArg List.length front
    simp only [List.length_append, List.length_cons] at inner
    have fits : (memberText l (depth + 1) member).length + (writeMembers l depth members).length ≤
        bound := by
      omega
    have behind : skipGap (l.newline (depth + 1) ++
        (memberText l (depth + 1) member ++ (writeMembers l depth members ++ rest))) =
          memberText l (depth + 1) member ++ (writeMembers l depth members ++ rest) := by
      rw [skipGap_newline, skipGap_memberText]
    rw [front, readValue_members n bound behind (by simp [memberText, Layout.quote]),
      readMembers_write layout plain reads rest fits, ← ofMembers_distinct distinct]
    rfl

theorem Plain.readsBack (layout : l.Readable) (h : Plain n v) : ReadsBack l n v := by
  induction h with
  | null =>
    refine Plain.null.readsBack_of_step (n := 0) fun depth bound rest _ => ?_
    simp [readValue, write, readLiteral?, literals, Text.after?]
  | @bool _ b =>
    refine Plain.bool.readsBack_of_step (n := 0) fun depth bound rest _ => ?_
    cases b <;> simp [readValue, write, readLiteral?, literals, Text.after?]
  | @string _ s =>
    refine Plain.string.readsBack_of_step (n := 0) fun depth bound rest _ => ?_
    have front : write l depth (.string s) ++ rest =
        '\x22' :: (escapeText s ++ '\x22' :: rest) := by
      simp [write, Layout.quote, layout.escape]
    rw [front, readValue, readText_escapeText]
    rfl
  | array plain ih => exact readsBack_array layout plain ih
  | object distinct plain ih => exact readsBack_object layout distinct plain ih

/-- Every reader that goes down so many levels reads the value from the text. -/
def ReadFrom (depth : Nat) (s : Text) (v : Json) : Prop :=
  ∀ levels, depth ≤ levels → read levels s = .ok v

/-- A plain value is read from its text, with a line feed behind it or without. -/
theorem readFrom_text_append (layout : l.Readable) (h : Plain depth v)
    (hg : ∀ c ∈ g, isGap c = true) : ReadFrom depth (v.text l ++ g) v := by
  intro levels deep
  rw [text]
  obtain ⟨c, t, front, opening⟩ := h.opening (l := l) 0
  have noMark : (v.write l 0 ++ g).head? ≠ some '\uFEFF' := by
    rw [front]
    intro mark
    cases Option.some.inj mark
    exact absurd opening (by decide)
  have value := (h.mono deep).readsBack layout 0 (2 * (v.write l 0 ++ g).length + 2) g (by
    rw [List.length_append]
    omega)
  have behind : skipGap g = [] := by
    have whole := skipGap_append hg []
    rwa [List.append_nil] at whole
  rw [read, readAll, if_neg noMark, h.skipGap, value]
  simp only [behind]
  rfl

theorem readFrom_text (layout : l.Readable) (h : Plain depth v) :
    ReadFrom depth (v.text l) v := by
  have read := readFrom_text_append layout h (g := []) (by simp)
  rwa [List.append_nil] at read

-- ---------------------------------------------------------------------------
-- Written values are ASCII
-- ---------------------------------------------------------------------------

open Text (IsAscii isAscii_cons isAscii_append)

theorem isAscii_of_isGap (h : ∀ c ∈ s, isGap c = true) : IsAscii s := by
  intro c mem
  have gap := h c mem
  simp only [isGap, Bool.or_eq_true, decide_eq_true_eq] at gap
  rcases gap with ((rfl | rfl) | rfl) | rfl <;> decide

theorem Layout.Readable.isAscii_gap (h : l.Readable) : IsAscii l.gap := by
  obtain ⟨g, gap, hg⟩ := h.gap
  rw [gap, isAscii_cons]
  exact ⟨by decide, isAscii_of_isGap hg⟩

theorem Layout.Readable.isAscii_colon (h : l.Readable) : IsAscii l.colon := by
  obtain ⟨g, colon, hg⟩ := h.colon
  rw [colon, isAscii_cons]
  exact ⟨by decide, isAscii_of_isGap hg⟩

theorem Layout.Readable.isAscii_quote (h : l.Readable) (s : Text) : IsAscii (l.quote s) := by
  rw [Layout.quote, h.escape, List.cons_append, isAscii_cons, isAscii_append]
  exact ⟨by decide, isAscii_escapeText s, by decide⟩

theorem isAscii_newline (depth : Nat) : IsAscii (l.newline depth) :=
  isAscii_of_isGap fun _ => Layout.isGap_newline

/-- The value is written in ASCII wherever it is written. -/
def WritesAscii (l : Layout) (v : Json) : Prop := ∀ depth, IsAscii (v.write l depth)

theorem isAscii_writeItems (layout : l.Readable) (h : ∀ v ∈ items, WritesAscii l v)
    (depth : Nat) : IsAscii (writeItems l depth items) := by
  induction items with
  | nil =>
    rw [writeItems, isAscii_append]
    exact ⟨isAscii_newline depth, by decide⟩
  | cons item items ih =>
    obtain ⟨first, rest⟩ := List.forall_mem_cons.mp h
    simp only [writeItems, isAscii_append]
    exact ⟨⟨⟨layout.isAscii_gap, isAscii_newline _⟩, first _⟩, ih rest⟩

theorem isAscii_writeMembers (layout : l.Readable) (h : ∀ m ∈ members, WritesAscii l m.2)
    (depth : Nat) : IsAscii (writeMembers l depth members) := by
  induction members with
  | nil =>
    rw [writeMembers, isAscii_append]
    exact ⟨isAscii_newline depth, by decide⟩
  | cons member members ih =>
    obtain ⟨first, rest⟩ := List.forall_mem_cons.mp h
    simp only [writeMembers, isAscii_append]
    exact ⟨⟨⟨⟨⟨layout.isAscii_gap, isAscii_newline _⟩, layout.isAscii_quote _⟩,
      layout.isAscii_colon⟩, first _⟩, ih rest⟩

theorem Plain.writesAscii (layout : l.Readable) (h : Plain n v) : WritesAscii l v := by
  induction h with
  | null => intro depth; rw [write]; decide
  | @bool _ b => intro depth; cases b <;> (rw [write]; decide)
  | string => intro depth; rw [write]; exact layout.isAscii_quote _
  | @array items _ _ ih =>
    intro depth
    cases items with
    | nil => rw [write]; decide
    | cons item items =>
      obtain ⟨first, rest⟩ := List.forall_mem_cons.mp ih
      simp only [write, isAscii_append]
      exact ⟨⟨⟨by decide, isAscii_newline _⟩, first _⟩, isAscii_writeItems layout rest depth⟩
  | @object members _ _ _ ih =>
    intro depth
    cases members with
    | nil => rw [write]; decide
    | cons member members =>
      obtain ⟨first, rest⟩ := List.forall_mem_cons.mp ih
      simp only [write, isAscii_append]
      exact ⟨⟨⟨⟨⟨by decide, isAscii_newline _⟩, layout.isAscii_quote _⟩, layout.isAscii_colon⟩,
        first _⟩, isAscii_writeMembers layout rest depth⟩

-- ---------------------------------------------------------------------------
-- A text that may hold units alone
-- ---------------------------------------------------------------------------

theorem readMembers_single (hg : ∀ c ∈ g, isGap c = true) (hc : isGap c = false)
    (value : readValue levels bound (c :: s) = .ok (v, last))
    (ends : skipGap last = '\x7d' :: rest) :
    readMembers levels (bound + 1)
      ('\x22' :: (escapeText name ++ '\x22' :: ':' :: (g ++ c :: s))) =
        .ok ([(name, v)], rest) := by
  have colon : skipGap (':' :: (g ++ c :: s)) = ':' :: (g ++ c :: s) :=
    skipGap_stop (by decide) _
  have start : skipGap (g ++ c :: s) = c :: s := by
    rw [skipGap_append hg, skipGap_stop hc]
  rw [readMembers, readText_escapeText]
  simp only [colon, start, value, ends]

/-- Such a text is read from an object that it is the only member of. -/
theorem readFrom_memberWithUnits (layout : l.Readable) (plain : unitSign ∉ name) (s : Text) :
    ∃ t, (unitSign ∉ s → t = s) ∧
      ReadFrom 1 ((object [(name, .string s)]).text l.withUnits ++ ['\n'])
        (.object [(name, .string t)]) := by
  obtain ⟨t, same, text⟩ := readText_escapeUnits s
  obtain ⟨g, colon, hg⟩ := layout.colon
  refine ⟨t, same, fun levels deep => ?_⟩
  obtain ⟨inside, rfl⟩ := Nat.exists_eq_succ_of_ne_zero (Nat.one_le_iff_ne_zero.mp deep)
  -- a layout with units is not readable as a whole, so the parts of the object are read one by one
  let last : Text := l.withUnits.newline 0 ++ ['\x7d', '\n']
  let member : Text := '\x22' :: (escapeText name ++ '\x22' :: ':' :: (g ++
    '\x22' :: (escapeUnits s ++ '\x22' :: last)))
  let inner : Text := l.withUnits.newline 1 ++ member
  have front : (object [(name, .string s)]).text l.withUnits ++ ['\n'] = '\x7b' :: inner := by
    simp [Json.text, write, writeMembers, Layout.quote, inner, member, last, colon,
      Layout.withUnits, escapeUnits_eq_escapeText plain]
  have start : skipGap inner = member := by
    rw [skipGap_newline]
    exact skipGap_stop (by decide) _
  have ends : skipGap last = ['\x7d', '\n'] := by
    rw [skipGap_newline]
    exact skipGap_stop (by decide) _
  have value : readValue inside (2 * inner.length + 2)
      ('\x22' :: (escapeUnits s ++ '\x22' :: last)) = .ok (.string t, last) := by
    rw [readValue, text]
    rfl
  have read : readMembers inside (2 * inner.length + 3) member =
      .ok ([(name, .string t)], ['\n']) := readMembers_single hg (by decide) value ends
  have fuel : 2 * ('\x7b' :: inner).length + 2 = 2 * inner.length + 3 + 1 := by
    rw [List.length_cons]
    omega
  have noMark : ('\x7b' :: inner).head? ≠ some '\uFEFF' := by simp
  rw [Json.read, readAll, front, if_neg noMark, skipGap_stop (by decide), fuel,
    readValue_members inside _ start (by simp [member]), read]
  rfl

end SchemaChart.Json
