import SchemaChart.Proofs.Closing
import SchemaChart.Proofs.Header

/-!
# The search for statements

The search goes through a script in rounds. A round looks for the first header from
its place on; it ends the search, or takes a statement and goes on behind its body, or
passes over a header whose group is never closed. `Search` is a whole run of such
rounds, and `findings` is its only outcome. What a run finds lies in order in the
text, and the only headers outside are those whose group is never closed.
-/

namespace SchemaChart

open Text

/-- A header for a table begins at `p` and ends with the parenthesis at `opening`. -/
def HeaderAt (text : Text) (p : Nat) (name : Text) (opening : Nat) : Prop :=
  ∃ u, HeaderText name u ∧ text.drop p = u ++ '(' :: text.drop (opening + 1) ∧
    opening = p + u.length

/-- The group opened at a place is closed by the parenthesis at `closing`: with quotes
respected, or else with quotes ignored. -/
def ClosedAt (text : Text) (opening closing : Nat) : Prop :=
  closingFrom true text opening = .ok (some (closing : Int)) ∨
    closingFrom true text opening = .ok none ∧
      closingFrom false text opening = .ok (some (closing : Int))

/-- Neither scan finds an end of the group opened at a place. -/
def Unclosed (text : Text) (opening : Nat) : Prop :=
  closingFrom true text opening = .ok none ∧ closingFrom false text opening = .ok none

def firstOpening (text : Text) (p : Nat) : Nat := p + (before '(' (text.drop p)).length

def slice (text : Text) (first last : Nat) : Text := (text.drop first).take (last - first)

/-- The first header from `pos` on. -/
structure FirstHeader (text : Text) (pos p : Nat) (name : Text) (opening : Nat) : Prop where
  from_pos : pos ≤ p
  none_before : ∀ j, pos ≤ j → j < p → ∀ name opening, ¬HeaderAt text j name opening
  header : HeaderAt text p name opening

/-- The rounds of a search from a place to the end of the text. -/
inductive Search (text : Text) : Nat → List Finding → Prop
  | stop {pos} : (∀ p, pos ≤ p → ∀ name opening, ¬HeaderAt text p name opening) →
      Search text pos []
  | statement {pos p name opening closing fs} : FirstHeader text pos p name opening →
      ClosedAt text opening closing → Search text (closing + 1) fs →
      Search text pos
        (.statement ⟨name, slice text (opening + 1) closing, p, opening, closing⟩ :: fs)
  | skipped {pos p name opening fs} : FirstHeader text pos p name opening →
      Unclosed text opening → Search text (opening + 1) fs →
      Search text pos (.unclosed name :: fs)

-- ---------------------------------------------------------------------------
-- One step of the search
-- ---------------------------------------------------------------------------

theorem findingsFrom_cons (h : Header.read? (c :: rest) = none) (origin : Nat) :
    findingsFrom origin (c :: rest) = findingsFrom (origin + 1) rest := by
  rw [findingsFrom]
  split
  · rfl
  · next read => simp [h] at read

theorem findingsFrom_statement {header : Header} (h : Header.read? (c :: rest) = some header)
    (body : bodyLength? header.after = some n) (origin : Nat) :
    findingsFrom origin (c :: rest) =
      let opening := origin + (rest.length - header.after.length)
      .statement ⟨header.name, header.after.take n, origin, opening, opening + 1 + n⟩ ::
        findingsFrom (opening + n + 2) (header.after.drop (n + 1)) := by
  rw [findingsFrom]
  split
  · next read => simp [h] at read
  · next header' read =>
    cases Option.some.inj (h.symm.trans read)
    simp only [body]

theorem findingsFrom_blanks (hg : AllBlank g) (origin : Nat) (s : Text) :
    findingsFrom origin (g ++ s) = findingsFrom (origin + g.length) s := by
  induction g generalizing origin with
  | nil => rfl
  | cons c g ih =>
    obtain ⟨hc, hg⟩ := List.forall_mem_cons.mp hg
    rw [List.cons_append, findingsFrom_cons (Header.read?_of_head (isWord_of_isBlank hc) _), ih hg]
    congr 1
    simp only [List.length_cons]
    omega

-- ---------------------------------------------------------------------------
-- Headers by place
-- ---------------------------------------------------------------------------

theorem headerAt_of_drop (h : HeaderText name u) (cut : text.drop p = u ++ '(' :: after) :
    HeaderAt text p name (p + u.length) ∧ text.drop (p + u.length + 1) = after := by
  have rest : text.drop (p + u.length + 1) = after := by
    rw [show p + u.length + 1 = p + (u.length + 1) by omega, ← List.drop_drop, cut]
    simp
  exact ⟨⟨u, h, by rw [rest, cut], rfl⟩, rest⟩

theorem HeaderAt.read? (h : HeaderAt text p name opening) :
    Header.read? (text.drop p) = some ⟨name, text.drop (opening + 1)⟩ := by
  obtain ⟨u, hu, cut, -⟩ := h
  rw [cut]
  exact Header.read?_append hu _

theorem HeaderAt.drop_opening (h : HeaderAt text p name opening) :
    text.drop opening = '(' :: text.drop (opening + 1) := by
  obtain ⟨u, -, cut, same⟩ := h
  rw [same, ← List.drop_drop, cut, ← same]
  simp

theorem HeaderAt.lt_length (h : HeaderAt text p name opening) : opening < text.length := by
  have cut := congrArg List.length h.drop_opening
  simp only [List.length_drop, List.length_cons] at cut
  omega

theorem HeaderAt.lt (h : HeaderAt text p name opening) : p < opening := by
  obtain ⟨u, hu, -, rfl⟩ := h
  have := List.length_pos_iff.mpr hu.ne_nil
  omega

theorem before_append (h : '(' ∉ u) : before '(' (u ++ '(' :: after) = u := by
  have other : ∀ c ∈ u, decide (c ≠ '(') = true := by
    rintro c hc
    exact decide_eq_true fun same => h (same ▸ hc)
  rw [before, List.takeWhile_append_of_pos other]
  simp

/-- Seen from inside a header, the first parenthesis is the one that ends it. -/
theorem HeaderAt.firstOpening_eq (h : HeaderAt text p name opening) (hq : p ≤ q)
    (hle : q ≤ opening) : firstOpening text q = opening := by
  obtain ⟨u, hu, cut, rfl⟩ := h
  have paren : '(' ∉ u := hu.not_mem (by decide)
  obtain ⟨k, rfl⟩ := Nat.exists_eq_add_of_le hq
  have rest : text.drop (p + k) = u.drop k ++ '(' :: text.drop (p + u.length + 1) := by
    rw [← List.drop_drop, cut, List.drop_append_of_le_length (by omega)]
  rw [firstOpening, rest, before_append fun mem => paren (List.mem_of_mem_drop mem),
    List.length_drop]
  omega

theorem HeaderAt.unique (h : HeaderAt text p name opening) (h' : HeaderAt text p name' opening') :
    name = name' ∧ opening = opening' := by
  have names := Option.some.inj (h.read?.symm.trans h'.read?)
  refine ⟨congrArg Header.name names, ?_⟩
  rw [← h.firstOpening_eq (Nat.le_refl p) (Nat.le_of_lt h.lt),
    ← h'.firstOpening_eq (Nat.le_refl p) (Nat.le_of_lt h'.lt)]

theorem FirstHeader.unique (h : FirstHeader text pos p name opening)
    (h' : FirstHeader text pos p' name' opening') :
    p = p' ∧ name = name' ∧ opening = opening' := by
  have same : p = p' := by
    rcases Nat.lt_trichotomy p p' with lt | same | lt
    · exact absurd h.header (h'.none_before p h.from_pos lt _ _)
    · exact same
    · exact absurd h'.header (h.none_before p' h'.from_pos lt _ _)
  subst same
  exact ⟨rfl, h.header.unique h'.header⟩

theorem ClosedAt.unique (h : ClosedAt text opening closing) (h' : ClosedAt text opening closing') :
    closing = closing' := by
  have same : ∀ {quoted}, closingFrom quoted text opening = .ok (some (closing : Int)) →
      closingFrom quoted text opening = .ok (some (closing' : Int)) → closing = closing' := by
    intro quoted found found'
    have places : (closing : Int) = closing' := by simpa [found] using found'
    omega
  cases h with
  | inl h =>
    cases h' with
    | inl h' => exact same h h'
    | inr h' => simp [h'.1] at h
  | inr h =>
    cases h' with
    | inl h' => simp [h.1] at h'
    | inr h' => exact same h.2 h'.2

theorem ClosedAt.not_unclosed (h : ClosedAt text opening closing) : ¬Unclosed text opening := by
  rintro ⟨none, none'⟩
  cases h with
  | inl h => simp [none] at h
  | inr h => simp [none'] at h

-- ---------------------------------------------------------------------------
-- The search is a run
-- ---------------------------------------------------------------------------

theorem closedAt_of_bodyLength? (cut : text.drop opening = '(' :: after)
    (h : bodyLength? after = some n) : ClosedAt text opening (opening + 1 + n) := by
  rw [bodyLength?, Option.or_eq_some_iff] at h
  rcases h with found | ⟨missed, found⟩
  · exact .inl (by rw [closingFrom_opening true cut, found]; rfl)
  · refine .inr ⟨?_, ?_⟩
    · rw [closingFrom_opening true cut, missed]
      rfl
    · rw [closingFrom_opening false cut, found]
      rfl

theorem unclosed_of_bodyLength? (cut : text.drop opening = '(' :: after)
    (h : bodyLength? after = none) : Unclosed text opening := by
  rw [bodyLength?, Option.or_eq_none_iff] at h
  rw [Unclosed, closingFrom_opening true cut, closingFrom_opening false cut, h.1, h.2]
  exact ⟨rfl, rfl⟩

/-- A place where no header begins can be put in front of a run. -/
theorem Search.skip (h : Search text (pos + 1) fs)
    (none : ∀ name opening, ¬HeaderAt text pos name opening) : Search text pos fs := by
  have first : ∀ {p name opening}, FirstHeader text (pos + 1) p name opening →
      FirstHeader text pos p name opening := by
    rintro p name opening ⟨le, before, header⟩
    refine ⟨Nat.le_of_succ_le le, fun j hj lt => ?_, header⟩
    rcases Nat.eq_or_lt_of_le hj with rfl | hj
    · exact none
    · exact before j hj lt
  cases h with
  | stop after =>
    refine .stop fun p hp => ?_
    rcases Nat.eq_or_lt_of_le hp with rfl | hp
    · exact none
    · exact after p hp
  | statement header closed rest => exact .statement (first header) closed rest
  | skipped header unclosed rest => exact .skipped (first header) unclosed rest

theorem headerAt_of_read? {header : Header} (h : text.drop pos = c :: rest)
    (read : Header.read? (c :: rest) = some header) :
    HeaderAt text pos header.name (pos + (rest.length - header.after.length)) ∧
      text.drop (pos + (rest.length - header.after.length) + 1) = header.after := by
  obtain ⟨u, hu, cut⟩ := Header.read?_sound read
  have long : rest.length - header.after.length = u.length := by
    have := congrArg List.length cut
    simp only [List.length_cons, List.length_append] at this
    omega
  rw [long]
  exact headerAt_of_drop hu (h.trans cut)

theorem HeaderAt.first (h : HeaderAt text pos name opening) :
    FirstHeader text pos pos name opening :=
  ⟨Nat.le_refl pos, fun _ hj lt => absurd lt (Nat.not_lt.mpr hj), h⟩

theorem search_findingsFrom (h : text.drop pos = s) : Search text pos (findingsFrom pos s) := by
  fun_induction findingsFrom pos s with
  | case1 pos =>
    refine .stop fun p hp name opening header => ?_
    have ended := header.lt_length
    have := header.lt
    have := List.drop_eq_nil_iff.mp h
    omega
  | case2 pos c rest none ih =>
    refine (ih (by rw [← List.drop_drop, h]; rfl)).skip fun name opening header => ?_
    have read := header.read?
    rw [h, none] at read
    simp at read
  | case3 pos c rest header read opening n found ih =>
    obtain ⟨here, after⟩ := headerAt_of_read? h read
    have closed := closedAt_of_bodyLength? (after ▸ here.drop_opening) found
    have body : slice text (opening + 1) (opening + 1 + n) = header.after.take n := by
      rw [slice, after]
      congr 1
      omega
    rw [← body]
    refine .statement here.first closed ?_
    rw [show opening + 1 + n + 1 = opening + n + 2 by omega]
    apply ih
    rw [show opening + n + 2 = opening + 1 + (n + 1) by omega, ← List.drop_drop, after]
  | case4 pos c rest header read opening missed ih =>
    obtain ⟨here, after⟩ := headerAt_of_read? h read
    have unclosed := unclosed_of_bodyLength? (after ▸ here.drop_opening) missed
    exact .skipped here.first unclosed (ih after)

theorem search_findings (text : Text) : Search text 0 (findings text) :=
  search_findingsFrom rfl

theorem Search.unique (h : Search text pos fs) (h' : Search text pos gs) : fs = gs := by
  induction h generalizing gs with
  | stop none =>
    cases h' with
    | stop => rfl
    | statement header => exact absurd header.header (none _ header.from_pos _ _)
    | skipped header => exact absurd header.header (none _ header.from_pos _ _)
  | statement header closed _ ih =>
    cases h' with
    | stop none => exact absurd header.header (none _ header.from_pos _ _)
    | statement header' closed' rest =>
      obtain ⟨rfl, rfl, rfl⟩ := header.unique header'
      cases closed.unique closed'
      rw [ih rest]
    | skipped header' unclosed =>
      obtain ⟨rfl, rfl, rfl⟩ := header.unique header'
      exact absurd unclosed closed.not_unclosed
  | skipped header unclosed _ ih =>
    cases h' with
    | stop none => exact absurd header.header (none _ header.from_pos _ _)
    | statement header' closed =>
      obtain ⟨rfl, rfl, rfl⟩ := header.unique header'
      exact absurd unclosed closed.not_unclosed
    | skipped header' _ rest =>
      obtain ⟨rfl, rfl, rfl⟩ := header.unique header'
      rw [ih rest]

-- ---------------------------------------------------------------------------
-- What a run finds
-- ---------------------------------------------------------------------------

/-- A statement stands in the text: a header with its opening parenthesis, a body, and
the parenthesis that closes the group. -/
structure Statement.LiesIn (text : Text) (st : Statement) : Prop where
  header : HeaderAt text st.start st.name st.opening
  header_first : st.start < st.opening
  opening_first : st.opening < st.closing
  closing_inside : st.closing < text.length
  closed : ClosedAt text st.opening st.closing
  body : st.body = slice text (st.opening + 1) st.closing

def Finding.statement? : Finding → Option Statement
  | .statement st => some st
  | .unclosed _ => none

/-- The statements of a script, without the headers that were passed over. -/
def statements (text : Text) : List Statement := (findings text).filterMap Finding.statement?

theorem closing_bounds (cut : text.drop opening = '(' :: after)
    (h : closingFrom aware text (opening : Nat) = .ok (some ((closing : Nat) : Int))) :
    opening < closing ∧ closing < text.length := by
  rw [closingFrom_opening aware cut] at h
  obtain ⟨n, found, same⟩ := Option.map_eq_some_iff.mp (Except.ok.inj h)
  have := closing?_lt found
  have := congrArg List.length cut
  simp only [List.length_drop, List.length_cons] at this
  omega

theorem ClosedAt.bounds (h : ClosedAt text opening closing)
    (cut : text.drop opening = '(' :: after) : opening < closing ∧ closing < text.length := by
  rcases h with found | ⟨-, found⟩ <;> exact closing_bounds cut found

theorem Search.liesIn (h : Search text pos fs) (mem : .statement st ∈ fs) :
    pos ≤ st.start ∧ st.LiesIn text := by
  induction h with
  | stop => simp at mem
  | statement header closed _ ih =>
    have bounds := closed.bounds header.header.drop_opening
    have first := header.header.lt
    have := header.from_pos
    rcases List.mem_cons.mp mem with same | mem
    · cases Finding.statement.inj same
      exact ⟨header.from_pos, header.header, first, bounds.1, bounds.2, closed, rfl⟩
    · exact ⟨by have := (ih mem).1; omega, (ih mem).2⟩
  | skipped header _ _ ih =>
    have first := header.header.lt
    have := header.from_pos
    rcases List.mem_cons.mp mem with same | mem
    · simp at same
    · exact ⟨by have := (ih mem).1; omega, (ih mem).2⟩

theorem Search.ordered (h : Search text pos fs) :
    (fs.filterMap Finding.statement?).Pairwise fun a b => a.closing < b.start := by
  induction h with
  | stop => exact .nil
  | statement _ _ rest ih =>
    refine List.pairwise_cons.mpr ⟨fun st mem => ?_, ih⟩
    obtain ⟨f, hf, same⟩ := List.mem_filterMap.mp mem
    cases f with
    | statement st' =>
      cases Option.some.inj same
      exact (rest.liesIn hf).1
    | unclosed => simp [Finding.statement?] at same
  | skipped _ _ _ ih => exact ih

/-- A header that a run meets lies inside a statement of the run, or its group is never
closed. -/
theorem Search.covers (h : Search text pos fs) (hp : pos ≤ p)
    (header : HeaderAt text p name opening) :
    (∃ st, .statement st ∈ fs ∧ st.start ≤ p ∧ p ≤ st.closing) ∨ Unclosed text opening := by
  induction h with
  | stop none => exact absurd header (none p hp name opening)
  | @statement pos q name' opening' closing fs first closed _ ih =>
    rcases Nat.lt_or_ge p q with lt | ge
    · exact absurd header (first.none_before p hp lt _ _)
    · rcases Nat.lt_or_ge closing p with lt | le
      · refine (ih lt).imp_left ?_
        rintro ⟨st, mem, inside⟩
        exact ⟨st, List.mem_cons_of_mem _ mem, inside⟩
      · exact .inl ⟨_, List.mem_cons_self .., ge, le⟩
  | @skipped pos q name' opening' fs first unclosed _ ih =>
    rcases Nat.lt_or_ge p q with lt | ge
    · exact absurd header (first.none_before p hp lt _ _)
    · rcases Nat.lt_or_ge opening' p with lt | le
      · refine (ih lt).imp_left ?_
        rintro ⟨st, mem, inside⟩
        exact ⟨st, List.mem_cons_of_mem _ mem, inside⟩
      · -- both headers end at the first parenthesis from here on
        have same := first.header.firstOpening_eq ge le
        have own := header.firstOpening_eq (Nat.le_refl p) (Nat.le_of_lt header.lt)
        exact .inr (own ▸ same ▸ unclosed)

theorem mem_statements : st ∈ statements text ↔ .statement st ∈ findings text := by
  rw [statements, List.mem_filterMap]
  constructor
  · rintro ⟨f, hf, same⟩
    cases f with
    | statement st' => exact Option.some.inj same ▸ hf
    | unclosed => simp [Finding.statement?] at same
  · intro mem
    exact ⟨_, mem, rfl⟩

/-- The search ends, and in one way only. What it yields are statements of the text,
one behind the other. A header at any place lies inside one of them, unless the first
parenthesis from there on is closed neither with quotes respected nor with quotes
ignored. -/
theorem findings_complete (text : Text) :
    (∀ fs, Search text 0 fs ↔ fs = findings text) ∧
    (∀ st ∈ statements text, st.LiesIn text) ∧
    (statements text).Pairwise (fun a b => a.closing < b.start) ∧
    ∀ p name opening, HeaderAt text p name opening →
      (∃ st ∈ statements text, st.start ≤ p ∧ p ≤ st.closing) ∨
        Unclosed text (firstOpening text p) := by
  have run := search_findings text
  refine ⟨fun fs => ⟨fun other => other.unique run, fun same => same ▸ run⟩, ?_, run.ordered, ?_⟩
  · intro st mem
    exact (run.liesIn (mem_statements.mp mem)).2
  · intro p name opening header
    have own := header.firstOpening_eq (Nat.le_refl p) (Nat.le_of_lt header.lt)
    rw [own]
    refine (run.covers (Nat.zero_le p) header).imp_left ?_
    rintro ⟨st, mem, inside⟩
    exact ⟨st, mem_statements.mpr mem, inside⟩

/-- A broken statement in front is passed over, and the next one is found. -/
theorem findings_complete_after_broken :
    let text : Text := "CREATE TABLE a (CREATE TABLE b (x INT)"
    let second : Statement := ⟨"b", "x INT", 16, 31, 37⟩
    (second ∈ statements text ∧ second.LiesIn text) ∧ HeaderAt text 0 "a" 15 ∧
      ((∃ st ∈ statements text, st.start ≤ 0 ∧ 0 ≤ st.closing) ∨
        Unclosed text (firstOpening text 0)) := by
  intro text second
  have found : second ∈ statements text := by decide +kernel
  have cut : text.drop 0 = 'C' :: text.tail := rfl
  have read : Header.read? ('C' :: text.tail) = some ⟨"a", "CREATE TABLE b (x INT)"⟩ := rfl
  have header : HeaderAt text 0 "a" 15 := (headerAt_of_read? cut read).1
  have complete := findings_complete text
  exact ⟨⟨found, complete.2.1 second found⟩, header, complete.2.2.2 0 "a" 15 header⟩

end SchemaChart
