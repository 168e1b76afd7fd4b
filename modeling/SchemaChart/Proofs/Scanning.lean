import SchemaChart.Proofs.Closing
import SchemaChart.Proofs.Trimming
import SchemaChart.Script.Clause

/-!
# What a scan meets

The search for a closing parenthesis and the cutting of a body make the same steps, the one
a level above the other; what a scan meets does not depend on the level it is counted from
(`Scan.avoids_raise`). A scan that respects quotes comes out of a literal as it has gone in,
and meets nothing on the way, whatever stands in the literal (`run_literal`,
`avoids_literal`).

The search ends nowhere if the scan avoids the parenthesis, and else at the first one that it
meets (`closing?_eq_some_iff`). A text is cut at the first comma that the scan meets, and then
anew from there (`segments_cases`); two texts in a row are cut like each of them, and the
pieces at the seam are one (`segments_append`).
-/

namespace SchemaChart

open Text

/-- Whether the next character is the mark, outside literals on the given level. -/
def Scan.meets (mark : Char) (level : Int) (s : Scan) (c : Char) : Bool :=
  s.place = .outside && c = mark && s.depth = level

/-- A scan that respects quotes does not meet the mark on the level in the text. -/
def Scan.Avoids (mark : Char) (level : Int) (s : Scan) : Text → Prop
  | [] => True
  | c :: rest => s.meets mark level c = false ∧ Avoids mark level (s.step true c) rest

/-- Scanned from behind an opening quote, the text does not close the literal, and no
backslash is pending at its end. -/
def Enclosed (quote : Char) (c : Text) : Prop :=
  (∀ p, p <+: c → (Scan.run true ⟨.inside quote false, 0⟩ p).place ≠ .outside) ∧
    (Scan.run true ⟨.inside quote false, 0⟩ c).place = .inside quote false

theorem Scan.run_cons (aware : Bool) (s : Scan) (c : Char) (text : Text) :
    s.run aware (c :: text) = (s.step aware c).run aware text := rfl

theorem Scan.avoids_append {s : Scan} {a b : Text} :
    s.Avoids mark level (a ++ b) ↔
      s.Avoids mark level a ∧ (s.run true a).Avoids mark level b := by
  induction a generalizing s with
  | nil => simp [Avoids, run]
  | cons c a ih => rw [List.cons_append, Avoids, Avoids, ih, and_assoc, run_cons]

-- ---------------------------------------------------------------------------
-- Steps
-- ---------------------------------------------------------------------------

theorem step_quote (hq : isQuote q = true) (depth : Int) :
    Scan.step true ⟨.outside, depth⟩ q = ⟨.inside q false, depth⟩ := by
  simp only [isQuote, Bool.or_eq_true, decide_eq_true_eq] at hq
  rcases hq with (rfl | rfl) | rfl <;> simp [Scan.step, Place.step, isQuote, nesting]

theorem step_within (aware : Bool) (quote : Char) (escaped : Bool) (depth : Int) (c : Char) :
    Scan.step aware ⟨.inside quote escaped, depth⟩ c =
      ⟨Place.step aware (.inside quote escaped) c, depth⟩ := by
  simp [Scan.step]

theorem step_quoting (opens : (aware && isQuote c) = true) (depth : Int) :
    Scan.step aware ⟨.outside, depth⟩ c = ⟨.inside c false, depth⟩ := by
  obtain ⟨rfl, quote⟩ := Bool.and_eq_true_iff.mp opens
  exact step_quote quote depth

theorem step_unquoted (plain : (aware && isQuote c) = false) (depth : Int) :
    Scan.step aware ⟨.outside, depth⟩ c = ⟨.outside, depth + nesting c⟩ := by
  simp [Scan.step, Place.step, plain]

theorem step_comma (aware : Bool) : Scan.step aware .start ',' = .start := by
  cases aware <;> rfl

theorem ne_of_isQuote (hq : isQuote q = true) (hc : isQuote c = false) : q ≠ c := by
  rintro rfl
  simp [hq] at hc

-- ---------------------------------------------------------------------------
-- The same scan on another level
-- ---------------------------------------------------------------------------

namespace Scan

def raise (k : Int) (s : Scan) : Scan := ⟨s.place, s.depth + k⟩

theorem raise_inj {s t : Scan} (h : s.raise k = t.raise k) : s = t := by
  obtain ⟨place, depth⟩ := s
  obtain ⟨place', depth'⟩ := t
  simpa [raise] using h

theorem step_raise (aware : Bool) (k : Int) (s : Scan) (c : Char) :
    (s.raise k).step aware c = (s.step aware c).raise k := by
  obtain ⟨place, depth⟩ := s
  cases place with
  | outside => simp [step, raise, Int.add_right_comm]
  | inside quote escaped => simp [step, raise]

theorem run_raise (aware : Bool) (k : Int) (s : Scan) (text : Text) :
    (s.raise k).run aware text = (s.run aware text).raise k := by
  induction text generalizing s with
  | nil => rfl
  | cons c text ih => rw [run_cons, run_cons, step_raise, ih]

theorem meets_raise (k : Int) (s : Scan) (c : Char) :
    (s.raise k).meets mark (level + k) c = s.meets mark level c := by
  have same : s.depth + k = level + k ↔ s.depth = level := by omega
  rw [meets, meets, raise, decide_eq_decide.mpr same]

theorem avoids_raise (k : Int) {s : Scan} {text : Text} :
    (s.raise k).Avoids mark (level + k) text ↔ s.Avoids mark level text := by
  induction text generalizing s with
  | nil => rfl
  | cons c text ih => rw [Avoids, Avoids, meets_raise, step_raise, ih]

end Scan

-- ---------------------------------------------------------------------------
-- Literals
-- ---------------------------------------------------------------------------

theorem forall_prefix_iff {P : Text → Prop} :
    (∀ n < s.length + 1, P (s.take n)) ↔ ∀ p, p <+: s → P p := by
  constructor
  · rintro h p ⟨r, rfl⟩
    have front := h p.length (by simp)
    rwa [List.take_left] at front
  · intro h n _
    exact h _ (List.take_prefix n s)

instance : Decidable (Enclosed quote c) :=
  decidable_of_iff ((∀ n < c.length + 1,
      (Scan.run true ⟨.inside quote false, 0⟩ (c.take n)).place ≠ .outside) ∧
    (Scan.run true ⟨.inside quote false, 0⟩ c).place = .inside quote false)
    (and_congr_left fun _ => forall_prefix_iff
      (P := fun p => (Scan.run true ⟨.inside quote false, 0⟩ p).place ≠ .outside))

theorem place_run (aware : Bool) (place : Place) (depth : Int) (text : Text) :
    (Scan.run aware ⟨place, depth⟩ text).place = (Scan.run aware ⟨place, 0⟩ text).place := by
  have level : (⟨place, depth⟩ : Scan) = Scan.raise depth ⟨place, 0⟩ := by simp [Scan.raise]
  rw [level, Scan.run_raise]
  rfl

theorem Place.step_inside (aware : Bool) (quote : Char) (escaped : Bool) (c : Char) :
    Place.step aware (.inside quote escaped) c = .outside ∨
      ∃ escaped', Place.step aware (.inside quote escaped) c = .inside quote escaped' := by
  cases escaped with
  | true => exact .inr ⟨false, rfl⟩
  | false =>
    rw [Place.step]
    split
    · exact .inr ⟨true, rfl⟩
    · split
      · exact .inl rfl
      · exact .inr ⟨false, rfl⟩

/-- As long as a literal stays open, nothing is met and the depth stays as it is. -/
theorem run_open (stays : ∀ p, p <+: c →
      (Scan.run true ⟨.inside quote escaped, depth⟩ p).place ≠ .outside) :
    (∃ escaped', Scan.run true ⟨.inside quote escaped, depth⟩ c =
        ⟨.inside quote escaped', depth⟩) ∧
      ∀ mark level, Scan.Avoids mark level ⟨.inside quote escaped, depth⟩ c := by
  induction c generalizing escaped with
  | nil => exact ⟨⟨escaped, rfl⟩, fun _ _ => trivial⟩
  | cons d c ih =>
    -- inside a literal that stays open a step changes nothing but the escape
    have first : Place.step true (.inside quote escaped) d ≠ .outside :=
      stays [d] (List.prefix_append [d] c)
    obtain ⟨escaped', next⟩ := (Place.step_inside true quote escaped d).resolve_left first
    have step : Scan.step true ⟨.inside quote escaped, depth⟩ d =
        ⟨.inside quote escaped', depth⟩ := by rw [step_within, next]
    have open_ : ∀ p, p <+: c →
        (Scan.run true ⟨.inside quote escaped', depth⟩ p).place ≠ .outside := by
      intro p hp
      rw [← step, ← Scan.run_cons]
      exact stays (d :: p) (List.cons_prefix_cons.mpr ⟨rfl, hp⟩)
    obtain ⟨ends, avoids⟩ := ih open_
    rw [Scan.run_cons, step]
    refine ⟨ends, fun mark level => ⟨by simp [Scan.meets], ?_⟩⟩
    rw [step]
    exact avoids mark level

theorem Enclosed.stays (h : Enclosed quote c) (depth : Int) :
    ∀ p, p <+: c → (Scan.run true ⟨.inside quote false, depth⟩ p).place ≠ .outside := by
  intro p hp
  rw [place_run]
  exact h.1 p hp

theorem Enclosed.run (h : Enclosed quote c) (depth : Int) :
    Scan.run true ⟨.inside quote false, depth⟩ c = ⟨.inside quote false, depth⟩ := by
  obtain ⟨⟨escaped, ends⟩, -⟩ := run_open (h.stays depth)
  have last : Place.inside quote escaped = .inside quote false := by
    rw [← h.2, ← place_run true _ depth, ends]
  rw [ends, last]

theorem step_quote_back (hq : isQuote quote = true) (depth : Int) :
    Scan.step true ⟨.inside quote false, depth⟩ quote = ⟨.outside, depth⟩ := by
  have letter : quote ≠ '\\' := ne_of_isQuote hq (by decide)
  simp [Scan.step, Place.step, letter]

theorem Enclosed.avoids (h : Enclosed quote c) (depth : Int) :
    Scan.Avoids mark level ⟨.inside quote false, depth⟩ (c ++ [quote]) := by
  rw [Scan.avoids_append, h.run]
  exact ⟨(run_open (h.stays depth)).2 mark level, by simp [Scan.meets], trivial⟩

/-- A scan comes out of a literal as it has gone in. -/
theorem run_literal (hq : isQuote quote = true) (h : Enclosed quote c) (depth : Int) :
    Scan.run true ⟨.outside, depth⟩ (quote :: (c ++ [quote])) = ⟨.outside, depth⟩ := by
  rw [Scan.run_cons, step_quote hq, Scan.run_append, h.run, Scan.run_cons, step_quote_back hq]
  rfl

theorem avoids_literal (hq : isQuote quote = true) (h : Enclosed quote c)
    (hm : isQuote mark = false) (depth : Int) :
    Scan.Avoids mark level ⟨.outside, depth⟩ (quote :: (c ++ [quote])) := by
  have other : quote ≠ mark := ne_of_isQuote hq hm
  refine ⟨by simp [Scan.meets, other], ?_⟩
  rw [step_quote hq]
  exact h.avoids depth

-- ---------------------------------------------------------------------------
-- The search
-- ---------------------------------------------------------------------------

theorem closing?_of_avoids (h : s.Avoids ')' 1 a) (r : Text) :
    closing? true s (a ++ r) = (closing? true (s.run true a) r).map (· + a.length) := by
  induction a generalizing s with
  | nil => simp [Scan.run]
  | cons c a ih =>
    obtain ⟨stays, rest⟩ := h
    have opened : s.closes c = false := stays
    rw [List.cons_append, closing?, opened, ih rest, Scan.run_cons, if_neg (by simp),
      Option.map_map]
    rfl

theorem Scan.closes_eq_meets (s : Scan) (c : Char) : s.closes c = s.meets ')' 1 c := rfl

theorem closing?_eq_none_iff : closing? true s text = none ↔ s.Avoids ')' 1 text := by
  induction text generalizing s with
  | nil => simp [closing?, Scan.Avoids]
  | cons c text ih =>
    rw [closing?, Scan.Avoids, Scan.closes_eq_meets]
    cases s.meets ')' 1 c with
    | true => simp
    | false => simp [ih]

theorem closing?_eq_some_iff :
    closing? true s text = some n ↔
      ∃ body rest, text = body ++ ')' :: rest ∧ body.length = n ∧ s.Avoids ')' 1 body ∧
        s.run true body = ⟨.outside, 1⟩ := by
  constructor
  · intro h
    induction text generalizing s n with
    | nil => simp [closing?] at h
    | cons c text ih =>
      rw [closing?] at h
      split at h
      · next closes =>
        simp only [Scan.closes, Bool.and_eq_true, decide_eq_true_eq] at closes
        obtain ⟨⟨place, rfl⟩, depth⟩ := closes
        obtain ⟨p, d⟩ := s
        cases Option.some.inj h
        exact ⟨[], text, rfl, rfl, trivial, by cases place; cases depth; rfl⟩
      · next stays =>
        obtain ⟨m, found, rfl⟩ := Option.map_eq_some_iff.mp h
        obtain ⟨body, rest, rfl, rfl, avoids, ends⟩ := ih found
        exact ⟨c :: body, rest, rfl, rfl, ⟨Bool.eq_false_iff.mpr stays, avoids⟩, ends⟩
  · rintro ⟨body, rest, rfl, rfl, avoids, ends⟩
    rw [closing?_of_avoids avoids, ends, closing?]
    simp [Scan.closes]

-- ---------------------------------------------------------------------------
-- The cutting
-- ---------------------------------------------------------------------------

theorem Scan.cuts_eq_meets (s : Scan) (c : Char) : s.cuts c = s.meets ',' 0 c := rfl

theorem Scan.cuts_iff {s : Scan} : s.cuts c = true ↔ s = .start ∧ c = ',' := by
  obtain ⟨place, depth⟩ := s
  simp only [cuts, start, Scan.mk.injEq, Bool.and_eq_true, decide_eq_true_eq]
  exact and_right_comm

theorem segments_comma (aware : Bool) (text : Text) :
    segments aware .start (',' :: text) = [] :: segments aware .start text := by
  rw [segments, if_pos (Scan.cuts_iff.mpr ⟨rfl, rfl⟩)]

theorem segments_cons (h : s.cuts c = false)
    (rest : segments aware (s.step aware c) text = first :: more) :
    segments aware s (c :: text) = (c :: first) :: more := by
  rw [segments, if_neg (by simp [h]), rest]

theorem segments_ne_nil (aware : Bool) (s : Scan) (text : Text) : segments aware s text ≠ [] := by
  cases text with
  | nil => simp [segments]
  | cons c text =>
    rw [segments]
    split
    · simp
    · split <;> simp

theorem exists_segments (aware : Bool) (s : Scan) (text : Text) :
    ∃ first more, segments aware s text = first :: more :=
  List.exists_cons_of_ne_nil (segments_ne_nil aware s text)

/-- A text that is cut nowhere is one piece. Otherwise the first piece goes up to a comma,
and behind it the cutting begins anew. -/
theorem segments_cases (aware : Bool) (s : Scan) (text : Text) :
    segments aware s text = [text] ∨
      ∃ a b, text = a ++ ',' :: b ∧ segments aware s a = [a] ∧ s.run aware a = .start ∧
        segments aware s text = a :: segments aware .start b := by
  induction text generalizing s with
  | nil => exact .inl rfl
  | cons c text ih =>
    cases cut : s.cuts c with
    | true =>
      obtain ⟨rfl, rfl⟩ := Scan.cuts_iff.mp cut
      exact .inr ⟨[], text, rfl, rfl, rfl, segments_comma aware text⟩
    | false =>
      rcases ih (s.step aware c) with whole | ⟨a, b, rfl, first, ends, more⟩
      · exact .inl (segments_cons cut whole)
      · exact .inr ⟨c :: a, b, rfl, segments_cons cut first, ends, segments_cons cut more⟩

/-- The last piece of the first text goes on with the first piece of the second one. -/
theorem segments_append (ha : segments aware s a = xs ++ [x])
    (hb : segments aware (s.run aware a) b = y :: ys) :
    segments aware s (a ++ b) = xs ++ (x ++ y) :: ys := by
  induction a generalizing s xs x with
  | nil =>
    obtain ⟨rfl, rfl⟩ : xs = [] ∧ x = [] := by
      cases xs with
      | nil => simpa [segments, eq_comm] using ha
      | cons z zs => simp [segments] at ha
    exact hb
  | cons c a ih =>
    cases cut : s.cuts c with
    | true =>
      obtain ⟨rfl, rfl⟩ := Scan.cuts_iff.mp cut
      rw [Scan.run_cons, step_comma] at hb
      rw [segments_comma] at ha
      rw [List.cons_append, segments_comma]
      cases xs with
      | nil => exact absurd (List.cons.inj ha).2 (segments_ne_nil aware .start a)
      | cons z zs =>
        obtain ⟨rfl, rest⟩ := List.cons.inj ha
        rw [ih rest hb]
        rfl
    | false =>
      obtain ⟨first, more, rest⟩ := exists_segments aware (s.step aware c) a
      rw [segments_cons cut rest] at ha
      cases xs with
      | nil =>
        obtain ⟨rfl, rfl⟩ := List.cons.inj ha
        have shape : segments aware (s.step aware c) a = [] ++ [first] := rest
        exact segments_cons cut (ih shape hb)
      | cons z zs =>
        obtain ⟨rfl, rfl⟩ := List.cons.inj ha
        have shape : segments aware (s.step aware c) a = (first :: zs) ++ [x] := rest
        exact segments_cons cut (ih shape hb)

theorem segments_eq_singleton_iff : segments true s text = [text] ↔ s.Avoids ',' 0 text := by
  induction text generalizing s with
  | nil => exact iff_of_true rfl trivial
  | cons c text ih =>
    rw [Scan.Avoids, ← ih, ← Scan.cuts_eq_meets]
    cases cut : s.cuts c with
    | true =>
      obtain ⟨rfl, rfl⟩ := Scan.cuts_iff.mp cut
      simp [segments_comma]
    | false =>
      obtain ⟨first, more, rest⟩ := exists_segments true (s.step true c) text
      simp [segments_cons cut rest, rest]

theorem segments_of_avoids (h : s.Avoids ',' 0 a)
    (after : segments true (s.run true a) r = first :: more) :
    segments true s (a ++ r) = (a ++ first) :: more := by
  have whole : segments true s a = [] ++ [a] := segments_eq_singleton_iff.mpr h
  exact segments_append whole after

theorem mem_clauses : c ∈ clauses true body ↔
    c ≠ [] ∧ ∃ p ∈ segments (!endsInLiteral body) .start body, strip p = c := by
  simp [clauses, and_comm]

theorem strip_of_mem_clauses (h : s ∈ clauses aware body) : strip s = s := by
  obtain ⟨t, -, rfl⟩ := List.mem_map.mp (List.mem_filter.mp h).1
  exact strip_strip t

end SchemaChart
