import SchemaChart.Proofs.Nesting
import SchemaChart.Proofs.Search

/-!
# Clauses are whole

The body between an opening parenthesis and the one that the search finds for it leaves no
literal open and closes no group that it has not opened. Cutting it at its commas makes
pieces of the same kind, in which no comma cuts any more (`Whole`), and stripping a piece
keeps it so. A clause can therefore be searched and cut again by itself, and is found to be
one clause (`clauses_whole`).
-/

namespace SchemaChart

open Text

/-- A text that a scan leaves as it has entered it; on the way no parenthesis closes a group
that is not open, and no comma cuts. -/
structure Whole (p : Text) : Prop where
  ends : Scan.start.run true p = .start
  opened : Scan.start.Avoids ')' 0 p
  uncut : Scan.start.Avoids ',' 0 p

-- ---------------------------------------------------------------------------
-- The depth
-- ---------------------------------------------------------------------------

theorem Scan.depth_step_nonneg {s : Scan} (h : s.meets ')' 0 c = false) (hs : 0 ≤ s.depth) :
    0 ≤ (s.step true c).depth := by
  obtain ⟨place, depth⟩ := s
  cases place with
  | inside quote escaped =>
    rw [step_within]
    exact hs
  | outside =>
    cases quoting : true && isQuote c with
    | true =>
      rw [step_quoting quoting]
      exact hs
    | false =>
      rw [step_unquoted quoting]
      have level : c = ')' → depth ≠ 0 := by simpa [meets] using h
      simp only [nesting] at hs ⊢
      split
      · omega
      · split
        · next closing =>
          have := level closing
          omega
        · omega

theorem Scan.depth_run_nonneg {s : Scan} (h : s.Avoids ')' 0 p) (hs : 0 ≤ s.depth) :
    0 ≤ (s.run true p).depth := by
  induction p generalizing s with
  | nil => exact hs
  | cons c p ih => exact ih h.2 (depth_step_nonneg h.1 hs)

-- ---------------------------------------------------------------------------
-- Blanks and commas
-- ---------------------------------------------------------------------------

/-- A literal that is open has been opened by a quote. -/
def Place.Quoted : Place → Prop
  | .outside => True
  | .inside quote _ => isQuote quote = true

theorem Place.Quoted.step {place : Place} (h : place.Quoted) (aware : Bool) (c : Char) :
    (place.step aware c).Quoted := by
  cases place with
  | outside =>
    rw [Place.step]
    split
    · next opens => exact (Bool.and_eq_true_iff.mp opens).2
    · trivial
  | inside quote escaped =>
    cases escaped with
    | true => exact h
    | false =>
      rw [Place.step]
      split
      · exact h
      · split
        · trivial
        · exact h

theorem Scan.quoted_run {s : Scan} (h : s.place.Quoted) (aware : Bool) (text : Text) :
    (s.run aware text).place.Quoted := by
  induction text generalizing s with
  | nil => exact h
  | cons c text ih => exact ih (h.step aware c)

/-- The same place with no backslash pending. -/
def Place.settled : Place → Place
  | .outside => .outside
  | .inside quote _ => .inside quote false

def Scan.settled (s : Scan) : Scan := ⟨s.place.settled, s.depth⟩

/-- A character that may stand between clauses. -/
def isPause (c : Char) : Bool := isBlank c || c = ','

theorem settled_settled (s : Scan) : s.settled.settled = s.settled := by
  obtain ⟨place, depth⟩ := s
  cases place <;> rfl

theorem settled_place_eq_outside {place : Place} (h : place.settled = .outside) :
    place = .outside := by
  cases place with
  | outside => rfl
  | inside => simp [Place.settled] at h

theorem isPause_of_allBlank (hg : AllBlank g) : ∀ c ∈ g, isPause c = true := fun c mem => by
  simp [isPause, hg c mem]

theorem isPause_plain (h : isPause c = true) :
    isQuote c = false ∧ c ≠ '\\' ∧ nesting c = 0 := by
  have apart : ∀ d ∈ ['\x22', '\x27', '\x60', '\\', '(', ')'], c ≠ d := by
    rintro d mem rfl
    have none : ∀ d ∈ ['\x22', '\x27', '\x60', '\\', '(', ')'], isPause d = false := by decide
    simp [none c mem] at h
  simp only [List.mem_cons, List.not_mem_nil, or_false, forall_eq_or_imp, forall_eq] at apart
  simp [isQuote, nesting, apart]

/-- A blank or a comma opens and closes nothing; it only uses up a pending backslash. -/
theorem step_pause {s : Scan} (quoted : s.place.Quoted) (hc : isPause c = true) (aware : Bool) :
    s.step aware c = s.settled := by
  obtain ⟨quote, letter, level⟩ := isPause_plain hc
  obtain ⟨place, depth⟩ := s
  cases place with
  | outside => rw [step_unquoted (by simp [quote]), level, Int.add_zero]; rfl
  | inside q escaped =>
    have other : c ≠ q := (ne_of_isQuote quoted quote).symm
    cases escaped with
    | true => rfl
    | false => simp [step_within, Place.step, letter, other, Scan.settled, Place.settled]

theorem settled_run_pauses {s : Scan} (quoted : s.place.Quoted) (hg : ∀ c ∈ g, isPause c = true)
    (aware : Bool) : (s.run aware g).settled = s.settled := by
  induction g generalizing s with
  | nil => rfl
  | cons c g ih =>
    obtain ⟨hc, hg⟩ := List.forall_mem_cons.mp hg
    rw [Scan.run_cons, ih (quoted.step aware c) hg, step_pause quoted hc, settled_settled]

theorem run_pauses {s : Scan} (quoted : s.place.Quoted) (calm : s.settled = s)
    (hg : ∀ c ∈ g, isPause c = true) (aware : Bool) : s.run aware g = s := by
  induction g with
  | nil => rfl
  | cons c g ih =>
    obtain ⟨hc, hg⟩ := List.forall_mem_cons.mp hg
    rw [Scan.run_cons, step_pause quoted hc, calm, ih hg]

theorem run_start_blanks (hg : AllBlank g) (aware : Bool) : Scan.run aware .start g = .start :=
  run_pauses (s := .start) trivial rfl (isPause_of_allBlank hg) aware

/-- Blanks close no literal, so a scan that is outside behind them was so before. -/
theorem of_run_blanks {s : Scan} (quoted : s.place.Quoted) (hg : AllBlank g)
    (ends : s.run aware g = ⟨.outside, depth⟩) : s = ⟨.outside, depth⟩ := by
  have settled := settled_run_pauses quoted (isPause_of_allBlank hg) aware
  rw [ends] at settled
  obtain ⟨place, level⟩ := s
  simp only [Scan.settled, Scan.mk.injEq] at settled ⊢
  exact ⟨settled_place_eq_outside settled.1.symm, settled.2.symm⟩

theorem Whole.stripped (h : Whole p) : Whole (strip p) := by
  obtain ⟨g, g', front, back, cut⟩ := exists_strip p
  obtain ⟨ends, opened, uncut⟩ := h
  have skip := run_start_blanks front true
  generalize strip p = c at cut ⊢
  subst cut
  rw [Scan.avoids_append, skip, Scan.avoids_append] at opened uncut
  rw [Scan.run_append, skip, Scan.run_append] at ends
  have quoted := Scan.quoted_run (s := .start) trivial true c
  exact ⟨of_run_blanks quoted back ends, opened.2.1, uncut.2.1⟩

-- ---------------------------------------------------------------------------
-- Pieces
-- ---------------------------------------------------------------------------

theorem Whole.of_mem_segments (ends : Scan.start.run true body = .start)
    (opened : Scan.start.Avoids ')' 0 body) (mem : p ∈ segments true .start body) : Whole p := by
  rcases segments_cases true .start body with whole | ⟨a, b, rfl, first, back, more⟩
  · have uncut := segments_eq_singleton_iff.mp whole
    rw [whole, List.mem_singleton] at mem
    exact mem ▸ ⟨ends, opened, uncut⟩
  · rw [Scan.avoids_append, back] at opened
    rw [Scan.run_append, back, Scan.run_cons, step_comma] at ends
    -- behind the comma the scan is at its start again, with less text left
    obtain ⟨before, -, behind⟩ := opened
    rw [more] at mem
    rcases List.mem_cons.mp mem with rfl | mem
    · exact ⟨back, before, segments_eq_singleton_iff.mp first⟩
    · rw [step_comma] at behind
      exact of_mem_segments ends behind mem
termination_by body.length

theorem Whole.not_endsInLiteral (h : Whole p) : endsInLiteral p = false := by
  rw [endsInLiteral, h.ends]
  rfl

theorem Whole.closing_eq (h : Whole p) :
    closingFrom true ('(' :: (p ++ [')'])) (0 : Nat) = .ok (some ((p.length + 1 : Nat) : Int)) := by
  have inner : closing? true ⟨.outside, 1⟩ (p ++ [')']) = some p.length := by
    refine closing?_eq_some_iff.mpr ⟨p, [], rfl, rfl, ?_, ?_⟩
    · exact (Scan.avoids_raise 1).mpr h.opened
    · exact (Scan.run_raise true 1 .start p).trans (congrArg (Scan.raise 1) h.ends)
  rw [closingFrom_opening true rfl, inner, Option.map_some]
  congr 3
  omega

theorem Whole.clauses_eq (h : Whole p) (clean : strip p = p) (hne : p ≠ []) :
    clauses true p = [p] := by
  have piece := segments_eq_singleton_iff.mpr h.uncut
  simp [clauses, h.not_endsInLiteral, piece, clean, hne]

-- ---------------------------------------------------------------------------
-- The body between two parentheses
-- ---------------------------------------------------------------------------

theorem slice_closed (cut : text.drop opening = '(' :: text.drop (opening + 1))
    (closed : closingFrom true text (opening : Nat) = .ok (some ((closing : Nat) : Int))) :
    Scan.start.run true (slice text (opening + 1) closing) = .start ∧
      Scan.start.Avoids ')' 0 (slice text (opening + 1) closing) := by
  rw [closingFrom_opening true cut] at closed
  obtain ⟨n, found, place⟩ := Option.map_eq_some_iff.mp (Except.ok.inj closed)
  obtain rfl : opening + 1 + n = closing := Int.ofNat_inj.mp place
  obtain ⟨body, rest, after, long, avoids, ends⟩ := closing?_eq_some_iff.mp found
  have same : slice text (opening + 1) (opening + 1 + n) = body := by
    rw [slice, Nat.add_sub_cancel_left, after, ← long, List.take_left]
  -- the search has one group open more than the cutting of the body
  have level : (⟨.outside, 1⟩ : Scan) = Scan.start.raise 1 := rfl
  rw [level] at avoids ends
  rw [Scan.run_raise] at ends
  rw [same]
  exact ⟨Scan.raise_inj ends, (Scan.avoids_raise 1).mp avoids⟩

/-- The search for a closing parenthesis and the cutting of a body agree. Between an opening
parenthesis and the one found for it no literal stays open and the depth never falls below
zero, so quotes are respected; and each clause of that body is closed as one group and cut
into itself alone. -/
theorem clauses_whole {text : Text} {opening closing : Nat} (opens : text[opening]? = some '(')
    (closed : closingFrom true text opening = .ok (some (closing : Int))) :
    let body := slice text (opening + 1) closing
    endsInLiteral body = false ∧
    (∀ p, p <+: body → 0 ≤ (Scan.start.run true p).depth) ∧
    ∀ c ∈ clauses true body,
      closingFrom true ('(' :: (c ++ [')'])) (0 : Nat) = .ok (some ((c.length + 1 : Nat) : Int)) ∧
      clauses true c = [c] := by
  intro body
  obtain ⟨ends, opened⟩ := slice_closed (drop_of_getElem? opens) closed
  have respected : endsInLiteral body = false := by
    rw [endsInLiteral, ends]
    rfl
  refine ⟨respected, ?_, fun c mem => ?_⟩
  · rintro p ⟨r, whole⟩
    rw [show slice text (opening + 1) closing = p ++ r from whole.symm, Scan.avoids_append]
      at opened
    exact Scan.depth_run_nonneg opened.1 (Int.le_refl 0)
  · obtain ⟨hne, p, piece, rfl⟩ := mem_clauses.mp mem
    rw [respected, Bool.not_false] at piece
    have whole := (Whole.of_mem_segments ends opened piece).stripped
    exact ⟨whole.closing_eq, whole.clauses_eq (strip_of_mem_clauses mem) hne⟩

/-- A clause with commas and parentheses in its literals and an escaped quote, in front of an
empty clause and another column. -/
theorem clauses_whole_quoted :
    let text : Text := "t (a ENUM('x,)','it\\'s('), , b INT)"
    let body := slice text 3 34
    let c : Text := "a ENUM('x,)','it\\'s(')"
    text[2]? = some '(' ∧ closingFrom true text (2 : Nat) = .ok (some ((34 : Nat) : Int)) ∧
      clauses true body = [c, "b INT"] ∧ endsInLiteral body = false ∧
      closingFrom true ('(' :: (c ++ [')'])) (0 : Nat) = .ok (some ((c.length + 1 : Nat) : Int)) ∧
      clauses true c = [c] := by
  intro text body c
  have opens : text[2]? = some '(' := by decide
  have closed : closingFrom true text (2 : Nat) = .ok (some ((34 : Nat) : Int)) := rfl
  have cut : clauses true body = [c, "b INT"] := by decide
  have whole := clauses_whole opens closed
  refine ⟨opens, closed, cut, whole.1, whole.2.2 c ?_⟩
  exact cut ▸ List.mem_cons_self

end SchemaChart
