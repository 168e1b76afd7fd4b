import SchemaChart.Proofs.Matching
import SchemaChart.Proofs.Normal

/-!
# Where a body is cut

The pieces of a body are its text again once they are joined (`joinWith_segments`), and they
meet where the scan stands at its start in front of a comma (`seamAt_segments`). What the scan
has counted up to there is what can be seen of the text, literals left out
(`getElem?_visible`, `depth_run_take`), and whether a literal is still open at the end is told
by whether anything behind the text would be seen (`leavesOpen_eq`). So a body is cut at the
commas that stand outside literals and groups and nowhere else, and nothing of it is lost
(`clauses_between_cuts`).
-/

namespace SchemaChart

open Text

variable {s : Scan}

/-- Whether a comma behind the text would belong to a literal that the text leaves open. -/
def leavesOpen (text : Text) : Bool :=
  (visible true 0 (text ++ [',']))[text.length]? ≠ some (some ',')

/-- A comma outside literals, with as many parentheses opened as closed before it. -/
def CutAt (aware : Bool) (body : Text) (i : Nat) : Prop :=
  let seen := visible aware 0 body
  seen[i]? = some (some ',') ∧ (seen.take i).count (some '(') = (seen.take i).count (some ')')

/-- The place of a separator between the pieces: it stands behind the first few of them. -/
def SeamAt (pieces : List Text) (i : Nat) : Prop :=
  ∃ n, 0 < n ∧ n < pieces.length ∧ i = (joinWith [','] (pieces.take n)).length

-- ---------------------------------------------------------------------------
-- What a scan sees
-- ---------------------------------------------------------------------------

/-- The next character, unless it belongs to a literal. -/
def Scan.sees (aware : Bool) (s : Scan) (c : Char) : Option Char :=
  if s.place = .outside ∧ (aware && isQuote c) = false then some c else none

theorem visible_cons (aware : Bool) (s : Scan) (c : Char) (text : Text) :
    visible aware (s.place.pending (c :: text)) (c :: text) =
      s.sees aware c :: visible aware ((s.step aware c).place.pending text) text := by
  obtain ⟨place, depth⟩ := s
  cases place with
  | inside quote escaped =>
    rw [Place.pending_cons (by simp) aware, visible, step_within]
    simp [Scan.sees]
  | outside =>
    rw [Place.pending, visible]
    split
    · next opens =>
      rw [step_quoting opens]
      simp [Scan.sees, opens, Place.pending]
    · next plain =>
      rw [step_unquoted (Bool.eq_false_iff.mpr plain)]
      simp [Scan.sees, plain, Place.pending]

theorem sees_eq_some_iff (hd : isQuote d = false) :
    s.sees aware c = some d ↔ c = d ∧ s.place = .outside := by
  rw [Scan.sees]
  split
  · next seen => simp [seen.1]
  · next hidden =>
    refine iff_of_false (by simp) ?_
    rintro ⟨rfl, outside⟩
    exact hidden ⟨outside, by simp [hd]⟩

theorem depth_step (aware : Bool) (s : Scan) (c : Char) :
    (s.step aware c).depth = s.depth +
      (if s.sees aware c = some '(' then 1 else 0) -
      (if s.sees aware c = some ')' then 1 else 0) := by
  rw [Scan.step]
  simp only [sees_eq_some_iff (by decide : isQuote '(' = false),
    sees_eq_some_iff (by decide : isQuote ')' = false), nesting]
  by_cases outside : s.place = .outside
  · by_cases opening : c = '('
    · simp [outside, opening]
    · by_cases closing : c = ')'
      · simp [outside, closing]
        omega
      · simp [outside, opening, closing]
  · simp [outside]

/-- A character that is no quote is seen where it stands, if the scan is outside there. -/
theorem getElem?_visible (hd : isQuote d = false) :
    (visible aware (s.place.pending text) text)[i]? = some (some d) ↔
      text[i]? = some d ∧ (s.run aware (text.take i)).place = .outside := by
  induction text generalizing s i with
  | nil => simp [visible]
  | cons c text ih =>
    rw [visible_cons]
    cases i with
    | zero => simp [sees_eq_some_iff hd, Scan.run]
    | succ i => simp [ih, Scan.run_cons]

theorem leavesOpen_eq (text : Text) : leavesOpen text = endsInLiteral text := by
  have seen : (visible true 0 (text ++ [',']))[text.length]? = some (some ',') ↔
      (text ++ [','])[text.length]? = some ',' ∧
        (Scan.start.run true ((text ++ [',']).take text.length)).place = .outside :=
    getElem?_visible (s := .start) (by decide)
  have comma : (text ++ [','])[text.length]? = some ',' := by simp
  rw [List.take_left, and_iff_right comma] at seen
  rw [leavesOpen, endsInLiteral, decide_eq_decide, ne_eq, ne_eq, seen]

/-- The depth counts the parentheses that have been seen. -/
theorem depth_run_take (aware : Bool) (s : Scan) (text : Text) (i : Nat) :
    let seen := (visible aware (s.place.pending text) text).take i
    (s.run aware (text.take i)).depth =
      s.depth + seen.count (some '(') - seen.count (some ')') := by
  induction text generalizing s i with
  | nil => simp [visible, Scan.run]
  | cons c text ih =>
    cases i with
    | zero => simp [Scan.run]
    | succ i =>
      have rest := ih (s.step aware c) i
      rw [depth_step] at rest
      simp only [visible_cons, List.take_succ_cons, Scan.run_cons, List.count_cons, beq_iff_eq]
      rw [rest]
      push_cast
      omega

theorem cutAt_iff : CutAt aware body i ↔
    body[i]? = some ',' ∧ Scan.start.run aware (body.take i) = .start := by
  have comma : (visible aware 0 body)[i]? = some (some ',') ↔
      body[i]? = some ',' ∧ (Scan.start.run aware (body.take i)).place = .outside :=
    getElem?_visible (s := .start) (by decide)
  have depth : (Scan.start.run aware (body.take i)).depth =
      0 + ((visible aware 0 body).take i).count (some '(') -
        ((visible aware 0 body).take i).count (some ')') := depth_run_take aware .start body i
  rw [CutAt, comma, and_assoc]
  refine and_congr_right fun _ => ?_
  generalize Scan.start.run aware (body.take i) = s at depth ⊢
  obtain ⟨place, level⟩ := s
  simp only [Scan.start, Scan.mk.injEq] at depth ⊢
  refine and_congr_right fun _ => ?_
  omega

-- ---------------------------------------------------------------------------
-- Pieces and their seams
-- ---------------------------------------------------------------------------

theorem joinWith_cons_char (gap : Text) (c : Char) (p : Text) (ps : List Text) :
    joinWith gap ((c :: p) :: ps) = c :: joinWith gap (p :: ps) := by
  cases ps with
  | nil => rfl
  | cons q ps => simp [joinWith_cons_cons]

theorem joinWith_segments (aware : Bool) (s : Scan) (text : Text) :
    joinWith [','] (segments aware s text) = text := by
  induction text generalizing s with
  | nil => rfl
  | cons c text ih =>
    have rest := ih (s.step aware c)
    obtain ⟨first, more, cut⟩ := exists_segments aware (s.step aware c) text
    cases cuts : s.cuts c with
    | true =>
      obtain ⟨rfl, rfl⟩ := Scan.cuts_iff.mp cuts
      rw [step_comma] at rest cut
      rw [cut] at rest
      rw [segments_comma, cut, joinWith_cons_cons, rest]
      rfl
    | false =>
      rw [cut] at rest
      rw [segments_cons cuts cut, joinWith_cons_char, rest]

theorem seamAt_singleton (p : Text) (i : Nat) : ¬SeamAt [p] i := by
  rintro ⟨n, pos, short, -⟩
  rw [List.length_singleton] at short
  omega

theorem seamAt_cons_nil (p : Text) (ps : List Text) :
    SeamAt ([] :: p :: ps) i ↔ i = 0 ∨ ∃ j, i = j + 1 ∧ SeamAt (p :: ps) j := by
  constructor
  · rintro ⟨n, pos, short, rfl⟩
    match n, pos with
    | 1, _ => exact .inl rfl
    | n + 2, _ =>
      refine .inr ⟨_, ?_, n + 1, Nat.succ_pos n, by simpa using short, rfl⟩
      simp [joinWith_cons_cons]
  · rintro (rfl | ⟨j, rfl, n, pos, short, rfl⟩)
    · exact ⟨1, by omega, by simp, rfl⟩
    · obtain ⟨n, rfl⟩ := Nat.exists_eq_succ_of_ne_zero pos.ne'
      exact ⟨n + 2, by omega, by simpa using short, by simp [joinWith_cons_cons]⟩

theorem seamAt_cons_cons (c : Char) (p : Text) (ps : List Text) :
    SeamAt ((c :: p) :: ps) i ↔ ∃ j, i = j + 1 ∧ SeamAt (p :: ps) j := by
  have longer : ∀ n, 0 < n → (joinWith [','] (((c :: p) :: ps).take n)).length =
      (joinWith [','] ((p :: ps).take n)).length + 1 := by
    intro n pos
    obtain ⟨n, rfl⟩ := Nat.exists_eq_succ_of_ne_zero pos.ne'
    simp [joinWith_cons_char]
  constructor
  · rintro ⟨n, pos, short, rfl⟩
    exact ⟨_, longer n pos, n, pos, short, rfl⟩
  · rintro ⟨j, rfl, n, pos, short, rfl⟩
    exact ⟨n, pos, short, (longer n pos).symm⟩

/-- The pieces meet at the commas that the scan reaches as it has started. -/
theorem seamAt_segments : SeamAt (segments aware s text) i ↔
    text[i]? = some ',' ∧ s.run aware (text.take i) = .start := by
  induction text generalizing s i with
  | nil => simpa [segments] using seamAt_singleton [] i
  | cons c text ih =>
    obtain ⟨first, more, cut⟩ := exists_segments aware (s.step aware c) text
    have rest : ∀ j, SeamAt (first :: more) j ↔
        text[j]? = some ',' ∧ (s.step aware c).run aware (text.take j) = .start := fun j => by
      rw [← cut, ih]
    -- the character ends an empty piece, or it joins the first one and moves all seams by one
    cases cuts : s.cuts c with
    | true =>
      obtain ⟨rfl, rfl⟩ := Scan.cuts_iff.mp cuts
      rw [step_comma] at rest cut
      rw [segments_comma, cut, seamAt_cons_nil]
      cases i with
      | zero => simp [Scan.run]
      | succ i => simp [rest, Scan.run_cons, step_comma]
    | false =>
      rw [segments_cons cuts cut, seamAt_cons_cons]
      cases i with
      | zero =>
        have other : c = ',' → s ≠ .start := fun comma start => by
          simp [Scan.cuts_iff.mpr ⟨start, comma⟩] at cuts
        simpa [Scan.run] using other
      | succ i => simp [rest, Scan.run_cons]

/-- Cutting a body loses nothing. Its pieces are the text again with a comma between any two,
and these commas are all those outside literals and groups; if the body leaves a literal open,
there are no literals in it, and a quote is a character like any other. The clauses are the
pieces, stripped, without the empty ones. -/
theorem clauses_between_cuts (body : Text) :
    ∃ pieces : List Text, pieces ≠ [] ∧ joinWith [','] pieces = body ∧
      (∀ i, SeamAt pieces i ↔ CutAt (!leavesOpen body) body i) ∧
      clauses true body = (pieces.map strip).filter (!·.isEmpty) := by
  refine ⟨segments (!endsInLiteral body) .start body, segments_ne_nil _ _ _,
    joinWith_segments _ _ _, fun i => ?_, by simp [clauses]⟩
  rw [leavesOpen_eq, cutAt_iff, seamAt_segments]

end SchemaChart
