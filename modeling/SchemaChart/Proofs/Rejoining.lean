import SchemaChart.Proofs.Clauses
import SchemaChart.Proofs.Cuts
import SchemaChart.Proofs.WholeClauses

/-!
# Clauses joined again

A body may be written anew with its clauses joined by a comma and a space. Between two clauses
only blanks and commas come and go, and these leave a scan where it was, but for a backslash
that was pending (`settled_run_kept`). So both texts leave a literal open at their end or
neither does, and they are cut in the same mode. In that mode the clauses of the new text are
the old ones (`kept_segments_joinWith`), which makes the splitting stable (`clauses_rejoined`).
-/

namespace SchemaChart

open Text

/-- What is kept of the pieces of a body. -/
def kept (pieces : List Text) : List Text := (pieces.map strip).filter (!·.isEmpty)

theorem clauses_eq_kept (body : Text) :
    clauses true body = kept (segments (!endsInLiteral body) .start body) := by
  simp [clauses, kept]

@[simp] theorem kept_nil : kept [] = [] := rfl

theorem kept_cons (p : Text) (ps : List Text) :
    kept (p :: ps) = if strip p = [] then kept ps else strip p :: kept ps := by
  by_cases empty : strip p = [] <;> simp [kept, empty]

-- ---------------------------------------------------------------------------
-- Where the scan ends
-- ---------------------------------------------------------------------------

theorem settled_quoted {s : Scan} (h : s.place.Quoted) : s.settled.place.Quoted := by
  obtain ⟨place, depth⟩ := s
  cases place <;> exact h

theorem run_pauses_of_ne_nil {s : Scan} (quoted : s.place.Quoted) (hne : g ≠ [])
    (hg : ∀ c ∈ g, isPause c = true) (aware : Bool) : s.run aware g = s.settled := by
  obtain ⟨c, g, rfl⟩ := List.exists_cons_of_ne_nil hne
  obtain ⟨hc, hg⟩ := List.forall_mem_cons.mp hg
  rw [Scan.run_cons, step_pause quoted hc,
    run_pauses (settled_quoted quoted) (settled_settled s) hg]

theorem isPause_blanks_comma (hg : AllBlank g) : ∀ c ∈ g ++ [','], isPause c = true :=
  List.forall_mem_append.mpr ⟨isPause_of_allBlank hg, by decide⟩

theorem joinWith_kept_singleton (p : Text) : joinWith ", " (kept [p]) = strip p := by
  rw [kept_cons]
  split
  · next empty => rw [empty]; rfl
  · rfl

/-- Joining the clauses of the pieces takes a scan where joining the pieces takes it. -/
theorem settled_run_kept {s : Scan} (quoted : s.place.Quoted) (calm : s.settled = s)
    (aware : Bool) (ps : List Text) :
    (s.run aware (joinWith ", " (kept ps))).settled =
      (s.run aware (joinWith [','] ps)).settled := by
  induction ps generalizing s with
  | nil => rfl
  | cons p ps ih =>
    obtain ⟨g, g', front, back, cut⟩ := exists_strip p
    have skip : s.run aware g = s :=
      run_pauses quoted calm (isPause_of_allBlank front) aware
    have stays : (s.run aware (strip p)).place.Quoted := Scan.quoted_run quoted aware (strip p)
    cases ps with
    | nil =>
      have blanks := settled_run_pauses stays (isPause_of_allBlank back) aware
      rw [joinWith_kept_singleton, joinWith, ← blanks]
      conv_rhs => rw [cut]
      rw [Scan.run_append, skip, Scan.run_append]
    | cons q ps =>
      -- behind the comma the scan is settled, whatever the piece ends with
      have behind : s.run aware (p ++ [',']) = (s.run aware (strip p)).settled := by
        have pauses := run_pauses_of_ne_nil stays (by simp) (isPause_blanks_comma back) aware
        rw [← pauses, ← Scan.run_append]
        conv_lhs => rw [cut]
        rw [List.append_assoc, List.append_assoc, Scan.run_append, skip]
      have rest := ih (settled_quoted stays) (settled_settled _)
      rw [joinWith_cons_cons, Scan.run_append, behind, ← rest, kept_cons]
      split
      · next empty => rw [empty]; exact congrArg (fun s => (Scan.run aware s _).settled) calm.symm
      · cases kept (q :: ps) with
        | nil => exact (settled_settled _).symm
        | cons c cs =>
          have comma := run_pauses_of_ne_nil (g := ", ") stays (by simp) (by decide) aware
          rw [joinWith_cons_cons, Scan.run_append, Scan.run_append, comma]

theorem endsInLiteral_rejoined (body : Text) :
    endsInLiteral (joinWith ", " (clauses true body)) = endsInLiteral body := by
  have same := settled_run_kept (s := .start) trivial rfl true
    (segments (!endsInLiteral body) .start body)
  rw [joinWith_segments, ← clauses_eq_kept] at same
  have outside (s : Scan) : s.place ≠ .outside ↔ s.settled.place ≠ .outside := by
    obtain ⟨place, depth⟩ := s
    cases place <;> simp [Scan.settled, Place.settled]
  rw [endsInLiteral, endsInLiteral, decide_eq_decide, outside, same, ← outside]

-- ---------------------------------------------------------------------------
-- Where the text is cut
-- ---------------------------------------------------------------------------

theorem uncut_append (h : segments aware s (a ++ b) = [a ++ b]) :
    segments aware s a = [a] ∧ segments aware (s.run aware a) b = [b] := by
  obtain ⟨xs, x, first⟩ := (List.eq_nil_or_concat' (segments aware s a)).resolve_left
    (segments_ne_nil aware s a)
  obtain ⟨y, ys, second⟩ := exists_segments aware (s.run aware a) b
  rw [segments_append first second] at h
  obtain ⟨rfl, rfl⟩ : xs = [] ∧ ys = [] := by
    have size := congrArg List.length h
    simp only [List.length_append, List.length_cons, List.length_nil] at size
    exact ⟨List.eq_nil_of_length_eq_zero (by omega), List.eq_nil_of_length_eq_zero (by omega)⟩
  have back := joinWith_segments aware s a
  have back' := joinWith_segments aware (s.run aware a) b
  rw [first] at back
  rw [second] at back'
  exact ⟨by rw [first]; exact congrArg (fun t => [t]) back,
    by rw [second]; exact congrArg (fun t => [t]) back'⟩

theorem uncut_strip (h : segments aware .start p = [p]) :
    segments aware .start (strip p) = [strip p] := by
  obtain ⟨g, g', front, -, cut⟩ := exists_strip p
  rw [cut] at h
  have behind := (uncut_append h).2
  rw [run_start_blanks front aware] at behind
  exact (uncut_append behind).1

theorem run_strip (h : Scan.start.run aware p = .start) :
    Scan.start.run aware (strip p) = .start := by
  obtain ⟨g, g', front, back, cut⟩ := exists_strip p
  rw [cut, Scan.run_append, run_start_blanks front aware,
    Scan.run_append] at h
  exact of_run_blanks (Scan.quoted_run (s := .start) trivial aware (strip p)) back h

theorem kept_strip (p : Text) : kept [strip p] = kept [p] := by
  rw [kept_cons, kept_cons, strip_strip]

/-- A stripped piece with a comma and a space behind it is cut off again; the space goes to the
piece behind the comma, and is stripped off there. -/
theorem kept_segments_comma (uncut : segments aware .start p = [p])
    (ends : Scan.start.run aware p = .start) (text : Text) :
    kept (segments aware .start (strip p ++ (',' :: ' ' :: text))) =
      kept (p :: segments aware .start text) := by
  obtain ⟨q, qs, cut⟩ := exists_segments aware .start text
  have spaced : segments aware .start (' ' :: text) = (' ' :: q) :: qs := by
    refine segments_cons (by decide) ?_
    rw [step_pause (s := .start) trivial (by decide)]
    exact cut
  have whole : segments aware .start (strip p ++ (',' :: ' ' :: text)) =
      [] ++ (strip p ++ []) :: (' ' :: q) :: qs := by
    refine segments_append (uncut_strip uncut) ?_
    rw [run_strip ends, segments_comma, spaced]
  rw [whole, List.nil_append, List.append_nil, cut, kept_cons, kept_cons p, strip_strip,
    kept_cons (' ' :: q), kept_cons q, strip_cons_blank (by decide)]

/-- In one mode the clauses of a body, joined again, are cut into themselves. -/
theorem kept_segments_joinWith (aware : Bool) (body : Text) :
    kept (segments aware .start (joinWith ", " (kept (segments aware .start body)))) =
      kept (segments aware .start body) := by
  rcases segments_cases aware .start body with whole | ⟨a, b, rfl, first, ends, more⟩
  · rw [whole, joinWith_kept_singleton, uncut_strip whole, kept_strip]
  · have rest := kept_segments_joinWith aware b
    rw [more, kept_cons]
    split
    · exact rest
    · next solid =>
      cases behind : kept (segments aware .start b) with
      | nil => rw [joinWith, uncut_strip first, kept_strip, kept_cons, if_neg solid, kept_nil]
      | cons c cs =>
        have shape : joinWith ", " (strip a :: c :: cs) =
            strip a ++ (',' :: ' ' :: joinWith ", " (c :: cs)) := by
          simp [joinWith_cons_cons]
        rw [shape, kept_segments_comma first ends, kept_cons, if_neg solid, ← behind, rest]
termination_by body.length

/-- Splitting is stable: the clauses of a body, joined by commas and spaces, are the clauses of
the text that they make, even if the body leaves a literal or a group open. -/
theorem clauses_rejoined (body : Text) :
    clauses true (joinWith ", " (clauses true body)) = clauses true body := by
  rw [clauses_eq_kept (joinWith _ _), endsInLiteral_rejoined, clauses_eq_kept body,
    kept_segments_joinWith]

end SchemaChart
