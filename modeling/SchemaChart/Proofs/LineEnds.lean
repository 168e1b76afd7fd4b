import SchemaChart.Proofs.Spacing
import SchemaChart.Text.Utf8

/-!
# Line ends

Texts that come in bytes have their line ends unified before they are read as scripts; a
script that comes as a value keeps its carriage returns. Both forms are read alike, unless
a line comment runs on behind a carriage return (`overrunsReturn`): with unified line ends
it is over there, as it stands it takes the rest of its line.

`Schema.read_unifyLines`: a script whose line comments do not overrun a carriage return is
read the same with unified line ends.
-/

namespace SchemaChart

namespace Text

/-- Whether a line comment goes on behind a carriage return with more than blanks; `inside`
tells whether a comment is open. -/
def overrunsReturn (inside : Bool) : Text → Bool
  | [] => false
  | c :: rest =>
    if inside then
      if c = '\n' then overrunsReturn false rest
      else c = '\r' && !(before '\n' rest).all isBlank || overrunsReturn true rest
    else if c = '-' && rest.head? = some '-' then overrunsReturn true rest
    else overrunsReturn false rest

-- ---------------------------------------------------------------------------
-- Unified line ends
-- ---------------------------------------------------------------------------

theorem unifyLines_cons (h : c ≠ '\r') (s : Text) :
    unifyLines false (c :: s) = c :: unifyLines false s := by
  simp [unifyLines, h]

theorem unifyLines_return (after : Bool) (s : Text) :
    unifyLines after ('\r' :: s) = '\n' :: unifyLines true s := by
  simp [unifyLines]

/-- A line feed behind a carriage return belongs to it, anything else does not. -/
theorem unifyLines_true_cases (s : Text) :
    (∃ t, s = '\n' :: t ∧ unifyLines true s = unifyLines false t) ∨
      unifyLines true s = unifyLines false s := by
  cases s with
  | nil => exact .inr rfl
  | cons c t =>
    by_cases feed : c = '\n'
    · exact .inl ⟨t, congrArg (· :: t) feed, by simp [unifyLines, feed]⟩
    · exact .inr (by simp [unifyLines, feed])

theorem head?_unifyLines (return' : d ≠ '\r') (feed : d ≠ '\n') (s : Text) :
    (unifyLines false s).head? = some d ↔ s.head? = some d := by
  cases s with
  | nil => rfl
  | cons c s =>
    by_cases hc : c = '\r'
    · simp [hc, unifyLines_return, return'.symm, feed.symm]
    · simp [unifyLines, hc]

/-- Blanks stay blanks. -/
theorem unifyLines_blanks (hg : AllBlank g) (after : Bool) :
    ∃ g' after', AllBlank g' ∧ ∀ s, unifyLines after (g ++ s) = g' ++ unifyLines after' s := by
  induction g generalizing after with
  | nil => exact ⟨[], after, allBlank_nil, fun s => rfl⟩
  | cons c g ih =>
    obtain ⟨hc, hg⟩ := List.forall_mem_cons.mp hg
    by_cases return' : c = '\r'
    · obtain ⟨g', after', hg', rest⟩ := ih hg true
      refine ⟨'\n' :: g', after', List.forall_mem_cons.mpr ⟨by decide, hg'⟩, fun s => ?_⟩
      rw [List.cons_append, return', unifyLines_return, rest, List.cons_append]
    · obtain ⟨g', after', hg', rest⟩ := ih hg false
      by_cases joined : c = '\n' ∧ after = true
      · exact ⟨g', after', hg', fun s => by simp [unifyLines, joined, rest]⟩
      · refine ⟨c :: g', after', List.forall_mem_cons.mpr ⟨hc, hg'⟩, fun s => ?_⟩
        simp [unifyLines, return', joined, rest]

-- ---------------------------------------------------------------------------
-- Line comments
-- ---------------------------------------------------------------------------

theorem dropLineComments_blanks (hg : AllBlank g) (s : Text) :
    dropLineComments false (g ++ s) = g ++ dropLineComments false s := by
  induction g with
  | nil => rfl
  | cons c g ih =>
    obtain ⟨hc, hg⟩ := List.forall_mem_cons.mp hg
    rw [List.cons_append, dropLineComments_blank hc, ih hg, List.cons_append]

/-- A comment that only blanks follow is over at its carriage return as well as at its line
feed: blanks are left of the line either way. -/
theorem alike_return {s : Text} (line : AllBlank (before '\n' s))
    (next : ∀ t, s = before '\n' s ++ '\n' :: t →
      Alike (dropLineComments false t) (dropLineComments false (unifyLines false t))) :
    Alike (dropLineComments true s) ('\n' :: dropLineComments false (unifyLines true s)) := by
  have feed := not_mem_before '\n' s
  obtain ⟨g, after, hg, unified⟩ := unifyLines_blanks line true
  rcases before_cases '\n' s with whole | ⟨t, cut⟩
  · have blanks : unifyLines true s = g := by
      rw [whole, ← List.append_nil (before '\n' s), unified, unifyLines, List.append_nil]
    have kept := dropLineComments_blanks hg []
    rw [dropLineComments, List.append_nil] at kept
    rw [← whole] at feed
    rw [blanks, kept, dropLineComments_inside feed]
    exact .ends allBlank_nil (List.forall_mem_cons.mpr ⟨by decide, hg⟩)
  · have rest := next t cut
    have dropped : dropLineComments true s = '\n' :: dropLineComments false t := by
      rw [cut, dropLineComments_append_feed, dropLineComments_inside feed, List.nil_append]
    obtain ⟨g', hg', kept⟩ : ∃ g', AllBlank g' ∧
        dropLineComments false (unifyLines true s) =
          g' ++ dropLineComments false (unifyLines false t) := by
      rw [cut, unified, dropLineComments_blanks hg]
      cases after with
      | true => exact ⟨g, hg, by simp [unifyLines]⟩
      | false =>
        refine ⟨g ++ ['\n'], hg.append (List.forall_mem_cons.mpr ⟨by decide, allBlank_nil⟩), ?_⟩
        rw [unifyLines_cons (by decide), dropLineComments_blank (by decide), List.append_assoc]
        rfl
    rw [dropped, kept]
    exact .run (by decide) (by decide) allBlank_nil hg' rest

theorem overrunsReturn_line (h : overrunsReturn true (a ++ '\n' :: t) = false) (feed : '\n' ∉ a) :
    overrunsReturn false t = false := by
  induction a with
  | nil => simpa [overrunsReturn] using h
  | cons c a ih =>
    obtain ⟨hc, ha⟩ := List.ne_and_not_mem_of_not_mem_cons feed
    rw [List.cons_append, overrunsReturn, if_pos rfl, if_neg hc.symm, Bool.or_eq_false_iff] at h
    exact ih h.2 ha

/-- Unified line ends make no difference once line comments are out. -/
def UnifiesAlike (inside : Bool) (s : Text) : Prop :=
  Alike (dropLineComments inside s) (dropLineComments inside (unifyLines false s))

/-- A step inside a comment. -/
theorem UnifiesAlike.inside
    (rest : ∀ inside t, t.length ≤ s.length → overrunsReturn inside t = false →
      UnifiesAlike inside t)
    (h : overrunsReturn true (c :: s) = false) : UnifiesAlike true (c :: s) := by
  rw [overrunsReturn, if_pos rfl] at h
  unfold UnifiesAlike
  by_cases feed : c = '\n'
  · rw [if_pos feed] at h
    rw [feed, unifyLines_cons (by decide), dropLineComments_feed, dropLineComments_feed]
    exact (rest false s le_rfl h).cons '\n'
  · rw [if_neg feed, Bool.or_eq_false_iff] at h
    rw [dropLineComments_skip feed]
    by_cases return' : c = '\r'
    · have line : AllBlank (before '\n' s) := by simpa [return', AllBlank] using h.1
      rw [return', unifyLines_return, dropLineComments_feed]
      refine alike_return line fun t cut => rest false t ?_ ?_
      · have := congrArg List.length cut
        simp only [List.length_append, List.length_cons] at this
        omega
      · exact overrunsReturn_line (cut ▸ h.2) (not_mem_before '\n' s)
    · rw [unifyLines_cons return', dropLineComments_skip feed]
      exact rest true s le_rfl h.2

/-- A step outside of comments. -/
theorem UnifiesAlike.outside
    (rest : ∀ inside t, t.length ≤ s.length → overrunsReturn inside t = false →
      UnifiesAlike inside t)
    (h : overrunsReturn false (c :: s) = false) : UnifiesAlike false (c :: s) := by
  rw [overrunsReturn, if_neg (by simp)] at h
  unfold UnifiesAlike
  by_cases opens : c = '-' ∧ s.head? = some '-'
  · obtain ⟨rfl, dash⟩ := opens
    rw [if_pos (by simp [dash])] at h
    have dash' := (head?_unifyLines (by decide) (by decide) s).mpr dash
    rw [unifyLines_cons (by decide), dropLineComments_dashes dash, dropLineComments_dashes dash']
    exact rest true s le_rfl h
  rw [if_neg (by simpa using opens)] at h
  rw [dropLineComments_cons opens]
  by_cases return' : c = '\r'
  · rw [return', unifyLines_return, dropLineComments_blank (by decide)]
    rcases unifyLines_true_cases s with ⟨t, rfl, joined⟩ | apart
    · rw [joined, dropLineComments_blank (by decide)]
      have behind : overrunsReturn false t = false := by simpa [overrunsReturn] using h
      refine .run (g := ['\n']) (by decide) (by decide) ?_ allBlank_nil
        (rest false t (by simp) behind)
      exact List.forall_mem_cons.mpr ⟨by decide, allBlank_nil⟩
    · rw [apart]
      exact .run (by decide) (by decide) allBlank_nil allBlank_nil (rest false s le_rfl h)
  · have opens' : ¬(c = '-' ∧ (unifyLines false s).head? = some '-') := by
      rwa [head?_unifyLines (by decide) (by decide)]
    rw [unifyLines_cons return', dropLineComments_cons opens']
    exact (rest false s le_rfl h).cons c

/-- The induction is on the length: behind a carriage return the texts are compared from
the next line on. -/
theorem unifiesAlike (h : overrunsReturn inside s = false) : UnifiesAlike inside s := by
  induction size : s.length using Nat.strong_induction_on generalizing s inside with
  | _ n ih =>
  cases s with
  | nil => exact Alike.refl _
  | cons c s =>
    have rest : ∀ inside t, t.length ≤ s.length → overrunsReturn inside t = false →
        UnifiesAlike inside t := fun inside t short plain =>
      ih t.length (by rw [← size, List.length_cons]; omega) plain rfl
    cases inside with
    | true => exact .inside rest h
    | false => exact .outside rest h

end Text

open Text

/-- A script is read the same with unified line ends, if no line comment overruns a
carriage return. -/
theorem Schema.read_unifyLines (h : overrunsReturn false s = false) :
    Schema.read (s.unifyLines false) = Schema.read s := by
  refine Schema.read_congr ?_ (normalize_eq_of_alike (unifiesAlike h)).symm
  cases s with
  | nil => rfl
  | cons c s => by_cases hc : c = '\r' <;> simp [unifyLines, hc]

end SchemaChart
