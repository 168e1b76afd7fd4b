import SchemaChart.Proofs.Layout
import SchemaChart.Proofs.Scanning

/-!
# Balanced texts

A scan that enters a balanced text outside literals leaves it at the depth it came with
(`Balanced.run`). On the way it meets no parenthesis that closes an outer group and no
comma that cuts, so the search for the end of a body and the cutting of the body both
pass over it (`Balanced.closing?`, `Balanced.segments`).
-/

namespace SchemaChart

open Text

def isPlain (c : Char) : Bool := !isQuote c && c ≠ '(' && c ≠ ')' && c ≠ ','

/-- Literals and groups are closed; `commas` tells whether a comma may stand outside
groups. -/
inductive Balanced : Bool → Text → Prop
  | plain : (∀ c ∈ s, isPlain c = true) → Balanced commas s
  | comma : Balanced true [',']
  | literal : isQuote q = true → (∀ c ∈ w, c ≠ q ∧ c ≠ '\\') → Balanced commas (q :: (w ++ [q]))
  | group : Balanced true s → Balanced commas ('(' :: (s ++ [')']))
  | append : Balanced commas a → Balanced commas b → Balanced commas (a ++ b)

-- ---------------------------------------------------------------------------
-- Scanning literals
-- ---------------------------------------------------------------------------

theorem step_inside (hc : c ≠ q ∧ c ≠ '\\') (depth : Int) :
    Scan.step true ⟨.inside q false, depth⟩ c = ⟨.inside q false, depth⟩ := by
  simp [Scan.step, Place.step, hc]

theorem run_inside (hw : ∀ c ∈ w, c ≠ q ∧ c ≠ '\\') (depth : Int) :
    Scan.run true ⟨.inside q false, depth⟩ w = ⟨.inside q false, depth⟩ := by
  induction w with
  | nil => rfl
  | cons c w ih =>
    obtain ⟨hc, hw⟩ := List.forall_mem_cons.mp hw
    rw [Scan.run_cons, step_inside hc, ih hw]

theorem enclosed_of_notMem (hw : ∀ c ∈ w, c ≠ q ∧ c ≠ '\\') : Enclosed q w := by
  refine ⟨fun p hp => ?_, ?_⟩
  · rw [run_inside fun c mem => hw c (hp.subset mem)]
    simp
  · rw [run_inside hw]

-- ---------------------------------------------------------------------------
-- Scanning balanced texts
-- ---------------------------------------------------------------------------

theorem step_plain (hc : isPlain c = true) (depth : Int) :
    Scan.step true ⟨.outside, depth⟩ c = ⟨.outside, depth⟩ := by
  simp only [isPlain, Bool.and_eq_true, Bool.not_eq_true', decide_eq_true_eq] at hc
  simp [Scan.step, Place.step, hc, nesting]

theorem step_opening (depth : Int) :
    Scan.step true ⟨.outside, depth⟩ '(' = ⟨.outside, depth + 1⟩ := by
  simp [Scan.step, Place.step, isQuote, nesting]

theorem step_closing (depth : Int) :
    Scan.step true ⟨.outside, depth + 1⟩ ')' = ⟨.outside, depth⟩ := by
  have back : depth + 1 + -1 = depth := by omega
  simp [Scan.step, Place.step, isQuote, nesting, back]

theorem Balanced.run (h : Balanced commas s) (depth : Int) :
    Scan.run true ⟨.outside, depth⟩ s = ⟨.outside, depth⟩ := by
  induction h generalizing depth with
  | @plain s commas hs =>
    induction s with
    | nil => rfl
    | cons c s ih =>
      obtain ⟨hc, hs⟩ := List.forall_mem_cons.mp hs
      rw [Scan.run_cons, step_plain hc, ih hs]
  | comma => simp [Scan.run, Scan.step, Place.step, isQuote, nesting]
  | literal hq hw => exact run_literal hq (enclosed_of_notMem hw) depth
  | group _ ih =>
    rw [Scan.run_cons, step_opening, Scan.run_append, ih, Scan.run_cons, step_closing]
    rfl
  | append _ _ iha ihb => rw [Scan.run_append, iha, ihb]

/-- A mark is not met on a level below the text; nor on its own level, if the mark is a
parenthesis that closes, or a comma and none stands outside groups. -/
theorem Balanced.avoids (h : Balanced commas s) {depth : Int}
    (deep : level < depth ∨ level = depth ∧ (mark = ')' ∨ mark = ',' ∧ commas = false)) :
    Scan.Avoids mark level ⟨.outside, depth⟩ s := by
  -- on the level itself only plain characters, quotes and opening parentheses are left
  have calm : ∀ c, c ≠ ')' → c ≠ ',' → Scan.meets mark level ⟨.outside, depth⟩ c = false := by
    intro c paren comma
    rcases deep with below | ⟨-, rfl | ⟨rfl, -⟩⟩
    · have : depth ≠ level := by omega
      simp [Scan.meets, this]
    · simp [Scan.meets, paren]
    · simp [Scan.meets, comma]
  induction h generalizing depth with
  | @plain s commas hs =>
    induction s with
    | nil => trivial
    | cons c s ih =>
      obtain ⟨hc, hs⟩ := List.forall_mem_cons.mp hs
      have other := hc
      simp only [isPlain, Bool.and_eq_true, decide_eq_true_eq] at other
      refine ⟨calm c other.1.2 other.2, ?_⟩
      rw [step_plain hc]
      exact ih hs
  | comma =>
    refine ⟨?_, trivial⟩
    rcases deep with below | ⟨-, rfl | ⟨-, none⟩⟩
    · have : depth ≠ level := by omega
      simp [Scan.meets, this]
    · simp [Scan.meets]
    · simp at none
  | @literal q w commas hq hw =>
    refine ⟨calm q (ne_of_isQuote hq (by decide)) (ne_of_isQuote hq (by decide)), ?_⟩
    rw [step_quote hq]
    exact (enclosed_of_notMem hw).avoids depth
  | group hs ih =>
    refine ⟨calm '(' (by decide) (by decide), ?_⟩
    rw [step_opening, Scan.avoids_append, hs.run]
    have above : depth + 1 ≠ level := by omega
    have inner : ∀ c, c ≠ ')' → c ≠ ',' →
        Scan.meets mark level ⟨.outside, depth + 1⟩ c = false := by simp [Scan.meets, above]
    exact ⟨ih (.inl (by omega)) inner, by simp [Scan.meets, above], trivial⟩
  | append ha _ iha ihb =>
    rw [Scan.avoids_append, ha.run]
    exact ⟨iha deep calm, ihb deep calm⟩

/-- The search for the end of a body goes past a balanced text. -/
theorem Balanced.closing? (h : Balanced commas s) (r : Text) :
    closing? true ⟨.outside, 1⟩ (s ++ r) =
      (SchemaChart.closing? true ⟨.outside, 1⟩ r).map (· + s.length) := by
  rw [closing?_of_avoids (h.avoids (.inr ⟨rfl, .inl rfl⟩)), h.run]

/-- The cutting of a body leaves a balanced text without commas in one piece. -/
theorem Balanced.segments (h : Balanced false s)
    (after : segments true .start r = first :: more) :
    SchemaChart.segments true .start (s ++ r) = (s ++ first) :: more := by
  have kept : Scan.run true .start s = .start := h.run 0
  refine segments_of_avoids (h.avoids (.inr ⟨rfl, .inr ⟨rfl, rfl⟩⟩)) ?_
  rw [kept]
  exact after

-- ---------------------------------------------------------------------------
-- Printed clauses
-- ---------------------------------------------------------------------------

theorem isPlain_of_isWord (h : isWord c = true) : isPlain c = true := by
  have apart : ∀ d ∈ ['\x22', '\x27', '\x60', '(', ')', ','], c ≠ d := by
    have none : ∀ d ∈ ['\x22', '\x27', '\x60', '(', ')', ','], isWord d = false := by decide
    exact fun d mem => ne_of_isWord h (none d mem)
  simp only [List.mem_cons, List.not_mem_nil, or_false, forall_eq_or_imp, forall_eq] at apart
  simp [isPlain, isQuote, apart]

theorem balanced_of_isWord (h : Text.IsWord w) : Balanced commas w :=
  .plain fun c mem => isPlain_of_isWord (h.2 c mem)

theorem Balanced.allow (h : Balanced commas s) : Balanced true s := by
  induction h with
  | plain hs => exact .plain hs
  | comma => exact .comma
  | literal hq hw => exact .literal hq hw
  | group hs _ => exact .group hs
  | append _ _ iha ihb => exact iha.append ihb

theorem Balanced.space (ha : Balanced commas a) (hb : Balanced commas b) :
    Balanced commas (a ++ ' ' :: b) := by
  have blank : Balanced commas [' '] := .plain (by decide)
  exact ha.append (blank.append hb)

theorem QuotedText.balanced {name s : Text} (h : QuotedText name s) (hn : Text.IsWord name) :
    Balanced commas s := by
  obtain ⟨q, hq, rfl⟩ := h
  refine .literal hq fun c mem => ⟨?_, ne_of_isWord (hn.2 c mem) (by decide)⟩
  exact ne_of_isWord (hn.2 c mem) (isWord_of_isNameMark (isNameMark_of_isQuote hq))

theorem TypeText.balanced (h : TypeText s) : Balanced commas s := by
  cases h with
  | plain hw => exact balanced_of_isWord hw
  | @sized w p hw hp =>
    refine (balanced_of_isWord hw).append (.group ?_)
    induction p with
    | nil => exact .plain (by simp)
    | cons c p ih =>
      obtain ⟨hc, hp⟩ := List.forall_mem_cons.mp hp
      have first : Balanced true [c] := by
        rcases hc with word | rfl
        · exact .plain (by simpa using isPlain_of_isWord word)
        · exact .comma
      exact first.append (ih hp)

theorem inherited_balanced : Inherited (Balanced commas) where
  word := balanced_of_isWord
  quoted := QuotedText.balanced
  typed := TypeText.balanced
  group hs := .group hs.allow
  space := .space

theorem ClauseText.balanced (h : ClauseText e s) (he : e.Printable) : Balanced commas s :=
  h.inherits inherited_balanced he

theorem BodyText.balanced (h : BodyText es b) (hes : ∀ e ∈ es, e.Printable) : Balanced true b := by
  induction h with
  | nil => exact .plain (by simp)
  | last he => exact he.balanced (hes _ (by simp))
  | cons he _ ih =>
    have rest := ih fun e mem => hes e (List.mem_cons_of_mem _ mem)
    simpa using ((he.balanced (hes _ (by simp))).append .comma).space rest

end SchemaChart
