import SchemaChart.Proofs.Scanning

/-!
# The matching parenthesis

The scan finds the parenthesis that matches the one it starts at, and says so by counting.
Here the same is said by the grammar of nested parentheses (`Nested`) and by a notion of
literals of its own: a literal has a length (`literalLength`), and its characters are left
out of what is visible of a text (`visible`).

`closing_matched`: the search ends at a place exactly if the parentheses that are visible up
to there are one nested group, and it ends nowhere exactly if there is no such place.
-/

namespace SchemaChart

/-- How many characters a literal has behind its opening quote: up to the next quote of the
same kind that no backslash escapes, or to the end of the text. -/
def literalLength (quote : Char) : Text → Nat
  | [] => 0
  | '\\' :: _ :: rest => literalLength quote rest + 2
  | c :: rest => if c = quote then 1 else literalLength quote rest + 1

/-- The characters of a text, with those in literals left out; `hidden` of the first ones
belong to a literal that is open already. Without regard to quotes there are no literals. -/
def visible (aware : Bool) : (hidden : Nat) → Text → List (Option Char)
  | _, [] => []
  | hidden + 1, _ :: rest => none :: visible aware hidden rest
  | 0, c :: rest =>
    if aware && isQuote c then none :: visible aware (literalLength c rest) rest
    else some c :: visible aware 0 rest

def isParenthesis (c : Char) : Bool := c = '(' || c = ')'

def parentheses (seen : List (Option Char)) : Text := seen.filterMap (Option.filter isParenthesis)

/-- Nothing, or a group and more behind it. -/
inductive Nested : Text → Prop
  | nil : Nested []
  | group : Nested a → Nested b → Nested ('(' :: (a ++ ')' :: b))

/-- The visible parentheses from `opening` to `closing` are one group, and the last of them
stands at `closing`. -/
def MatchedAt (aware : Bool) (text : Text) (opening closing : Nat) : Prop :=
  let seen := visible aware 0 (text.drop opening)
  opening ≤ closing ∧ seen[closing - opening]? = some (some ')') ∧
    ∃ w, Nested w ∧ parentheses (seen.take (closing + 1 - opening)) = '(' :: (w ++ [')'])

-- ---------------------------------------------------------------------------
-- Visible parentheses
-- ---------------------------------------------------------------------------

@[simp] theorem parentheses_opening :
    parentheses (some '(' :: seen) = '(' :: parentheses seen := rfl

@[simp] theorem parentheses_closing :
    parentheses (some ')' :: seen) = ')' :: parentheses seen := rfl

theorem parentheses_other (h : o.filter isParenthesis = none) :
    parentheses (o :: seen) = parentheses seen := by
  rw [parentheses, List.filterMap_cons, h]
  rfl

@[simp] theorem parentheses_append :
    parentheses (seen ++ more) = parentheses seen ++ parentheses more := List.filterMap_append

@[simp] theorem parentheses_nil : parentheses [] = [] := rfl

-- ---------------------------------------------------------------------------
-- Open groups
-- ---------------------------------------------------------------------------

/-- The text closes as many groups as there are open ones, and is nested apart from that. -/
def Unwinds : (groups : Nat) → Text → Prop
  | 0, w => Nested w
  | n + 1, w => ∃ a b, w = a ++ ')' :: b ∧ Nested a ∧ Unwinds n b

theorem not_nested_closing : ¬Nested (')' :: w) := by
  intro h
  cases h

theorem unwinds_group (ha : Nested a) (hb : Unwinds n b) : Unwinds n ('(' :: (a ++ ')' :: b)) := by
  cases n with
  | zero => exact .group ha hb
  | succ n =>
    obtain ⟨c, d, rfl, hc, hd⟩ := hb
    exact ⟨'(' :: (a ++ ')' :: c), d, by simp, .group ha hc, hd⟩

theorem unwinds_nil : Unwinds n [] ↔ n = 0 := by
  cases n with
  | zero => exact iff_of_true .nil rfl
  | succ n =>
    refine iff_of_false ?_ (Nat.succ_ne_zero n)
    rintro ⟨a, b, cut, -⟩
    simp at cut

theorem unwinds_opening : Unwinds n ('(' :: w) ↔ Unwinds (n + 1) w := by
  constructor
  · intro h
    cases n with
    | zero =>
      cases h with
      | group ha hb => exact ⟨_, _, rfl, ha, hb⟩
    | succ n =>
      obtain ⟨a, b, cut, ha, hb⟩ := h
      cases ha with
      | nil => simp at cut
      | @group c d hc hd =>
        obtain rfl : w = c ++ ')' :: (d ++ ')' :: b) := by simpa using cut
        exact ⟨c, d ++ ')' :: b, rfl, hc, d, b, rfl, hd, hb⟩
  · rintro ⟨a, b, rfl, ha, hb⟩
    exact unwinds_group ha hb

theorem unwinds_closing : Unwinds (n + 1) (')' :: w) ↔ Unwinds n w := by
  constructor
  · rintro ⟨a, b, cut, ha, hb⟩
    cases ha with
    | nil =>
      cases cut
      exact hb
    | group => simp at cut
  · intro h
    exact ⟨[], w, rfl, .nil, h⟩

-- ---------------------------------------------------------------------------
-- The end of the outermost open group
-- ---------------------------------------------------------------------------

/-- The place where the outermost of `groups + 1` open groups ends. -/
def EndsAt (groups : Nat) (seen : List (Option Char)) (k : Nat) : Prop :=
  Unwinds groups (parentheses (seen.take k)) ∧ seen[k]? = some (some ')')

theorem endsAt_opening :
    EndsAt n (some '(' :: seen) k ↔ ∃ j, k = j + 1 ∧ EndsAt (n + 1) seen j := by
  cases k with
  | zero => simp [EndsAt]
  | succ k => simp [EndsAt, unwinds_opening]

theorem endsAt_last : EndsAt 0 (some ')' :: seen) k ↔ k = 0 := by
  cases k with
  | zero => simp [EndsAt, unwinds_nil]
  | succ k => simp [EndsAt, Unwinds, not_nested_closing]

theorem endsAt_closing :
    EndsAt (n + 1) (some ')' :: seen) k ↔ ∃ j, k = j + 1 ∧ EndsAt n seen j := by
  cases k with
  | zero => simp [EndsAt, unwinds_nil]
  | succ k => simp [EndsAt, unwinds_closing]

theorem endsAt_other (h : o.filter isParenthesis = none) :
    EndsAt n (o :: seen) k ↔ ∃ j, k = j + 1 ∧ EndsAt n seen j := by
  cases k with
  | zero =>
    have other : o ≠ some ')' := by
      rintro rfl
      simp [isParenthesis] at h
    simp [EndsAt, other]
  | succ k => simp [EndsAt, parentheses_other h]

-- ---------------------------------------------------------------------------
-- The scan
-- ---------------------------------------------------------------------------

/-- How many of the next characters belong to the literal that a scan stands in. -/
def Place.pending : Place → Text → Nat
  | .outside, _ => 0
  | .inside quote false, s => literalLength quote s
  | .inside _ true, [] => 0
  | .inside quote true, _ :: s => literalLength quote s + 1

theorem Place.pending_cons {place : Place} (inside : place ≠ .outside) (aware : Bool) (c : Char)
    (s : Text) :
    place.pending (c :: s) = (place.step aware c).pending s + 1 := by
  cases place with
  | outside => exact absurd rfl inside
  | inside quote escaped =>
    cases escaped with
    | true => rfl
    | false =>
      by_cases escape : c = '\\'
      · subst escape
        cases s with
        | nil => simp [pending, step, literalLength]
        | cons d s => simp [pending, step, literalLength]
      · by_cases ends : c = quote
        · subst ends
          simp [pending, step, literalLength, escape]
        · simp [pending, step, literalLength, escape, ends]

theorem closing?_cons_iff {s : Scan} (stays : s.closes c = false) :
    closing? aware s (c :: rest) = some k ↔
      ∃ j, k = j + 1 ∧ closing? aware (s.step aware c) rest = some j := by
  rw [closing?, stays, if_neg (by simp), Option.map_eq_some_iff]
  exact exists_congr fun j => by rw [and_comm, eq_comm]

/-- With `n + 1` groups open, the scan finds the end of the outermost one. -/
theorem closing?_iff_endsAt (aware : Bool) (place : Place) (n : Nat) (s : Text) (k : Nat) :
    closing? aware ⟨place, n + 1⟩ s = some k ↔
      EndsAt n (visible aware (place.pending s) s) k := by
  induction s generalizing place n k with
  | nil => simp [closing?, EndsAt, visible]
  | cons c s ih =>
    cases place with
    | inside quote escaped =>
      have inside : Place.inside quote escaped ≠ .outside := by simp
      rw [closing?_cons_iff (by simp [Scan.closes]), step_within,
        Place.pending_cons inside aware, visible, endsAt_other rfl]
      exact exists_congr fun j => and_congr_right fun _ => ih _ n j
    | outside =>
      rw [Place.pending, visible]
      split
      · next opens =>
        have other : c ≠ ')' := ne_of_isQuote (Bool.and_eq_true_iff.mp opens).2 (by decide)
        rw [closing?_cons_iff (by simp [Scan.closes, other]), step_quoting opens,
          endsAt_other rfl]
        exact exists_congr fun j => and_congr_right fun _ => ih _ n j
      · next plain =>
        have step := step_unquoted (Bool.eq_false_iff.mpr plain) (n + 1)
        by_cases opening : c = '('
        · subst opening
          rw [closing?_cons_iff (by simp [Scan.closes]), endsAt_opening, step]
          exact exists_congr fun j => and_congr_right fun _ => ih .outside (n + 1) j
        by_cases closing : c = ')'
        · subst closing
          cases n with
          | zero =>
            rw [closing?, if_pos (by simp [Scan.closes]), endsAt_last]
            simp [eq_comm]
          | succ n =>
            have back : ((n + 1 : Nat) : Int) + 1 + nesting ')' = n + 1 := by
              rw [show nesting ')' = -1 from rfl]
              omega
            have stays : Scan.closes ⟨.outside, (n + 1 : Nat) + 1⟩ ')' = false := by
              simp [Scan.closes]
              omega
            rw [closing?_cons_iff stays, endsAt_closing, step, back]
            exact exists_congr fun j => and_congr_right fun _ => ih .outside n j
        · have level : nesting c = 0 := by simp [nesting, opening, closing]
          have other : (some c).filter isParenthesis = none := by
            simp [Option.filter, isParenthesis, opening, closing]
          rw [closing?_cons_iff (by simp [Scan.closes, closing]), endsAt_other other, step, level,
            Int.add_zero]
          exact exists_congr fun j => and_congr_right fun _ => ih .outside n j

-- ---------------------------------------------------------------------------
-- The place that matches
-- ---------------------------------------------------------------------------

theorem matchedAt_iff (cut : text.drop opening = '(' :: after) :
    MatchedAt aware text opening closing ↔
      ∃ k, closing = opening + 1 + k ∧ EndsAt 0 (visible aware 0 after) k := by
  have first : visible aware 0 ('(' :: after) = some '(' :: visible aware 0 after := by
    simp [visible, isQuote]
  simp only [MatchedAt, cut, first]
  constructor
  · rintro ⟨le, last, w, hw, spelled⟩
    obtain ⟨n, rfl⟩ := Nat.exists_eq_add_of_le le
    rw [Nat.add_sub_cancel_left] at last
    cases n with
    | zero => simp at last
    | succ k =>
      rw [List.getElem?_cons_succ] at last
      refine ⟨k, by omega, ?_, last⟩
      rw [show opening + (k + 1) + 1 - opening = k + 1 + 1 by omega, List.take_succ_cons,
        List.take_add_one, last] at spelled
      obtain rfl : parentheses ((visible aware 0 after).take k) = w := by
        simpa using spelled
      exact hw
  · rintro ⟨k, rfl, unwound, last⟩
    refine ⟨by omega, ?_, _, unwound, ?_⟩
    · rw [show opening + 1 + k - opening = k + 1 by omega, List.getElem?_cons_succ]
      exact last
    · rw [show opening + 1 + k + 1 - opening = k + 1 + 1 by omega, List.take_succ_cons,
        List.take_add_one, last]
      simp

/-- A search from an opening parenthesis ends at the place that matches it, with quotes
respected or ignored. There is one such place at most, and the search finds none exactly if
there is none. -/
theorem closing_matched {text : Text} {opening : Nat} (opens : text[opening]? = some '(')
    (aware : Bool) :
    (∀ closing : Nat, closingFrom aware text opening = .ok (some (closing : Int)) ↔
      MatchedAt aware text opening closing) ∧
    (∀ i j, MatchedAt aware text opening i → MatchedAt aware text opening j → i = j) ∧
    (closingFrom aware text opening = .ok none ↔ ∀ i, ¬MatchedAt aware text opening i) := by
  have cut := drop_of_getElem? opens
  have found : ∀ closing : Nat, closingFrom aware text opening = .ok (some (closing : Int)) ↔
      MatchedAt aware text opening closing := by
    intro closing
    rw [closingFrom_opening aware cut, matchedAt_iff cut]
    simp only [Except.ok.injEq, Option.map_eq_some_iff]
    refine exists_congr fun k => ?_
    have ends := closing?_iff_endsAt aware .outside 0 (text.drop (opening + 1)) k
    rw [Place.pending] at ends
    rw [and_comm, ← ends]
    refine and_congr ?_ Iff.rfl
    omega
  refine ⟨found, fun i j hi hj => ?_, ?_⟩
  · have both := ((found i).mpr hi).symm.trans ((found j).mpr hj)
    exact Int.ofNat_inj.mp (by simpa using both)
  · have shape := closingFrom_opening aware cut
    constructor
    · intro none i hi
      have some := (found i).mpr hi
      simp [none] at some
    · intro nowhere
      cases end? : closing? aware ⟨.outside, 1⟩ (text.drop (opening + 1)) with
      | none => rw [shape, end?, Option.map_none]
      | some k =>
        rw [end?, Option.map_some] at shape
        exact absurd ((found _).mp shape) (nowhere _)

/-- A literal with an escaped quote and two parentheses, and another one that never ends. -/
theorem closing_matched_quoted :
    let text : Text := "f((')\\')' ())\x22)"
    text[1]? = some '(' ∧ closingFrom true text 1 = .ok none ∧
      closingFrom true text (2 : Nat) = .ok (some ((12 : Nat) : Int)) ∧
      MatchedAt true text 2 12 ∧ (∀ i, ¬MatchedAt true text 1 i) ∧
      closingFrom false text (2 : Nat) = .ok (some ((4 : Nat) : Int)) ∧
      MatchedAt false text 2 4 := by
  intro text
  have outer : text[1]? = some '(' := by decide
  have opens : text[2]? = some '(' := by decide
  have none : closingFrom true text (1 : Nat) = .ok none := rfl
  have quoted : closingFrom true text (2 : Nat) = .ok (some ((12 : Nat) : Int)) := rfl
  have plain : closingFrom false text (2 : Nat) = .ok (some ((4 : Nat) : Int)) := rfl
  refine ⟨outer, none, quoted, ?_, ?_, plain, ?_⟩
  · exact ((closing_matched opens true).1 12).mp quoted
  · exact (closing_matched outer true).2.2.mp none
  · exact ((closing_matched opens false).1 4).mp plain

end SchemaChart
