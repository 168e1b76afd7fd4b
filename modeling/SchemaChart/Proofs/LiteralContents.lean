import SchemaChart.Proofs.Scanning
import SchemaChart.Proofs.Tidy

/-!
# The contents of literals

Two texts that differ in the contents of one literal are cut in the same places, so they have
the same clauses up to these contents (`clauses_withLiteral`). A group that is opened before
the literal is closed in both or in neither, and at places that differ by the lengths of the
contents at most (`closingFrom_withLiteral`). Both are proved for all contents at once;
`literal_contents_opaque` compares two of them.
-/

namespace SchemaChart

open Text

/-- A text around a literal. -/
def Text.withLiteral (a : Text) (quote : Char) (contents b : Text) : Text :=
  a ++ quote :: (contents ++ quote :: b)

theorem outside_of_endsInLiteral (h : endsInLiteral a = false) :
    ∃ depth, Scan.start.run true a = ⟨.outside, depth⟩ := by
  rw [endsInLiteral, decide_eq_false_iff_not, Decidable.not_not] at h
  exact ⟨_, by rw [← h]⟩

-- ---------------------------------------------------------------------------
-- Clauses around a literal
-- ---------------------------------------------------------------------------

theorem withLiteral_eq (a : Text) (quote : Char) (c b : Text) :
    withLiteral a quote c b = a ++ ((quote :: (c ++ [quote])) ++ b) := by simp [withLiteral]

theorem run_withLiteral (hq : isQuote quote = true) (h : Enclosed quote c)
    (ha : endsInLiteral a = false) (b : Text) :
    Scan.start.run true (withLiteral a quote c b) = (Scan.start.run true a).run true b := by
  obtain ⟨depth, ends⟩ := outside_of_endsInLiteral ha
  rw [withLiteral_eq, Scan.run_append, Scan.run_append, ends, run_literal hq h]

theorem segments_withLiteral (hq : isQuote quote = true) (h : Enclosed quote c)
    (ha : endsInLiteral a = false) (front : segments true .start a = xs ++ [x])
    (back : segments true (Scan.start.run true a) b = y :: ys) :
    segments true .start (withLiteral a quote c b) = xs ++ withLiteral x quote c y :: ys := by
  obtain ⟨depth, ends⟩ := outside_of_endsInLiteral ha
  have behind : segments true (Scan.start.run true a) ((quote :: (c ++ [quote])) ++ b) =
      ((quote :: (c ++ [quote])) ++ y) :: ys := by
    rw [ends] at back ⊢
    refine segments_of_avoids (avoids_literal hq h (by decide) depth) ?_
    rw [run_literal hq h]
    exact back
  rw [withLiteral_eq, withLiteral_eq]
  exact segments_append front behind

theorem strip_withLiteral (hq : isQuote quote = true) (a c b : Text) :
    strip (withLiteral a quote c b) =
      withLiteral (a.dropWhile isBlank) quote c (trimEnd isBlank b) := by
  have solid : isBlank quote = false := isBlank_of_isSolid (isSolid_of_isQuote hq)
  rw [strip, trim, withLiteral, dropWhile_upTo a _ solid, ← List.cons_append, ← List.append_assoc,
    trimEnd_upTo _ b solid]
  simp [withLiteral]

/-- Only the clause with the literal depends on its contents, and only in that it has them. -/
theorem clauses_withLiteral (hq : isQuote quote = true) (ha : endsInLiteral a = false)
    (hb : ((Scan.start.run true a).run true b).place = .outside) :
    ∃ before u v after, ∀ c, Enclosed quote c →
      clauses true (withLiteral a quote c b) = before ++ withLiteral u quote c v :: after := by
  obtain ⟨xs, x, front⟩ := (List.eq_nil_or_concat (segments true .start a)).resolve_left
    (segments_ne_nil true .start a)
  obtain ⟨y, ys, back⟩ := exists_segments true (Scan.start.run true a) b
  refine ⟨(xs.map strip).filter (!·.isEmpty), x.dropWhile isBlank, trimEnd isBlank y,
    (ys.map strip).filter (!·.isEmpty), fun c h => ?_⟩
  have respected : endsInLiteral (withLiteral a quote c b) = false := by
    rw [endsInLiteral, run_withLiteral hq h ha, hb]
    rfl
  have solid (u v : Text) : withLiteral u quote c v ≠ [] := by simp [withLiteral]
  rw [List.concat_eq_append] at front
  rw [clauses, respected, Bool.not_false, Bool.and_true, segments_withLiteral hq h ha front back]
  simp [strip_withLiteral hq, solid]

-- ---------------------------------------------------------------------------
-- Groups around a literal
-- ---------------------------------------------------------------------------

theorem closing?_withLiteral (hq : isQuote quote = true) (h : Enclosed quote c)
    (avoids : s.Avoids ')' 1 a) (ends : s.run true a = ⟨.outside, depth⟩) (b : Text) :
    closing? true s (withLiteral a quote c b) =
      (closing? true ⟨.outside, depth⟩ b).map (· + (a.length + c.length + 2)) := by
  rw [withLiteral_eq, closing?_of_avoids avoids, ends,
    closing?_of_avoids (avoids_literal hq h (by decide) depth), run_literal hq h, Option.map_map]
  congr 1
  funext n
  simp only [Function.comp_apply, List.length_cons, List.length_append, List.length_nil]
  omega

/-- A group that is open before the literal is closed before it, or behind it as far from its
end whatever it contains, or not at all. -/
theorem closingFrom_withLiteral (hq : isQuote quote = true) (opens : a[opening]? = some '(')
    (ha : endsInLiteral (a.drop opening) = false) (b : Text) :
    (∃ i : Nat, i < a.length ∧ ∀ c, Enclosed quote c →
      closingFrom true (withLiteral a quote c b) (opening : Nat) = .ok (some (i : Int))) ∨
    (∃ k, a.length ≤ k ∧ ∀ c, Enclosed quote c →
      closingFrom true (withLiteral a quote c b) (opening : Nat) =
        .ok (some ((k + c.length : Nat) : Int))) ∨
    ∀ c, Enclosed quote c →
      closingFrom true (withLiteral a quote c b) (opening : Nat) = .ok none := by
  have cut := drop_of_getElem? opens
  obtain ⟨inside, -⟩ := List.getElem?_eq_some_iff.mp opens
  have search (c : Text) : closingFrom true (withLiteral a quote c b) (opening : Nat) =
      .ok ((closing? true ⟨.outside, 1⟩ (withLiteral (a.drop (opening + 1)) quote c b)).map
        fun n => ((opening + 1 + n : Nat) : Int)) := by
    refine closingFrom_opening true ?_
    rw [withLiteral, List.drop_append_of_le_length (Nat.le_of_lt inside), cut]
    rfl
  obtain ⟨depth, ends⟩ : ∃ depth,
      Scan.run true ⟨.outside, 1⟩ (a.drop (opening + 1)) = ⟨.outside, depth⟩ := by
    rw [cut] at ha
    exact outside_of_endsInLiteral ha
  cases before : closing? true ⟨.outside, 1⟩ (a.drop (opening + 1)) with
  | some i =>
    have bound := closing?_lt before
    rw [List.length_drop] at bound
    refine .inl ⟨opening + 1 + i, by omega, fun c _ => ?_⟩
    rw [search, withLiteral, closing?_append before, Option.map_some]
  | none =>
    -- the group is still open at the literal, so the search comes out behind it
    have avoids := closing?_eq_none_iff.mp before
    cases behind : closing? true ⟨.outside, depth⟩ b with
    | some n =>
      refine .inr (.inl ⟨a.length + 2 + n, by omega, fun c h => ?_⟩)
      rw [search, closing?_withLiteral hq h avoids ends, behind, Option.map_some, Option.map_some,
        List.length_drop]
      congr 3
      omega
    | none =>
      refine .inr (.inr fun c h => ?_)
      rw [search, closing?_withLiteral hq h avoids ends, behind]
      rfl

/-- What stands in a literal has no influence on the structure around it. Two texts that differ
in the contents of one literal have the same clauses up to these contents, if no literal is
open at their end; and a group opened before the literal is closed in both at the same place,
or behind the literal at places as far apart as the contents are in length, or in neither. -/
theorem literal_contents_opaque {q : Char} {c₁ c₂ : Text} (hq : isQuote q = true)
    (h₁ : Enclosed q c₁) (h₂ : Enclosed q c₂) (a b : Text) :
    (endsInLiteral a = false → endsInLiteral (withLiteral a q c₁ b) = false →
      ∃ before u v after,
        clauses true (withLiteral a q c₁ b) = before ++ withLiteral u q c₁ v :: after ∧
        clauses true (withLiteral a q c₂ b) = before ++ withLiteral u q c₂ v :: after) ∧
    ∀ o : Nat, a[o]? = some '(' → endsInLiteral (a.drop o) = false →
      (closingFrom true (withLiteral a q c₁ b) o = .ok none ∧
        closingFrom true (withLiteral a q c₂ b) o = .ok none) ∨
      (∃ i : Nat, i < a.length ∧
        closingFrom true (withLiteral a q c₁ b) o = .ok (some (i : Int)) ∧
        closingFrom true (withLiteral a q c₂ b) o = .ok (some (i : Int))) ∨
      ∃ i j : Nat, a.length ≤ i ∧ a.length ≤ j ∧
        closingFrom true (withLiteral a q c₁ b) o = .ok (some (i : Int)) ∧
        closingFrom true (withLiteral a q c₂ b) o = .ok (some (j : Int)) ∧
        (j : Int) - i = c₂.length - c₁.length := by
  constructor
  · intro ha whole
    -- the contents do not matter for where the scan ends, so both texts take the same mode
    obtain ⟨depth, ends⟩ := outside_of_endsInLiteral whole
    rw [run_withLiteral hq h₁ ha] at ends
    obtain ⟨before, u, v, after, cut⟩ := clauses_withLiteral hq ha (congrArg Scan.place ends)
    exact ⟨before, u, v, after, cut c₁ h₁, cut c₂ h₂⟩
  · intro o opens ha
    rcases closingFrom_withLiteral hq opens ha b with ⟨i, front, found⟩ | ⟨k, back, found⟩ | none
    · exact .inr (.inl ⟨i, front, found c₁ h₁, found c₂ h₂⟩)
    · exact .inr (.inr ⟨k + c₁.length, k + c₂.length, by omega, by omega, found c₁ h₁, found c₂ h₂,
        by omega⟩)
    · exact .inl ⟨none c₁ h₁, none c₂ h₂⟩

/-- A literal with marks and other quotes gives way to one with an escaped quote. -/
theorem literal_contents_opaque_escaped :
    let a : Text := "x INT, (a ENUM("
    let b : Text := ", 'z'), b INT), y INT"
    let c₁ : Text := ",)(\x22`"
    let c₂ : Text := "it\\'s)"
    (isQuote '\x27' = true ∧ Enclosed '\x27' c₁ ∧ Enclosed '\x27' c₂) ∧
      (endsInLiteral a = false ∧ endsInLiteral (withLiteral a '\x27' c₁ b) = false ∧
        ∃ before u v after,
          clauses true (withLiteral a '\x27' c₁ b) = before ++ withLiteral u '\x27' c₁ v :: after ∧
          clauses true (withLiteral a '\x27' c₂ b) = before ++ withLiteral u '\x27' c₂ v :: after) ∧
      a[7]? = some '(' ∧ endsInLiteral (a.drop 7) = false ∧
        closingFrom true (withLiteral a '\x27' c₁ b) (7 : Nat) = .ok (some ((35 : Nat) : Int)) ∧
        closingFrom true (withLiteral a '\x27' c₂ b) (7 : Nat) = .ok (some ((36 : Nat) : Int)) := by
  intro a b c₁ c₂
  have quotes : isQuote '\x27' = true ∧ Enclosed '\x27' c₁ ∧ Enclosed '\x27' c₂ := by decide
  have outside : endsInLiteral a = false := by decide
  have whole : endsInLiteral (withLiteral a '\x27' c₁ b) = false := by decide
  have opens : a[7]? = some '(' := by decide
  have inner : endsInLiteral (a.drop 7) = false := by decide
  have first : closingFrom true (withLiteral a '\x27' c₁ b) (7 : Nat) =
      .ok (some ((35 : Nat) : Int)) := rfl
  obtain ⟨cut, closed⟩ := literal_contents_opaque quotes.1 quotes.2.1 quotes.2.2 a b
  refine ⟨quotes, ⟨outside, whole, cut outside whole⟩, opens, inner, first, ?_⟩
  rcases closed 7 opens inner with
    ⟨none, -⟩ | ⟨i, front, found, -⟩ | ⟨i, j, -, -, found, other, far⟩
  · exact absurd (first.symm.trans none) (by simp)
  · have same : (35 : Int) = i := Option.some.inj (Except.ok.inj (first.symm.trans found))
    have short : a.length = 15 := rfl
    omega
  · have same : (35 : Int) = i := Option.some.inj (Except.ok.inj (first.symm.trans found))
    have longer : (c₂.length : Int) - c₁.length = 1 := rfl
    obtain rfl : j = 36 := by omega
    exact other

end SchemaChart
