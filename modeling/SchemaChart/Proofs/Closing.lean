import SchemaChart.Script.Statement

/-!
# The closing parenthesis

The search for a closing parenthesis only looks at the text up to what it finds, so
more text behind changes nothing. A search from an opening parenthesis is a search
with one open group behind it.
-/

namespace SchemaChart

theorem closing?_append (h : closing? aware s a = some i) (b : Text) :
    closing? aware s (a ++ b) = some i := by
  induction a generalizing s i with
  | nil => simp [closing?] at h
  | cons c a ih =>
    simp only [closing?, List.cons_append] at h ⊢
    split at h
    · next closes => rw [if_pos closes, h]
    · next open_ =>
      obtain ⟨j, found, rfl⟩ := Option.map_eq_some_iff.mp h
      rw [if_neg open_, ih found, Option.map_some]

theorem drop_of_getElem? {text : Text} (h : text[i]? = some c) :
    text.drop i = c :: text.drop (i + 1) := by
  obtain ⟨inside, here⟩ := List.getElem?_eq_some_iff.mp h
  rw [List.drop_eq_getElem_cons inside, here]

theorem closing?_opening (aware : Bool) (after : Text) :
    closing? aware .start ('(' :: after) = (closing? aware ⟨.outside, 1⟩ after).map (· + 1) := by
  have skip : Scan.closes .start '(' = false := by decide
  have step : Scan.step aware .start '(' = ⟨.outside, 1⟩ := by cases aware <;> decide
  rw [closing?, skip, step]
  rfl

theorem closingFrom_opening (aware : Bool) (h : text.drop opening = '(' :: after) :
    closingFrom aware text (opening : Nat) =
      .ok ((closing? aware ⟨.outside, 1⟩ after).map fun n => ((opening + 1 + n : Nat) : Int)) := by
  have nonneg : (0 : Int) ≤ opening := Int.natCast_nonneg opening
  rw [closingFrom, if_pos nonneg, Int.toNat_natCast, h, closing?_opening]
  cases closing? aware ⟨.outside, 1⟩ after with
  | none => rfl
  | some n =>
    have place : (opening : Int) + ((n + 1 : Nat) : Int) = ((opening + 1 + n : Nat) : Int) := by
      omega
    exact congrArg (fun i => Except.ok (some i)) place

end SchemaChart
