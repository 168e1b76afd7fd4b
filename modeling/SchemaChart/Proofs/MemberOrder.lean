import Mathlib.Data.List.Perm.Basic
import SchemaChart.Proofs.Documents

/-!
# The order of members

Putting members in the order of their names keeps the value: nothing is lost, and members
are looked up by name. So a plain value and its sorted form are the same as data
(`Plain.agrees_sorted`), and the sorted form is plain too.
-/

namespace SchemaChart.Json

theorem insertByName_perm (member : Text × Json) (members : List (Text × Json)) :
    (insertByName member members).Perm (member :: members) := by
  induction members with
  | nil => exact .refl _
  | cons other members ih =>
    rw [insertByName]
    split
    · exact (ih.cons other).trans (.swap member other members)
    · exact .refl _

theorem sortedMembers_perm (members : List (Text × Json)) :
    (sortedMembers members).Perm (members.map fun m => (m.1, m.2.sorted)) := by
  induction members with
  | nil => exact .refl _
  | cons m members ih =>
    rw [sortedMembers, List.map_cons]
    exact (insertByName_perm _ _).trans (ih.cons _)

theorem sortedItems_eq_map (items : List Json) : sortedItems items = items.map sorted := by
  induction items with
  | nil => rfl
  | cons item items ih => rw [sortedItems, ih, List.map_cons]

theorem names_sortedMembers (members : List (Text × Json)) :
    ((sortedMembers members).map Prod.fst).Perm (members.map Prod.fst) := by
  have names := (sortedMembers_perm members).map Prod.fst
  rwa [List.map_map] at names

theorem mem_sortedMembers (h : m ∈ members) : (m.1, m.2.sorted) ∈ sortedMembers members :=
  (sortedMembers_perm members).mem_iff.mpr (List.mem_map.mpr ⟨m, h, rfl⟩)

theorem Plain.sorted (h : Plain n v) : Plain n v.sorted := by
  induction h with
  | null => exact .null
  | bool => exact .bool
  | string => exact .string
  | array _ ih =>
    rw [Json.sorted, sortedItems_eq_map]
    refine .array fun v mem => ?_
    obtain ⟨item, inside, rfl⟩ := List.mem_map.mp mem
    exact ih item inside
  | @object members _ distinct _ ih =>
    rw [Json.sorted]
    refine .object ((names_sortedMembers members).nodup_iff.mpr distinct) fun m mem => ?_
    obtain ⟨member, inside, rfl⟩ :=
      List.mem_map.mp ((sortedMembers_perm members).mem_iff.mp mem)
    exact ih member inside

-- ---------------------------------------------------------------------------
-- The same data
-- ---------------------------------------------------------------------------

theorem lookup_of_mem {members : List (Text × Json)} (h : (name, value) ∈ members)
    (distinct : (members.map Prod.fst).Nodup) : members.lookup name = some value := by
  induction members with
  | nil => simp at h
  | cons m members ih =>
    obtain ⟨fresh, distinct⟩ := List.nodup_cons.mp distinct
    rcases List.mem_cons.mp h with rfl | inside
    · simp
    · have other : name ≠ m.1 := by
        rintro rfl
        exact fresh (List.mem_map.mpr ⟨_, inside, rfl⟩)
      rw [List.lookup_cons, beq_false_of_ne other]
      exact ih inside distinct

theorem sameItems_map (h : ∀ item ∈ items, sameParts item (f item) = true) :
    sameItems items (items.map f) = true := by
  induction items with
  | nil => rfl
  | cons item items ih =>
    obtain ⟨first, rest⟩ := List.forall_mem_cons.mp h
    rw [List.map_cons, sameItems, first, ih rest]
    rfl

theorem sameMembers_of_lookup
    (h : ∀ m ∈ members, ∃ v, others.lookup m.1 = some v ∧ sameParts m.2 v = true) :
    sameMembers members others = true := by
  induction members with
  | nil => rfl
  | cons m members ih =>
    obtain ⟨⟨v, found, same⟩, rest⟩ := List.forall_mem_cons.mp h
    simp only [sameMembers, found, same, ih rest, Bool.and_self]

theorem Plain.sameParts_sorted (h : Plain n v) : sameParts v v.sorted = true := by
  induction h with
  | null => rfl
  | @bool _ b => cases b <;> simp [Json.sorted, sameParts, numeric?, Number.agrees]
  | string => simp [Json.sorted, sameParts]
  | array _ ih =>
    rw [Json.sorted, sortedItems_eq_map, sameParts]
    exact sameItems_map ih
  | @object members _ distinct _ ih =>
    have size := (sortedMembers_perm members).length_eq
    rw [List.length_map] at size
    rw [Json.sorted, sameParts, size, sameMembers_of_lookup, decide_eq_true rfl]
    · rfl
    · intro m mem
      exact ⟨m.2.sorted, lookup_of_mem (mem_sortedMembers mem)
        ((names_sortedMembers members).nodup_iff.mpr distinct), ih m mem⟩

theorem Plain.agrees_sorted (h : Plain n v) : v.agrees v.sorted = true := by
  have number : v.isNaN = false := by cases h <;> rfl
  rw [agrees, number, h.sameParts_sorted]
  rfl

end SchemaChart.Json
