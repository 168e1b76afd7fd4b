import SchemaChart.Proofs.Drawing

/-!
# Labels of edges

The two edges of a relation are labelled with its columns, and a label is read back from
the text of a chart as it is meant exactly if it is `Legible` (`edge_labels_read`). Columns
of a key clause need not be.
-/

namespace SchemaChart

open Text
open Dot (Figure Token Attributes Legible token figures)

namespace Dot

/-- The label of an edge that has one, or that has attributes which cannot be read. -/
def Figure.edgeLabel? : Figure → Option (Option Text)
  | .edge _ _ (some attributes) => (attributes.lookup "label".toList).map some
  | .edge _ _ none => some none
  | .node .. => none

/-- The labels of the edges that a text states. -/
def edgeLabels (text : Text) : List (Option Text) := (figures text).filterMap Figure.edgeLabel?

end Dot

open Dot (edgeLabels)

/-- What is read from the label of an edge. -/
def labelRead (label : Text) : Option Text :=
  (edgeAttributes label).read?.bind (·.lookup "label".toList)

theorem read?_edgeAttributes (line : '\n' ∉ label) :
    (edgeAttributes label).read? =
      if Dot.isMarkup label = false ∧ Dot.slashes label = 0 then
        some (edgeAttributes (token label).value)
      else none := by
  have name : Legible "label".toList := Dot.legible_of_isWord (by decide)
  split
  · next readable =>
    rw [edgeAttributes, Attributes.read?_cons name line readable.1 readable.2 (by simp),
      Attributes.read?_of_legible (by simp) Chart.legible_dir]
    rfl
  · next broken =>
    refine Attributes.read?_cons_eq_none name line ?_ (by simp) (by decide)
    rwa [not_and_or, Bool.not_eq_false] at broken

theorem labelRead_eq_iff (line : '\n' ∉ label) : labelRead label = some label ↔ Legible label := by
  rw [labelRead, read?_edgeAttributes line]
  split
  · next readable =>
    rw [← Dot.value_token_iff line readable.1 readable.2]
    exact Option.some_inj
  · next broken =>
    exact iff_of_false (by simp) fun legible => broken ⟨legible.plain, legible.ends⟩

theorem edgeLabel?_labelled (line : '\n' ∉ label) (tail head : Token) :
    Figure.edgeLabel? (.edge tail head (edgeAttributes label).read?) = some (labelRead label) := by
  rw [labelRead, read?_edgeAttributes line]
  split <;> rfl

theorem edgeLabels_tables (ts : List Table) :
    (ts.flatMap Table.figures).filterMap Figure.edgeLabel? = [] := by
  refine filterMap_tables (fun t f mem => ?_) ts
  rcases mem_tableFigures.mp mem with rfl | ⟨c, -, rfl | rfl⟩ <;> rfl

theorem edgeLabels_relations {s : Schema} {before rs : List Relation}
    (h : ∀ r ∈ rs, r.Drawable) :
    (relationFigures s before rs).filterMap Figure.edgeLabel? =
      rs.flatMap fun r => [labelRead r.source.column, labelRead ('→' :: r.target.column)] := by
  induction rs generalizing before with
  | nil => rfl
  | cons r rs ih =>
    obtain ⟨drawable, others⟩ := List.forall_mem_cons.mp h
    have box : (placeholderFigures s before r.target.table).filterMap Figure.edgeLabel? = [] := by
      rw [placeholderFigures]
      split <;> rfl
    have arrow : '\n' ∉ '→' :: r.target.column := by simp [drawable.target_line]
    have own : (r.figures before.length).filterMap Figure.edgeLabel? =
        [labelRead r.source.column, labelRead ('→' :: r.target.column)] := by
      rw [Relation.figures, List.filterMap_cons_none rfl,
        List.filterMap_cons_some (edgeLabel?_labelled drawable.source_line _ _),
        List.filterMap_cons_some (edgeLabel?_labelled arrow _ _)]
      rfl
    rw [relationFigures, List.filterMap_append, List.filterMap_append, box, own, ih others]
    rfl

theorem getElem?_flatMap_pair {α β : Type} (xs : List α) (f g : α → β) (i : Nat) :
    (xs.flatMap fun x => [f x, g x])[2 * i]? = xs[i]?.map f ∧
      (xs.flatMap fun x => [f x, g x])[2 * i + 1]? = xs[i]?.map g := by
  induction xs generalizing i with
  | nil => simp
  | cons x xs ih =>
    cases i with
    | zero => simp
    | succ i => simpa [Nat.mul_succ] using ih i

/-- In the chart of any script every relation has two labels, one behind the other, and
each of them is read as the column it stands for exactly if it is legible. -/
theorem edge_labels_read (name script : Text) (line : '\n' ∉ name) :
    let s := (Schema.read script).schema
    let labels := edgeLabels (Chart.ofSchema name s).1.source
    labels.length = 2 * s.relations.length ∧
      ∀ i r, s.relations[i]? = some r →
        (labels[2 * i]? = some (some r.source.column) ↔ Legible r.source.column) ∧
        (labels[2 * i + 1]? = some (some ('→' :: r.target.column)) ↔
          Legible ('→' :: r.target.column)) := by
  intro s labels
  have drawable : s.Drawable := schema_read_drawable script
  have read : labels = s.relations.flatMap fun r =>
      [labelRead r.source.column, labelRead ('→' :: r.target.column)] := by
    show (figures _).filterMap Figure.edgeLabel? = _
    rw [figures_chart drawable line, List.filterMap_append, edgeLabels_tables, List.nil_append]
    exact edgeLabels_relations drawable.relations
  refine ⟨?count, fun i r here => ?each⟩
  case count => simp [read, List.length_flatMap, Nat.mul_comm]
  case each =>
    have fits := drawable.relations r (List.mem_of_getElem? here)
    have arrow : '\n' ∉ '→' :: r.target.column := by simp [fits.target_line]
    obtain ⟨first, second⟩ := getElem?_flatMap_pair s.relations
      (fun r => labelRead r.source.column) (fun r => labelRead ('→' :: r.target.column)) i
    rw [← read, here, Option.map_some] at first second
    rw [first, second, Option.some_inj, Option.some_inj]
    exact ⟨labelRead_eq_iff fits.source_line, labelRead_eq_iff arrow⟩

/-- The labels of a key that is written in its column clause. -/
theorem edge_labels_read_inline : '\n' ∉ "ER_Diagram".toList ∧
    (let s := (Schema.read "CREATE TABLE t (a INT REFERENCES r (x))").schema
     s.relations[0]? = some (.ofKey ⟨"t", "a"⟩ ⟨"r", "x"⟩) ∧
      (edgeLabels (Chart.ofSchema "ER_Diagram" s).1.source)[1]? = some (some "→x".toList)) := by
  have read := edge_labels_read "ER_Diagram" "CREATE TABLE t (a INT REFERENCES r (x))" (by decide)
  have relation : (Schema.read "CREATE TABLE t (a INT REFERENCES r (x))").schema.relations[0]? =
      some (.ofKey ⟨"t", "a"⟩ ⟨"r", "x"⟩) := by
    decide +kernel
  have legible : Legible "→x".toList := Dot.Unquoted.legible (by decide)
  exact ⟨by decide, relation, (read.2 0 _ relation).2.mpr legible⟩

/-- Markup is no label, and a backslash at the end leaves one open; in front of a quote one
is lost. -/
theorem edge_labels_unreadable :
    let s := (Schema.read
      "CREATE TABLE t (FOREIGN KEY (<a>, b\\, c\\\x22d) REFERENCES r (x, y, z))").schema
    s.relations.map (·.source.column) = ["<a>".toList, "b\\".toList, "c\\\x22d".toList] ∧
      edgeLabels (Chart.ofSchema "ER_Diagram" s).1.source =
        [none, some "→x".toList, none, some "→y".toList, some "c\x22d".toList,
          some "→z".toList] := by
  decide +kernel

end SchemaChart
