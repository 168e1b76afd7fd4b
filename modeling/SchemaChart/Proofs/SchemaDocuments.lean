import SchemaChart.Command.Conversion
import SchemaChart.Proofs.Documents

/-!
# Schemas as documents

The document of a schema keeps all of it. A document is read back from its text
(`Schema.readFrom_printed`), and each part of a schema from its document (`ofJson?_toJson`),
so the text tells the schema (`schema_document_lossless`).
-/

namespace SchemaChart

-- ---------------------------------------------------------------------------
-- Schemas as documents
-- ---------------------------------------------------------------------------

open Json (Plain)

theorem ColumnRef.plain_toJson (ref : ColumnRef) : Plain 1 ref.toJson :=
  .object (by simp) (by simp [Plain.string])

theorem Column.plain_toJson (c : Column) : Plain 2 c.toJson := by
  rw [Column.toJson, Column.referenceMember]
  cases c.references with
  | none => exact .object (by simp) (by simp [Plain.string, Plain.bool])
  | some target =>
    exact .object (by simp) (by simp [Plain.string, Plain.bool, target.plain_toJson])

theorem Table.plain_toJson (t : Table) : Plain 4 t.toJson := by
  have columns : Plain 3 (.array (t.columns.map Column.toJson)) := by
    refine .array fun v mem => ?_
    obtain ⟨c, -, rfl⟩ := List.mem_map.mp mem
    exact c.plain_toJson
  exact .object (by simp) (by simp [Plain.string, columns])

theorem Relation.plain_toJson (r : Relation) : Plain 2 r.toJson :=
  .object (by simp) (by simp [Plain.string, ColumnRef.plain_toJson])

/-- The levels of the document of a schema: in an object and an array there are tables, in the
same way columns in these, and a reference in a column. -/
def Schema.depth : Nat := 6

theorem Schema.plain_toJson (s : Schema) : Plain depth s.toJson := by
  have tables : Plain 5 (.array (s.tables.map Table.toJson)) := by
    refine .array fun v mem => ?_
    obtain ⟨t, -, rfl⟩ := List.mem_map.mp mem
    exact t.plain_toJson
  have relations : Plain 5 (.array (s.relations.map Relation.toJson)) := by
    refine .array fun v mem => ?_
    obtain ⟨r, -, rfl⟩ := List.mem_map.mp mem
    exact r.plain_toJson.mono (by decide)
  exact .object (by simp) (by simp [tables, relations])

/-- A schema is read from what the command prints. -/
theorem Schema.readFrom_printed (s : Schema) :
    Json.ReadFrom depth (s.toJson.text .indented ++ ['\n']) s.toJson :=
  Json.readFrom_text_append Json.Layout.indented_readable s.plain_toJson (by simp [Json.isGap])

-- ---------------------------------------------------------------------------
-- Schemas from documents
-- ---------------------------------------------------------------------------

namespace Json

def flag? : Json → Option Bool
  | .bool b => some b
  | _ => none

def items? : Json → Option (List Json)
  | .array items => some items
  | _ => none

/-- What `read` makes of the member of the given name. -/
def field? (read : Json → Option α) (name : Text) (v : Json) : Option α :=
  (v.member? name).bind read

end Json

def ColumnRef.ofJson? (v : Json) : Option ColumnRef := do
  let table ← v.field? Json.text? "table"
  let column ← v.field? Json.text? "column"
  return ⟨table, column⟩

/-- Whether the column is a foreign key need not be read: its references tell. -/
def Column.ofJson? (v : Json) : Option Column := do
  let name ← v.field? Json.text? "name"
  let type ← v.field? Json.text? "type"
  let primaryKey ← v.field? Json.flag? "isPrimaryKey"
  let nullable ← v.field? Json.flag? "isNullable"
  match v.member? "references" with
  | none => return ⟨name, type, primaryKey, nullable, none⟩
  | some target => return ⟨name, type, primaryKey, nullable, some (← ColumnRef.ofJson? target)⟩

def Table.ofJson? (v : Json) : Option Table := do
  let name ← v.field? Json.text? "name"
  let columns ← v.field? Json.items? "columns"
  return ⟨name, ← columns.mapM Column.ofJson?⟩

def Relation.ofJson? (v : Json) : Option Relation := do
  let source ← v.field? ColumnRef.ofJson? "from"
  let target ← v.field? ColumnRef.ofJson? "to"
  let label ← v.field? Json.text? "type"
  return ⟨source, target, ← Cardinality.ofLabel? label⟩

def Schema.ofJson? (v : Json) : Option Schema := do
  let tables ← v.field? Json.items? "tables"
  let relations ← v.field? Json.items? "relations"
  return ⟨← tables.mapM Table.ofJson?, ← relations.mapM Relation.ofJson?⟩

/-- The schema whose document the text is, if the text is read down to so many levels. -/
def Schema.ofText? (levels : Nat) (s : Text) : Option Schema :=
  (Json.read levels s).toOption.bind Schema.ofJson?

theorem mapM_map {write : α → Json} {read : Json → Option α} (h : ∀ a, read (write a) = some a)
    (items : List α) : (items.map write).mapM read = some items := by
  induction items with
  | nil => rfl
  | cons a items ih => simp [h, ih]

theorem ColumnRef.ofJson?_toJson (r : ColumnRef) : ofJson? r.toJson = some r := rfl

theorem Column.ofJson?_toJson (c : Column) : ofJson? c.toJson = some c := by
  obtain ⟨name, type, primaryKey, nullable, references⟩ := c
  cases references <;> rfl

theorem Table.ofJson?_toJson (t : Table) : ofJson? t.toJson = some t := by
  have columns := mapM_map Column.ofJson?_toJson t.columns
  have name : t.toJson.field? Json.text? "name" = some t.name := rfl
  have items : t.toJson.field? Json.items? "columns" = some (t.columns.map Column.toJson) := rfl
  simp only [ofJson?, name, items, columns, bind, Option.bind_some, pure]

theorem Relation.ofJson?_toJson (r : Relation) : ofJson? r.toJson = some r := by
  have source : r.toJson.field? ColumnRef.ofJson? "from" = some r.source := rfl
  have target : r.toJson.field? ColumnRef.ofJson? "to" = some r.target := rfl
  have label : r.toJson.field? Json.text? "type" = some r.cardinality.label := rfl
  simp only [ofJson?, source, target, label, Cardinality.ofLabel?_label, bind, Option.bind_some,
    pure]

theorem Schema.ofJson?_toJson (s : Schema) : ofJson? s.toJson = some s := by
  have tables := mapM_map Table.ofJson?_toJson s.tables
  have relations := mapM_map Relation.ofJson?_toJson s.relations
  have items : s.toJson.field? Json.items? "tables" = some (s.tables.map Table.toJson) := rfl
  have items' : s.toJson.field? Json.items? "relations" =
      some (s.relations.map Relation.toJson) := rfl
  simp only [ofJson?, items, items', tables, relations, bind, Option.bind_some, pure]

-- ---------------------------------------------------------------------------
-- Documents that are the same as data
-- ---------------------------------------------------------------------------

namespace Json

theorem sameParts_string : sameParts (.string s) (.string t) = true ↔ s = t := by
  simp [sameParts]

theorem sameParts_bool : sameParts (.bool a) (.bool b) = true ↔ a = b := by
  cases a <;> cases b <;> simp [sameParts, numeric?, isNaN, Number.agrees]

theorem sameParts_object : sameParts (.object members) (.object others) =
    (decide (members.length = others.length) && sameMembers members others) := by
  rw [sameParts]

theorem sameItems_map_iff {write : α → Json}
    (h : ∀ a b, sameParts (write a) (write b) = true ↔ a = b) (items others : List α) :
    sameItems (items.map write) (others.map write) = true ↔ items = others := by
  induction items generalizing others with
  | nil => cases others <;> simp [sameItems]
  | cons a items ih =>
    cases others with
    | nil => simp [sameItems]
    | cons b others => simp [sameItems, h, ih]

theorem sameParts_map {write : α → Json}
    (h : ∀ a b, sameParts (write a) (write b) = true ↔ a = b) (items others : List α) :
    sameParts (.array (items.map write)) (.array (others.map write)) = true ↔ items = others := by
  rw [sameParts, sameItems_map_iff h]

end Json

open Json (sameParts sameParts_object sameParts_string sameParts_bool sameParts_map sameMembers)

theorem ColumnRef.sameParts_toJson (r q : ColumnRef) :
    sameParts r.toJson q.toJson = true ↔ r = q := by
  cases r
  cases q
  simp [toJson, sameParts_object, sameMembers, List.lookup_cons, sameParts_string]

theorem Column.sameParts_toJson (c d : Column) : sameParts c.toJson d.toJson = true ↔ c = d := by
  obtain ⟨name, type, primaryKey, nullable, references⟩ := c
  obtain ⟨name', type', primaryKey', nullable', references'⟩ := d
  cases references <;> cases references' <;>
    simp [toJson, referenceMember, isForeignKey, sameParts_object, sameMembers, List.lookup_cons,
      sameParts_string, sameParts_bool, ColumnRef.sameParts_toJson]

theorem Table.sameParts_toJson (t u : Table) : sameParts t.toJson u.toJson = true ↔ t = u := by
  cases t
  cases u
  simp [toJson, sameParts_object, sameMembers, List.lookup_cons, sameParts_string,
    sameParts_map Column.sameParts_toJson]

theorem Cardinality.label_inj {c d : Cardinality} : c.label = d.label ↔ c = d := by
  cases c <;> cases d <;> decide

theorem Relation.sameParts_toJson (r q : Relation) :
    sameParts r.toJson q.toJson = true ↔ r = q := by
  cases r
  cases q
  simp [toJson, sameParts_object, sameMembers, List.lookup_cons, sameParts_string,
    ColumnRef.sameParts_toJson, Cardinality.label_inj]

theorem Schema.agrees_toJson (s t : Schema) : s.toJson.agrees t.toJson = true ↔ s = t := by
  have number : s.toJson.isNaN = false := rfl
  rw [Json.agrees, number, Bool.not_false, Bool.true_and]
  cases s
  cases t
  simp [toJson, sameParts_object, sameMembers, List.lookup_cons,
    sameParts_map Table.sameParts_toJson, sameParts_map Relation.sameParts_toJson]

-- ---------------------------------------------------------------------------
-- Texts
-- ---------------------------------------------------------------------------

theorem Schema.ofText?_of_readFrom {s : Schema} (h : Json.ReadFrom depth text s.toJson)
    (deep : depth ≤ levels) : ofText? levels text = some s := by
  rw [ofText?, h levels deep]
  exact s.ofJson?_toJson

theorem Schema.ofText?_printed (s : Schema) (deep : depth ≤ levels) :
    ofText? levels (s.print true) = some s := ofText?_of_readFrom s.readFrom_printed deep

theorem Schema.print_inj {s t : Schema} : s.print true = t.print true ↔ s = t := by
  refine ⟨fun same => ?_, fun same => by rw [same]⟩
  have told := congrArg (ofText? depth) same
  rwa [s.ofText?_printed (Nat.le_refl _), t.ofText?_printed (Nat.le_refl _), Option.some_inj]
    at told

theorem Schema.isAscii_printed (s : Schema) : Text.IsAscii (s.print true) :=
  Text.isAscii_append.mpr
    ⟨s.plain_toJson.writesAscii Json.Layout.indented_readable 0, by decide⟩

/-- A schema is told by its document, and by what the command prints of it, which is ASCII; so
two schemas are printed alike if and only if their documents are the same as data, and this is
so only for equal schemas. -/
theorem schema_document_lossless (s t : Schema) (more : Nat) :
    Schema.ofText? (Schema.depth + more) (s.toJson.text .indented) = some s ∧
    Schema.ofText? (Schema.depth + more) (s.print true) = some s ∧
    (s.print true = t.print true ↔ s.toJson.agrees t.toJson = true) ∧
    (s.toJson.agrees t.toJson = true ↔ s = t) ∧
    Text.IsAscii (s.print true) := by
  have deep := Nat.le_add_right Schema.depth more
  have document := Json.readFrom_text Json.Layout.indented_readable s.plain_toJson
  exact ⟨Schema.ofText?_of_readFrom document deep, s.ofText?_printed deep,
    Schema.print_inj.trans (s.agrees_toJson t).symm, s.agrees_toJson t, s.isAscii_printed⟩

end SchemaChart
