import SchemaChart.Command.Run
import SchemaChart.Proofs.Bytes
import SchemaChart.Proofs.Results

/-!
# Output for machines

`machine_output_clean`: with JSON asked for, a run prints the document of its script and
nothing else, whatever the other options are and however the drawing ends. The script is what
the host supplies for the input (`Supplies`), and the status tells whether the schema was
printed and drawn as asked (`Drawn`).
-/

namespace SchemaChart

-- ---------------------------------------------------------------------------
-- Conversions
-- ---------------------------------------------------------------------------

/-- The drawing is done: the names that it takes are there, and it is not refused. -/
def ConversionRequest.Drawn (q : ConversionRequest) (draw : Drawing → Except Text Unit)
    (s : Schema) : Prop :=
  ∃ directory name, q.directory = some directory ∧ q.name = some name ∧
    draw ((Chart.ofSchema name s).1.drawing name directory q.view) = .ok ()

theorem ConversionRequest.place_eq_ok_iff {q : ConversionRequest} {place : Text × Text} :
    q.place = .ok place ↔ q.directory = some place.1 ∧ q.name = some place.2 := by
  obtain ⟨directory, name⟩ := place
  rw [ConversionRequest.place]
  split <;> simp_all

namespace SchemaReading

variable {r : SchemaReading} (draw : Drawing → Except Text Unit) (q : ConversionRequest)

theorem convert_of_isEmpty (empty : r.schema.isEmpty = true) :
    (r.convert draw q).output = [] ∧ (r.convert draw q).result = .noTables := by
  simp [convert, nonempty, empty]

/-- The document is printed before anything is drawn, and nothing is printed afterwards. -/
theorem convert_of_found (found : r.schema.isEmpty = false) (json : q.json = true) :
    (r.convert draw q).output = r.schema.print true ∧
      ((∃ s, (r.convert draw q).result = .converted s) ↔
        q.render = false ∨ q.Drawn draw r.schema) := by
  simp only [convert, nonempty, found, json, Bool.false_eq_true, if_false, if_true]
  cases render : q.render with
  | false => exact ⟨rfl, by simp⟩
  | true =>
    simp only [if_true, Bool.true_eq_false, false_or]
    cases placed : q.place with
    | error fault =>
      refine ⟨rfl, by simp, ?_⟩
      rintro ⟨directory, name, here, called, -⟩
      have place : q.place = .ok (directory, name) :=
        ConversionRequest.place_eq_ok_iff.mpr ⟨here, called⟩
      rw [placed] at place
      cases place
    | ok place =>
      obtain ⟨here, called⟩ := ConversionRequest.place_eq_ok_iff.mp placed
      simp only [Schema.draw, ConversionRequest.Drawn, here, called, Option.some_inj]
      cases drawn : draw ((Chart.ofSchema place.2 r.schema).1.drawing place.2 place.1 q.view) with
      | error reason => exact ⟨rfl, by simp [Except.map, drawn]⟩
      | ok _ => exact ⟨rfl, by simp [Except.map, drawn]⟩

end SchemaReading

namespace Command

-- ---------------------------------------------------------------------------
-- What the input holds
-- ---------------------------------------------------------------------------

/-- The host has the script at the input: on standard input or in a file, in bytes that are a
text. Line ends of the script are unified. -/
inductive Host.Supplies (h : Host) : Text → Text → Prop
  | input (bytes : h.input = Text.encode s) : h.Supplies "-" (s.unifyLines false)
  | file {path : Text} (other : path ≠ "-")
      (entry : h.lookUp (normalPath path) = .ok (some (.file (Text.encode s)))) :
      h.Supplies path (s.unifyLines false)

theorem Host.script?_standard {h : Host} :
    h.script? "-" = .ok (some (.ok script)) ↔ h.input.readText = .ok script := by
  simp only [script?, if_true, Except.ok.injEq, Option.some.injEq, mapError_ok_iff]

theorem Host.script?_path {h : Host} {path : Text} (other : path ≠ "-") :
    h.script? path = .ok (some (.ok script)) ↔
      ∃ content, h.lookUp (normalPath path) = .ok (some (.file content)) ∧
        content.readText = .ok script := by
  rw [script?, if_neg other, map_ok_iff]
  constructor
  · rintro ⟨entry, found, read⟩
    rcases Option.map_eq_some_iff.mp read with ⟨content | _, rfl, decoded⟩
    · exact ⟨content, found, mapError_ok_iff.mp decoded⟩
    · cases decoded
  · rintro ⟨content, found, read⟩
    exact ⟨_, found, congrArg some (mapError_ok_iff.mpr read)⟩

theorem Host.script?_ok_iff {h : Host} {path script : Text} :
    h.script? path = .ok (some (.ok script)) ↔ h.Supplies path script := by
  constructor
  · intro read
    by_cases standard : path = "-"
    · subst standard
      obtain ⟨s, bytes, rfl⟩ := Bytes.readText_ok_iff.mp (script?_standard.mp read)
      exact .input bytes
    · obtain ⟨content, entry, text⟩ := (script?_path standard).mp read
      obtain ⟨s, rfl, rfl⟩ := Bytes.readText_ok_iff.mp text
      exact .file standard entry
  · rintro (⟨bytes⟩ | ⟨other, entry⟩)
    · exact script?_standard.mpr (bytes ▸ Bytes.readText_encode _)
    · exact (script?_path other).mpr ⟨_, entry, Bytes.readText_encode _⟩

theorem Host.Supplies.unique {h : Host} {path s t : Text} (first : h.Supplies path s)
    (second : h.Supplies path t) : s = t := by
  have same := (script?_ok_iff.mpr first).symm.trans (script?_ok_iff.mpr second)
  cases same
  rfl

-- ---------------------------------------------------------------------------
-- Runs
-- ---------------------------------------------------------------------------

/-- What a run prints on standard output; one that a path puts an end to prints nothing. -/
def printed : Except PathTooLong Outcome → Text
  | .ok outcome => outcome.output
  | .error _ => []

def exitStatus : Except PathTooLong Outcome → Nat
  | .ok outcome => outcome.status
  | .error _ => 1

theorem run_of_read (h : Host) (accepted : Options.read arguments = .ok o) :
    run h arguments = o.run h := by
  rw [run, accepted]

/-- A run on a script ends as the conversion does. -/
theorem run_of_supplies {h : Host} {o : Options} (supplied : h.Supplies o.input script) :
    ∃ outcome, o.run h = .ok outcome ∧
      outcome.output = ((Schema.read script).convert h.draw o.request).output ∧
      (outcome.status = 0 ↔
        ∃ s, ((Schema.read script).convert h.draw o.request).result = .converted s) ∧
      (outcome.status = 0 ∨ outcome.status = 1) := by
  refine ⟨_, congrArg (Except.map _) (Host.script?_ok_iff.mpr supplied), ?_⟩
  cases result : ((Schema.read script).convert h.draw o.request).result <;> simp [result]

theorem run_of_not_supplies {h : Host} {o : Options} (without : ∀ s, ¬h.Supplies o.input s) :
    printed (o.run h) = [] ∧ exitStatus (o.run h) = 1 := by
  rw [Options.run]
  rcases read : h.script? o.input with fault | _ | failure | script
  · exact ⟨rfl, rfl⟩
  · exact ⟨rfl, rfl⟩
  · exact ⟨rfl, rfl⟩
  · exact absurd (Host.script?_ok_iff.mp read) (without script)

theorem printed_ne_nil_iff {h : Host} {o : Options} (supplied : h.Supplies o.input script)
    (json : o.json = true) :
    printed (o.run h) ≠ [] ↔ (Schema.read script).schema.isEmpty = false := by
  obtain ⟨outcome, ran, output, -⟩ := run_of_supplies supplied
  rw [ran, printed, output]
  cases found : (Schema.read script).schema.isEmpty with
  | true => simp [(SchemaReading.convert_of_isEmpty h.draw o.request found).1]
  | false => simp [(SchemaReading.convert_of_found h.draw o.request found json).1, Schema.print]

theorem exitStatus_eq_zero_iff {h : Host} {o : Options} (supplied : h.Supplies o.input script)
    (json : o.json = true) :
    exitStatus (o.run h) = 0 ↔ (Schema.read script).schema.isEmpty = false ∧
      (o.render = false ∨ o.request.Drawn h.draw (Schema.read script).schema) := by
  obtain ⟨outcome, ran, -, status, -⟩ := run_of_supplies supplied
  rw [ran, exitStatus, status]
  cases found : (Schema.read script).schema.isEmpty with
  | true => simp [(SchemaReading.convert_of_isEmpty h.draw o.request found).2]
  | false =>
    have met := (SchemaReading.convert_of_found h.draw o.request found json).2
    exact ⟨fun done => ⟨rfl, met.mp done⟩, fun done => met.mpr done.2⟩

/-- A run that is to print JSON prints the document of its script or nothing. It prints if the
host supplies a script with a table. Its status is 0 if it has printed and all that was to be
drawn is drawn, and 1 otherwise. -/
theorem machine_output_clean (h : Host) (accepted : Options.read arguments = .ok o)
    (json : o.json = true) :
    (printed (run h arguments) = [] ∨ ∃ script, h.Supplies o.input script ∧
      printed (run h arguments) = (Schema.read script).schema.toJson.text .indented ++ ['\n']) ∧
    (printed (run h arguments) ≠ [] ↔ ∃ script, h.Supplies o.input script ∧
      (Schema.read script).schema.isEmpty = false) ∧
    (exitStatus (run h arguments) = 0 ↔ printed (run h arguments) ≠ [] ∧
      (o.render = false ∨ ∃ script, h.Supplies o.input script ∧
        o.request.Drawn h.draw (Schema.read script).schema)) ∧
    (exitStatus (run h arguments) = 0 ∨ exitStatus (run h arguments) = 1) := by
  rw [run_of_read h accepted]
  by_cases without : ∀ s, ¬h.Supplies o.input s
  · obtain ⟨silent, failed⟩ := run_of_not_supplies without
    simp [silent, failed, without]
  obtain ⟨script, supplied⟩ := not_forall_not.mp without
  -- there is one script at most, so what is said of some script is said of this one
  have only (P : Text → Prop) : (∃ s, h.Supplies o.input s ∧ P s) ↔ P script :=
    ⟨fun ⟨_, other, hs⟩ => supplied.unique other ▸ hs, fun hs => ⟨script, supplied, hs⟩⟩
  obtain ⟨outcome, ran, output, -, ended⟩ := run_of_supplies supplied
  have prints := printed_ne_nil_iff supplied json
  simp only [only]
  refine ⟨?document, prints, ?status, ran ▸ ended⟩
  case document =>
    refine or_iff_not_imp_left.mpr fun some => ?_
    have document := SchemaReading.convert_of_found h.draw o.request (prints.mp some) json
    rw [ran, printed, output, document.1]
    rfl
  case status => rw [prints, exitStatus_eq_zero_iff supplied json]

/-- A host with one file, whose drawing program is missing. -/
def tableHost : Host where
  input := []
  lookUp path := .ok (if path = "s.sql" then
    some (.file (Text.encode "CREATE TABLE été (a INT)\r\n")) else none)
  draw _ := .error "no drawing program"

def drawingArguments : List Text :=
  ["-vox", "--js", "--render", "--no-view", "-d", "out", "./s.sql"]

def drawingOptions : Options :=
  ⟨"./s.sql", some "x", some "out", true, true, false, true⟩

/-- The document of a file is printed although its diagram cannot be drawn, and the status is 1. -/
theorem printed_although_not_drawn :
    Options.read drawingArguments = .ok drawingOptions ∧ drawingOptions.json = true ∧
      printed (run tableHost drawingArguments) ≠ [] ∧
      exitStatus (run tableHost drawingArguments) = 1 := by
  have accepted : Options.read drawingArguments = .ok drawingOptions :=
    ok_of_toOption (by decide +kernel)
  have supplied : tableHost.Supplies "./s.sql"
      (Text.unifyLines false "CREATE TABLE été (a INT)\r\n") :=
    .file (by decide) (by rw [show normalPath "./s.sql" = "s.sql" by decide +kernel]; rfl)
  obtain ⟨-, prints, status, only⟩ := machine_output_clean tableHost accepted rfl
  have document := prints.mpr ⟨_, supplied, by decide +kernel⟩
  refine ⟨accepted, rfl, document, only.resolve_left fun done => ?_⟩
  obtain unasked | ⟨_, -, _, _, -, -, drawn⟩ := (status.mp done).2
  · cases unasked
  · cases drawn

end Command

end SchemaChart
