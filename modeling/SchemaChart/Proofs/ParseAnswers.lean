import SchemaChart.Proofs.Consistency
import SchemaChart.Proofs.Interfaces
import SchemaChart.Proofs.Search

/-!
# Which scripts are answered

A script declares a table if a header for one stands somewhere in it and the group behind
the header is closed (`Declares`). That is all a schema needs to have tables
(`tables_read_ne_nil_iff`), so it decides the answer of the service (`parse_answered`),
except where the body of the request is deeper than the reader goes: nobody expected that,
and there is no refusal for it (`parse_deep_unanswered`).
-/

namespace SchemaChart

-- ---------------------------------------------------------------------------
-- Scripts with tables
-- ---------------------------------------------------------------------------

/-- A header for a table stands in the script, and one of the two scans finds the end of
its group. -/
def Declares (script : Text) : Prop :=
  ∃ p name opening, HeaderAt (Text.normalize script) p name opening ∧
    ∃ aware closing, closingFrom aware (Text.normalize script) opening = .ok (some closing)

theorem SchemaReading.tables_addFinding_eq_nil_iff (r : SchemaReading) (f : Finding) :
    (r.addFinding f).schema.tables = [] ↔
      r.schema.tables = [] ∧ ∀ st, f ≠ .statement st := by
  cases f with
  | unclosed name => simp [addFinding, note]
  | statement st =>
    rw [schema_addFinding_statement]
    by_cases new : r.schema.table? (Table.read st.name st.body).table.name = none
    · simp [Schema.addReading_of_none new]
    · rw [Schema.addReading_of_some new]
      -- a table of the name is there already
      have some : r.schema.tables ≠ [] := by
        intro none
        rw [Schema.table?_eq_none_iff, none] at new
        exact new (by simp)
      simp [some]

theorem SchemaReading.tables_addFindings_eq_nil_iff (r : SchemaReading) (fs : List Finding) :
    (fs.foldl addFinding r).schema.tables = [] ↔
      r.schema.tables = [] ∧ ∀ st, .statement st ∉ fs := by
  induction fs generalizing r with
  | nil => simp
  | cons f fs ih =>
    rw [List.foldl_cons, ih, tables_addFinding_eq_nil_iff, and_assoc, ← forall_and]
    simp only [List.mem_cons, not_or, ne_comm, ne_eq]

/-- A schema has tables if the script declares one; no header that could be closed is lost
on the way. -/
theorem tables_read_ne_nil_iff (script : Text) :
    (Schema.read script).schema.tables ≠ [] ↔ Declares script := by
  have run := search_findings (Text.normalize script)
  rw [schema_read, ne_eq, SchemaReading.tables_addFindings_eq_nil_iff]
  constructor
  · intro some
    obtain ⟨st, mem⟩ : ∃ st, Finding.statement st ∈ findings (Text.normalize script) := by
      by_contra none
      exact some ⟨rfl, fun st mem => none ⟨st, mem⟩⟩
    have lies := (run.liesIn mem).2
    rcases lies.closed with found | ⟨-, found⟩
    · exact ⟨_, _, _, lies.header, true, _, found⟩
    · exact ⟨_, _, _, lies.header, false, _, found⟩
  · rintro ⟨p, name, opening, header, aware, closing, closed⟩ ⟨-, none⟩
    -- the run meets every header: it lies in a statement that is found, or no scan closes it
    rcases run.covers (Nat.zero_le p) header with ⟨st, mem, -⟩ | ⟨respected, ignored⟩
    · exact none st mem
    · cases aware with
      | true => cases closed.symm.trans respected
      | false => cases closed.symm.trans ignored

-- ---------------------------------------------------------------------------
-- Values that are too deep
-- ---------------------------------------------------------------------------

namespace Json

/-- One bracket more than there are levels, and the reader gives up whatever follows. -/
theorem readValue_deep (levels : Nat) (rest : Text) (h : 2 * levels < bound) :
    ∃ s, readValue levels bound (List.replicate (levels + 1) '[' ++ rest) =
      .error ⟨.deepArray, s⟩ := by
  induction levels generalizing bound with
  | zero =>
    obtain ⟨bound, rfl⟩ : ∃ m, bound = m + 1 := ⟨bound - 1, by omega⟩
    exact ⟨_, rfl⟩
  | succ levels ih =>
    -- an array takes a step of the bound, and its first item another one
    obtain ⟨bound, rfl⟩ : ∃ m, bound = m + 2 := ⟨bound - 2, by omega⟩
    obtain ⟨s, inner⟩ := ih (by omega : 2 * levels < bound)
    have next : skipGap (List.replicate (levels + 1) '[' ++ rest) =
        List.replicate (levels + 1) '[' ++ rest := skipGap_stop (by decide) _
    have other : (List.replicate (levels + 1) '[' ++ rest).head? ≠ some ']' := by
      simp [List.replicate_succ]
    rw [List.replicate_succ, List.cons_append, readValue_items levels _ next other, readItems,
      inner]
    exact ⟨s, rfl⟩

/-- A value whose script is a row of arrays, each inside the one before it. -/
def deepText (depth : Nat) : Text :=
  '\x7b' :: '\x22' :: 's' :: 'q' :: 'l' :: '\x22' :: ':' ::
    (List.replicate depth '[' ++ (List.replicate depth ']' ++ ['\x7d']))

theorem mem_deepText (h : c ∈ deepText depth) :
    c.toNat < 0x80 ∧ c ≠ '\\' := by
  simp only [deepText, List.mem_cons, List.mem_append, List.mem_replicate, List.not_mem_nil,
    or_false] at h
  rcases h with rfl | rfl | rfl | rfl | rfl | rfl | rfl | ⟨-, rfl⟩ | ⟨-, rfl⟩ | rfl <;> decide

theorem readValue_deepText (levels more : Nat) (h : 2 * levels < bound) :
    ∃ s, readValue (levels + 1) (bound + 2) (deepText (levels + 1 + more)) =
      .error ⟨.deepArray, s⟩ := by
  let rest : Text := List.replicate more '[' ++
    (List.replicate (levels + 1 + more) ']' ++ ['\x7d'])
  let brackets : Text := List.replicate (levels + 1) '[' ++ rest
  have front : deepText (levels + 1 + more) =
      '\x7b' :: '\x22' :: (escapeText ['s', 'q', 'l'] ++ '\x22' :: ':' :: brackets) := by
    rw [deepText, List.replicate_add, List.append_assoc]
    rfl
  obtain ⟨s, deep⟩ := readValue_deep levels rest h
  have colon : skipGap (':' :: brackets) = ':' :: brackets := skipGap_stop (by decide) _
  have value : skipGap brackets = brackets := skipGap_stop (by decide) _
  refine ⟨s, ?_⟩
  rw [front, readValue_members levels _ (skipGap_stop (by decide) _) (by simp), readMembers,
    readText_escapeText]
  simp only [colon, value, brackets, deep]
  rfl

/-- Such a value is given up by every reader that does not go deeper. -/
theorem read_deepText (h : levels ≤ depth) :
    ∃ fault, read levels (deepText depth) = .error fault ∧ fault.cause.isDepth = true := by
  obtain ⟨stop, failed, deep⟩ : ∃ stop, readValue levels (2 * (deepText depth).length + 2)
      (deepText depth) = .error stop ∧ stop.cause.isDepth = true := by
    cases levels with
    | zero => exact ⟨_, rfl, rfl⟩
    | succ top =>
      obtain ⟨more, rfl⟩ := Nat.exists_eq_add_of_le h
      have fuel : 2 * top < 2 * (deepText (top + 1 + more)).length := by
        simp only [deepText, List.length_cons, List.length_append, List.length_replicate]
        omega
      obtain ⟨s, failed⟩ := readValue_deepText top more fuel
      exact ⟨_, failed, rfl⟩
  have front : skipGap (deepText depth) = deepText depth := skipGap_stop (by decide) _
  refine ⟨stop.fault (deepText depth), ?_, deep⟩
  rw [read, readAll, if_neg (by simp [deepText]), front, failed]
  rfl

theorem length_deepText (depth : Nat) : (deepText depth).encode.length = 2 * depth + 8 := by
  rw [Text.length_encode_ascii fun _ mem => (mem_deepText mem).1]
  simp only [deepText, List.length_cons, List.length_append, List.length_replicate, List.length_nil]
  omega

theorem detect_deepText (depth : Nat) : Encoding.detect (deepText depth).encode =
    (.utf8, (deepText depth).encode) := rfl

theorem writesUnits_deepText (depth : Nat) : writesUnits (deepText depth).encode = false := by
  have whole : hasLoneUnit (points (deepText depth ++ [])) = hasLoneUnit (points []) :=
    hasLoneUnit_points_append (fun mem => (mem_deepText mem).2 rfl) []
  rw [List.append_nil] at whole
  rw [writesUnits_encode (fun _ mem => (mem_deepText mem).1) (detect_deepText depth), whole]
  rfl

end Json

namespace Service

theorem givenUp_deepText (h : levels ≤ depth) :
    ∃ fault, GivenUp levels (Json.deepText depth).encode fault := by
  obtain ⟨fault, read, deep⟩ := Json.read_deepText h
  refine ⟨fault, ?_, deep⟩
  rw [Json.ofBytes_encode (fun _ mem => (Json.mem_deepText mem).1) (Json.detect_deepText depth),
    read]
  rfl

-- ---------------------------------------------------------------------------
-- Answers
-- ---------------------------------------------------------------------------

theorem scriptVerdict_of_declares (h : Declares s) : scriptVerdict s =
    .document (.object [("schema", (Schema.read s).schema.toJson)]) false := by
  have some := (tables_read_ne_nil_iff s).mpr h
  rcases scriptVerdict_cases s with ⟨empty, -⟩ | ⟨-, document⟩
  · exact absurd (List.isEmpty_iff.mp empty) some
  · exact document

theorem scriptVerdict_of_not_declares (h : ¬Declares s) :
    ∃ r, scriptVerdict s = .refusal r ∧ r.status = 400 := by
  have none := mt (tables_read_ne_nil_iff s).mp h
  rcases scriptVerdict_cases s with ⟨-, refused⟩ | ⟨found, -⟩
  · exact refused
  · exact absurd (by simpa [Schema.isEmpty] using found) none

section

variable {q : Request} (delivered : q.Delivered .parse) {service : Service}
  (fits : exceeds service.settings.bodyLimit q.bodyLength? = false)
  (units : Json.writesUnits q.body = false) (post : Vision.Call → Vision.Reply)

include delivered fits

/-- A body that holds no script is refused. -/
theorem dispatch_parse_of_not_holds (shallow : ∀ fault, ¬GivenUp levels q.given fault)
    (none : ∀ s, ¬HoldsText levels "sql" q.given s) :
    ∃ r, (service.dispatch (.reading levels post) q .parse).verdict = .refusal r ∧
      r.status = 400 := by
  obtain ⟨r, refused, reason⟩ := withText_of_not_holds delivered fits .noScript
    (parse (Backend.reading levels post).readScript (Json.writesUnits q.body)) shallow none
  refine ⟨r, ?_, ?_⟩
  · rw [dispatch, Backend.bodyLevels_reading, refused]
    rfl
  · rcases reason with rfl | rfl <;> rfl

include units

theorem dispatch_parse_of_not_declares (shallow : ∀ fault, ¬GivenUp levels q.given fault)
    (none : ¬∃ s, HoldsText levels "sql" q.given s ∧ Declares s) :
    ∃ r, (service.dispatch (.reading levels post) q .parse).verdict = .refusal r ∧
      r.status = 400 := by
  by_cases holds : ∃ s, HoldsText levels "sql" q.given s
  · obtain ⟨s, holds⟩ := holds
    rw [verdict_parse delivered fits units holds post]
    exact scriptVerdict_of_not_declares fun declares => none ⟨s, holds, declares⟩
  · exact dispatch_parse_of_not_holds delivered fits post shallow (not_exists.mp holds)

theorem reply_of_declares (holds : HoldsText levels "sql" q.given s) (declares : Declares s) :
    ∃ response, (service.handle (.reading levels post) q).reply = .ok response ∧
      ∃ answered, response.Tells 200 (Schema.depth + 1) (.object [("schema", answered)]) ∧
        (Schema.read s).schema.toJson.agrees answered = true := by
  have verdict := (verdict_parse delivered fits units holds post).trans
    (scriptVerdict_of_declares declares)
  obtain ⟨response, reply, told⟩ := delivered.reply_of_tells verdict rfl
    (Response.tells_ofJson service.settings.debug 200 (Schema.read s).schema.plain_answer)
  exact ⟨response, reply, _, told, (Schema.read s).schema.plain_toJson.agrees_sorted⟩

omit units in
theorem reply_of_givenUp (deep : GivenUp levels q.given fault) :
    (service.handle (.reading levels post) q).reply =
      if service.handsOn then .error (.failure (.body fault))
      else .ok (Response.apology.toRequest q) := by
  refine delivered.reply_of_failure ?_
  rw [dispatch, Backend.bodyLevels_reading, withText_of_givenUp delivered fits _ _ deep]
  rfl

/-- The answer is the schema if the body holds a script that declares a table, and a refusal
if it does not. A body that is too deep is a failure that nobody expected. -/
theorem parse_answered :
    ((∀ fault, ¬GivenUp levels q.given fault) →
      ∃ response, (service.handle (.reading levels post) q).reply = .ok response ∧
        (response.status = 200 ↔ ∃ s, HoldsText levels "sql" q.given s ∧ Declares s) ∧
        (∀ s, HoldsText levels "sql" q.given s → Declares s →
          (Schema.read s).schema.tables ≠ [] ∧
          ∃ answered, response.Tells 200 (Schema.depth + 1) (.object [("schema", answered)]) ∧
            (Schema.read s).schema.toJson.agrees answered = true) ∧
        (response.status ≠ 200 → response.Refuses 400)) ∧
    ∀ fault, GivenUp levels q.given fault →
      (service.handle (.reading levels post) q).reply =
        if service.handsOn then .error (.failure (.body fault))
        else .ok (Response.apology.toRequest q) := by
  constructor
  · intro shallow
    by_cases answered : ∃ s, HoldsText levels "sql" q.given s ∧ Declares s
    · obtain ⟨s, holds, declares⟩ := answered
      obtain ⟨response, reply, told⟩ :=
        reply_of_declares delivered fits units post holds declares
      have ok : response.status = 200 := told.elim fun _ told => told.1.status
      refine ⟨response, reply, iff_of_true ok ⟨s, holds, declares⟩, ?_, absurd ok⟩
      intro s' holds' _
      cases holds.unique holds'
      exact ⟨(tables_read_ne_nil_iff s).mpr declares, told⟩
    · obtain ⟨r, refused, status⟩ :=
        dispatch_parse_of_not_declares delivered fits units post shallow answered
      obtain ⟨response, reply, refuses⟩ := delivered.reply_of_refusal refused
      rw [status] at refuses
      have bad : response.status ≠ 200 := by
        obtain ⟨message, told⟩ := refuses
        simp [told.status]
      exact ⟨response, reply, iff_of_false bad answered,
        fun s holds declares => absurd ⟨s, holds, declares⟩ answered, fun _ => refuses⟩
  · exact fun fault deep => reply_of_givenUp delivered fits post deep

end

/-- A statement that is never closed, with one inside it that is. -/
def nestedScript : Text := "CREATE TABLE a (CREATE TABLE b (x INT)"

theorem parse_answered_nested :
    let q := scriptRequest (scriptBody nestedScript)
    q.Delivered .parse ∧ exceeds sampleService.settings.bodyLimit q.bodyLength? = false ∧
      Json.writesUnits q.body = false ∧ (∀ fault, ¬GivenUp sampleLevels q.given fault) ∧
      ∃ response, (sampleService.handle (.reading sampleLevels samplePost) q).reply = .ok response ∧
        ∃ answered, response.Tells 200 (Schema.depth + 1) (.object [("schema", answered)]) ∧
          (Schema.read nestedScript).schema.toJson.agrees answered = true := by
  intro q
  have delivered : q.Delivered .parse := Request.delivered_posted (by decide) _
  have fits : exceeds sampleService.settings.bodyLimit q.bodyLength? = false :=
    exceeds_posted (by decide) .parse
  have given : q.given = scriptBody nestedScript := Request.given_posted .parse _
  have carries := carries_scriptBody (by decide : 1 ≤ sampleLevels) nestedScript
  have holds : HoldsText sampleLevels "sql" q.given nestedScript := given ▸ carries.holds
  have shallow : ∀ fault, ¬GivenUp sampleLevels q.given fault := fun _ => holds.not_givenUp
  have declares : Declares nestedScript := (tables_read_ne_nil_iff _).mp (by decide +kernel)
  obtain ⟨answers, -⟩ := parse_answered delivered fits carries.whole samplePost
  obtain ⟨response, reply, -, schema, -⟩ := answers shallow
  exact ⟨delivered, fits, carries.whole, shallow, response, reply,
    (schema nestedScript holds declares).2⟩

/-- A service that is in use, where failures are not handed on. -/
def usedService : Service :=
  { sampleService with settings := { sampleService.settings with testing := false } }

/-- Three thousand arrays in the place of a script are no script, but they are not refused. -/
theorem parse_deep_unanswered :
    let q := Request.posted .parse (Json.deepText 3000).encode
    q.Delivered .parse ∧ exceeds sampleService.settings.bodyLimit q.bodyLength? = false ∧
      Json.writesUnits q.body = false ∧
      (∃ f, (sampleService.handle (.reading sampleLevels samplePost) q).reply =
        .error (.failure f)) ∧
      ∃ response, (usedService.handle (.reading sampleLevels samplePost) q).reply = .ok response ∧
        response.status = 500 := by
  intro q
  have delivered : q.Delivered .parse := Request.delivered_posted (by decide) _
  have fits : exceeds sampleService.settings.bodyLimit q.bodyLength? = false :=
    exceeds_posted (by rw [Json.length_deepText]; decide) .parse
  have given : q.given = (Json.deepText 3000).encode := Request.given_posted .parse _
  obtain ⟨fault, deep⟩ := givenUp_deepText (by decide : sampleLevels ≤ 3000)
  rw [← given] at deep
  have fitsUsed : exceeds usedService.settings.bodyLimit q.bodyLength? = false := fits
  have handedOn := reply_of_givenUp delivered fits samplePost deep
  have apology := reply_of_givenUp delivered fitsUsed samplePost deep
  rw [if_pos (by decide)] at handedOn
  rw [if_neg (by decide)] at apology
  exact ⟨delivered, fits, Json.writesUnits_deepText 3000, ⟨_, handedOn⟩, _, apology, rfl⟩

end Service

end SchemaChart
