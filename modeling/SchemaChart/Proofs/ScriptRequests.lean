import SchemaChart.Proofs.Bytes
import SchemaChart.Proofs.Delivery

/-!
# Requests that carry a script

A body carries a script (`Carries`) if it holds an object whose only member is the script;
the object as it is usually written does (`carries_scriptBody`). `reply_scriptRequest`: a
request with such a body is answered with the schema that the script declares, or with a
refusal if it declares no table.
-/

namespace SchemaChart

-- ---------------------------------------------------------------------------
-- Bytes of a text in ASCII
-- ---------------------------------------------------------------------------

theorem Text.utf8EncodeChar_ascii (h : c.toNat < 0x80) :
    String.utf8EncodeChar c = [UInt8.ofNat c.toNat] := by
  have bytes := Bytes.utf8EncodeChar_one h
  rwa [Char.ofNat_toNat] at bytes

theorem Text.encode_ascii (h : IsAscii s) (mem : b ∈ Text.encode s) :
    b.toNat < 0x80 := by
  obtain ⟨c, inside, mem⟩ := List.mem_flatMap.mp mem
  have small := h c inside
  rw [Text.utf8EncodeChar_ascii small] at mem
  rw [List.eq_of_mem_singleton mem, toNat_byte (by omega)]
  exact small

theorem Text.length_encode_ascii (h : IsAscii s) :
    (Text.encode s).length = s.length := by
  rw [Text.encode, List.length_flatMap, List.map_congr_left fun c inside =>
    congrArg List.length (Text.utf8EncodeChar_ascii (h c inside))]
  simp

namespace Json

/-- A unit that is encoded like a character begins with a byte that ASCII lacks. -/
theorem Encoding.replaceUnits_ascii (h : ∀ b ∈ bytes, b.toNat < 0x80) :
    replaceUnits bytes = bytes := by
  fun_induction replaceUnits bytes with
  | case1 => rfl
  | case2 a b c rest unit held =>
    have lead : a = 0xED := by
      simp only [encodedUnit?, Bool.and_eq_true, decide_eq_true_eq] at held
      split at held
      · next bounds => exact bounds.1.1.1.1
      · simp at held
    have small := h a (by simp)
    rw [lead] at small
    exact absurd small (by decide)
  | case3 a b c rest other ih => rw [ih fun b mem => h b (List.mem_cons_of_mem _ mem)]
  | case4 a rest short ih => rw [ih fun b mem => h b (List.mem_cons_of_mem _ mem)]

section

variable (ascii : Text.IsAscii s)
  (utf8 : Encoding.detect (Text.encode s) = (.utf8, Text.encode s))

include ascii

theorem Encoding.replaceUnits_encode : replaceUnits (Text.encode s) = Text.encode s :=
  replaceUnits_ascii fun _ => Text.encode_ascii ascii

theorem Encoding.decode?_encode : decode? .utf8 (Text.encode s) = some s := by
  rw [decode?, replaceUnits_encode ascii, Bytes.decode_encode]
  rfl

include utf8

/-- A value in ASCII is read from its bytes as from its text. -/
theorem ofBytes_encode (levels : Nat) :
    ofBytes levels (Text.encode s) = (read levels s).mapError .malformed := by
  rw [ofBytes, utf8]
  simp only [Encoding.decode?_encode ascii]

theorem writesUnits_encode : writesUnits (Text.encode s) = hasLoneUnit (points s) := by
  rw [writesUnits, utf8]
  simp only [Encoding.decode?_encode ascii, Encoding.holdsUnits,
    Encoding.replaceUnits_encode ascii, ne_eq, not_true_eq_false, decide_false, Bool.false_or,
    Option.any_some]

end

/-- A plain value is read from the bytes of its text. -/
theorem ofBytes_text {l : Layout} (layout : l.Readable) (plain : Plain depth v)
    (deep : depth ≤ levels)
    (utf8 : Encoding.detect (Text.encode (v.text l)) = (.utf8, Text.encode (v.text l))) :
    ofBytes levels (Text.encode (v.text l)) = .ok v := by
  have ascii : Text.IsAscii (v.text l) := plain.writesAscii layout 0
  rw [ofBytes_encode ascii utf8, readFrom_text layout plain levels deep]
  rfl

end Json

namespace Service

-- ---------------------------------------------------------------------------
-- The body
-- ---------------------------------------------------------------------------

/-- The value that hands a script over. -/
def scriptValue (s : Text) : Json := .object [("sql", .string s)]

/-- The body holds a script, and no unit alone is written in it. -/
structure Carries (levels : Nat) (body : Bytes) (s : Text) : Prop where
  value : Json.ofBytes levels body = .ok (scriptValue s)
  whole : Json.writesUnits body = false

/-- The body that a client usually sends: the value with spaces behind its separators. -/
def scriptBody (s : Text) : Bytes := ((scriptValue s).text .spaced).encode

/-- What stands before the script in a body. -/
def scriptFront : Text := ['\x7b', '\x22', 's', 'q', 'l', '\x22', ':', ' ', '\x22']

def scriptEnd : Text := ['\x22', '\x7d']

theorem text_scriptValue (s : Text) :
    (scriptValue s).text .spaced = scriptFront ++ (Json.escapeText s ++ scriptEnd) := by
  simp [scriptValue, scriptFront, scriptEnd, Json.text, Json.write, Json.writeMembers,
    Json.Layout.quote, Json.Layout.newline, Json.Layout.spaced, Json.escapeText, Json.escapeChar]

theorem plain_scriptValue (s : Text) : Json.Plain 1 (scriptValue s) :=
  .object (by simp) (by simp [Json.Plain.string])

theorem isAscii_scriptValue (s : Text) : Text.IsAscii ((scriptValue s).text .spaced) :=
  (plain_scriptValue s).writesAscii Json.Layout.spaced_readable 0

theorem detect_scriptBody (s : Text) :
    Json.Encoding.detect (scriptBody s) = (.utf8, scriptBody s) := by
  rw [scriptBody, text_scriptValue]
  rfl

theorem carries_scriptBody (deep : 1 ≤ levels) (s : Text) : Carries levels (scriptBody s) s := by
  refine ⟨?_, ?_⟩
  · exact Json.ofBytes_text Json.Layout.spaced_readable (plain_scriptValue s) deep
      (detect_scriptBody s)
  · rw [scriptBody, Json.writesUnits_encode (isAscii_scriptValue s) (detect_scriptBody s),
      text_scriptValue, Json.hasLoneUnit_points_append (by decide),
      Json.hasLoneUnit_points_escapeText]
    decide

/-- The request that has the script in its body read. -/
def scriptRequest (body : Bytes) : Request :=
  ⟨"POST", Route.parse.pattern, [("Content-Type", Response.jsonType)], body⟩

-- ---------------------------------------------------------------------------
-- The answer
-- ---------------------------------------------------------------------------

/-- Reads scripts itself, and JSON down to so many levels, and posts to the vision service as
it is told. -/
def Backend.reading (levels : Nat) (post : Vision.Call → Vision.Reply) : Backend :=
  ⟨fun script => .ok (Schema.read script), post, levels, levels⟩

theorem Backend.bodyLevels_reading (levels : Nat) (post : Vision.Call → Vision.Reply) :
    (reading levels post).bodyLevels = levels := rfl

/-- What a script comes to: its schema, or a refusal if it declares no table. -/
def scriptVerdict (s : Text) : Verdict :=
  if s.isEmpty then .refusal .noScript
  else if (Schema.read s).schema.isEmpty then .refusal .noTables
  else .document (.object [("schema", (Schema.read s).schema.toJson)]) false

theorem scriptVerdict_cases (s : Text) :
    (Schema.read s).schema.isEmpty = true ∧
        (∃ r, scriptVerdict s = .refusal r ∧ r.status = 400) ∨
      (Schema.read s).schema.isEmpty = false ∧
        scriptVerdict s =
          .document (.object [("schema", (Schema.read s).schema.toJson)]) false := by
  unfold scriptVerdict
  split
  · next none => exact .inl ⟨by rw [Schema.read, if_pos none]; rfl, .noScript, rfl, rfl⟩
  · split
    · next empty => exact .inl ⟨empty, .noTables, rfl, rfl⟩
    · next found => exact .inr ⟨Bool.eq_false_iff.mpr found, rfl⟩

theorem verdict_parse {q : Request} (delivered : q.Delivered .parse) {service : Service}
    (fits : exceeds service.settings.bodyLimit q.bodyLength? = false)
    (units : Json.writesUnits q.body = false) (holds : HoldsText levels "sql" q.given s)
    (post : Vision.Call → Vision.Reply) :
    (service.dispatch (.reading levels post) q .parse).verdict = scriptVerdict s := by
  rw [dispatch, Backend.bodyLevels_reading, withText_of_holds delivered fits _ _ holds, units,
    scriptVerdict]
  cases s with
  | nil => rfl
  | cons c s =>
    simp only [List.isEmpty_cons, Bool.false_eq_true, if_false, parse, Backend.reading,
      SchemaReading.nonempty]
    by_cases empty : (Schema.read (c :: s)).schema.isEmpty = true
    · simp only [empty, if_true]
      rfl
    · simp only [empty, Bool.false_eq_true, if_false]
      rfl

theorem Carries.holds (h : Carries levels body s) : HoldsText levels "sql" body s :=
  ⟨_, h.value, rfl⟩

/-- A request that carries a script is answered with its schema, or refused if the script
declares no table. -/
theorem reply_scriptRequest (carries : Carries levels body s) {service : Service}
    (fits : exceeds service.settings.bodyLimit (some body.length) = false)
    (post : Vision.Call → Vision.Reply) :
    ∃ response,
      (service.handle (.reading levels post) (scriptRequest body)).reply = .ok response ∧
      ((Schema.read s).schema.isEmpty = true ∧ response.status = 400 ∨
        (Schema.read s).schema.isEmpty = false ∧ response.status = 200 ∧
          ∃ l : Json.Layout, l.Readable ∧ response.body =
            (Json.object [("schema", (Schema.read s).schema.toJson)]).sorted.text l ++ ['\n']) := by
  have delivered : (scriptRequest body).Delivered .parse :=
    Request.delivered_posted (by decide) body
  have given : (scriptRequest body).given = body := Request.given_posted .parse body
  have holds : HoldsText levels "sql" (scriptRequest body).given s := given.symm ▸ carries.holds
  have verdict := verdict_parse delivered (exceeds_posted fits .parse) carries.whole holds post
  rw [delivered.reply, verdict]
  rcases scriptVerdict_cases s with ⟨empty, r, refused, status⟩ | ⟨found, document⟩
  · rw [refused]
    exact ⟨_, rfl, .inl ⟨empty, status⟩⟩
  · rw [document]
    refine ⟨_, rfl, .inr ⟨found, rfl,
      if service.settings.debug then .indented else .compact, ?_, ?_⟩⟩
    · split
      · exact Json.Layout.indented_readable
      · exact Json.Layout.compact_readable
    · rw [delivered.body_toRequest]
      rfl

end Service

end SchemaChart
