import SchemaChart.Proofs.LineEnds
import SchemaChart.Proofs.MachineOutput
import SchemaChart.Proofs.MemberOrder
import SchemaChart.Proofs.SchemaDocuments
import SchemaChart.Proofs.ScriptRequests

/-!
# The command and the service agree

`interfaces_agree`: the command with a script on standard input and the service with the
same script in a request come to the same, and where they find tables they give the same
schema as data. Only line ends may keep them apart: the command has them unified first, so
a line comment of it ends at a carriage return that the service takes for a part of the
comment (`interfaces_differ_at_return`).
-/

namespace SchemaChart

open Json (Plain)

-- ---------------------------------------------------------------------------
-- The command
-- ---------------------------------------------------------------------------

namespace Command

/-- The arguments that have a script on standard input printed as JSON. -/
def jsonArguments : List Text := ["-", "--json"]

def jsonOptions : Options := ⟨"-", some "er_diagram", some "output", true, false, true, false⟩

/-- The command prints the schema of what is on standard input, or fails if there is no
table. -/
theorem run_jsonArguments {host : Host} {s : Text} (input : host.input = s.encode) :
    ∃ outcome, run host jsonArguments = .ok outcome ∧
      ((Schema.read (s.unifyLines false)).schema.isEmpty = true ∧ outcome.status = 1 ∨
        (Schema.read (s.unifyLines false)).schema.isEmpty = false ∧ outcome.status = 0 ∧
          outcome.output =
            (Schema.read (s.unifyLines false)).schema.toJson.text .indented ++ ['\n']) := by
  have options : Options.read jsonArguments = .ok jsonOptions := ok_of_toOption (by decide +kernel)
  have supplied : host.Supplies jsonOptions.input (s.unifyLines false) := .input input
  obtain ⟨outcome, ran, output, status, ended⟩ := run_of_supplies supplied
  refine ⟨outcome, by rw [run_of_read host options, ran], ?_⟩
  cases empty : (Schema.read (s.unifyLines false)).schema.isEmpty with
  | true =>
    have none := SchemaReading.convert_of_isEmpty host.draw jsonOptions.request empty
    exact .inl ⟨rfl, ended.resolve_left (by rw [status, none.2]; simp)⟩
  | false =>
    have done := SchemaReading.convert_of_found host.draw jsonOptions.request empty rfl
    exact .inr ⟨rfl, status.mpr (done.2.mpr (.inl rfl)), output.trans done.1⟩

end Command

-- ---------------------------------------------------------------------------
-- Both
-- ---------------------------------------------------------------------------

theorem Schema.plain_answer (s : Schema) :
    Plain (depth + 1) (.object [("schema", s.toJson)]) :=
  .object (by simp) (by simp [s.plain_toJson])

/-- A schema is read from an answer, with its members in the order of their names. -/
theorem Schema.readFrom_answered (s : Schema) {l : Json.Layout} (readable : l.Readable) :
    Json.ReadFrom (depth + 1) ((Json.object [("schema", s.toJson)]).sorted.text l ++ ['\n'])
      (.object [("schema", s.toJson.sorted)]) :=
  Json.readFrom_text_append readable s.plain_answer.sorted (by simp [Json.isGap])

open Service (Carries scriptRequest scriptBody carries_scriptBody exceeds)

/-- The command succeeds on a script exactly if the service answers it with a schema, and
then both give the same document, provided that no line comment overruns a carriage
return. -/
theorem interfaces_agree (service : Service) (post : Vision.Call → Vision.Reply)
    {host : Command.Host} {s : Text} (input : host.input = s.encode)
    (carries : Carries levels body s)
    (fits : exceeds service.settings.bodyLimit (some body.length) = false)
    (ends : s.overrunsReturn false = false) :
    ∃ outcome response, Command.run host Command.jsonArguments = .ok outcome ∧
      (service.handle (.reading levels post) (scriptRequest body)).reply = .ok response ∧
      (outcome.status = 0 ↔ response.status = 200) ∧
      (outcome.status = 0 → ∃ answered,
        Json.ReadFrom Schema.depth outcome.output (Schema.read s).schema.toJson ∧
        Json.ReadFrom (Schema.depth + 1) response.body (.object [("schema", answered)]) ∧
        (Schema.read s).schema.toJson.agrees answered = true) := by
  obtain ⟨outcome, run, printed⟩ := Command.run_jsonArguments input
  obtain ⟨response, reply, answered⟩ := Service.reply_scriptRequest carries fits post
  rw [Schema.read_unifyLines ends] at printed
  refine ⟨outcome, response, run, reply, ?_⟩
  rcases printed with ⟨empty, failed⟩ | ⟨found, done, output⟩
  · rcases answered with ⟨-, refused⟩ | ⟨found, -⟩
    · simp [failed, refused]
    · simp [empty] at found
  · rcases answered with ⟨empty, -⟩ | ⟨-, accepted, l, readable, document⟩
    · simp [empty] at found
    · refine ⟨by simp [done, accepted], fun _ =>
        ⟨(Schema.read s).schema.toJson.sorted, ?_, ?_, ?_⟩⟩
      · exact output ▸ Schema.readFrom_printed _
      · exact document ▸ Schema.readFrom_answered _ readable
      · exact (Schema.read s).schema.plain_toJson.agrees_sorted

-- ---------------------------------------------------------------------------
-- Two scripts
-- ---------------------------------------------------------------------------

/-- A service under test, which takes bodies of up to sixteen megabytes. -/
def sampleService : Service :=
  ⟨⟨"secret", false, true, some 16777216, "localhost", 5001, "INFO", .usual [] []⟩, 0⟩

/-- How deep JSON is read in the samples. -/
def sampleLevels : Nat := 980

def samplePost (_ : Vision.Call) : Vision.Reply := .unreachable "no service"

def sampleHost (s : Text) : Command.Host := ⟨s.encode, fun _ => .ok none, fun _ => .ok ()⟩

def returnsScript : Text :=
  "-- one table\r\nCREATE TABLE été (\r\n  𝑎 INT, -- key\r  \r\n  b TEXT)\r"

/-- Carriage returns before line feeds, and alone where no comment runs on behind them. -/
theorem interfaces_agree_returns : returnsScript.overrunsReturn false = false ∧
    ∃ outcome response,
      Command.run (sampleHost returnsScript) Command.jsonArguments = .ok outcome ∧
      (sampleService.handle (.reading sampleLevels samplePost)
        (scriptRequest (scriptBody returnsScript))).reply = .ok response ∧
      outcome.status = 0 ∧ response.status = 200 ∧
      ∃ answered,
        Json.ReadFrom Schema.depth outcome.output (Schema.read returnsScript).schema.toJson ∧
        Json.ReadFrom (Schema.depth + 1) response.body (.object [("schema", answered)]) ∧
        (Schema.read returnsScript).schema.toJson.agrees answered = true := by
  have ends : returnsScript.overrunsReturn false = false := by decide +kernel
  obtain ⟨outcome, response, run, reply, same, documents⟩ :=
    interfaces_agree sampleService samplePost
      (rfl : (sampleHost returnsScript).input = returnsScript.encode)
      (carries_scriptBody (by decide : 1 ≤ sampleLevels) returnsScript) (by decide +kernel) ends
  have done : outcome.status = 0 := by
    have closed : ((Command.run (sampleHost returnsScript) Command.jsonArguments).toOption.map
        Command.Outcome.status) = some 0 := by decide +kernel
    rw [run] at closed
    exact Option.some.inj closed
  exact ⟨ends, outcome, response, run, reply, done, same.mp done, documents done⟩

def overrunScript : Text := "--\rCREATE TABLE t (a INT)"

/-- A statement behind a carriage return in a line comment: the command finds it and the
service does not. -/
theorem interfaces_differ_at_return :
    Carries sampleLevels (scriptBody overrunScript) overrunScript ∧
      exceeds sampleService.settings.bodyLimit (some (scriptBody overrunScript).length) = false ∧
      ((Command.run (sampleHost overrunScript) Command.jsonArguments).toOption.map
        Command.Outcome.status) = some 0 ∧
      ((sampleService.handle (.reading sampleLevels samplePost)
        (scriptRequest (scriptBody overrunScript))).reply.toOption.map
        Service.Response.status) = some 400 :=
  ⟨carries_scriptBody (by decide) overrunScript, by decide +kernel⟩

end SchemaChart
