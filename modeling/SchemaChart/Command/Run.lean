import SchemaChart.Command.Conversion
import SchemaChart.Command.Folder
import SchemaChart.Command.Options

/-!
# Running the command

A run is a function of the arguments and of what the command finds around it: standard
input, files, and a drawing program. It ends with status 0 if a schema was printed and
drawn as asked, with 2 if the arguments were wrong, and with 1 otherwise. A path that
is too long to be looked up puts an end to it at once.
-/

namespace SchemaChart.Command

/-- The surroundings of a run. Paths are looked up in the form of `normalPath`. -/
structure Host where
  input : Bytes
  lookUp : Text → Except PathTooLong (Option PathEntry)
  draw : Drawing → Except Text Unit

structure Outcome where
  status : Nat
  output : Text
  errors : Text
  drawings : List Drawing
  deriving DecidableEq, Repr

/-- Why a run failed after its arguments had been accepted. -/
inductive Failure
  | isDirectory (path : Text)
  | notText (fault : Utf8Fault)
  | notDrawn (fault : DrawingFault)
  deriving DecidableEq, Repr

def Failure.message : Failure → Text
  | .isDirectory path => "[Errno 21] Is a directory: " ++ path.cited
  | .notText fault => fault.message
  | .notDrawn fault => fault.message

def Failure.report (f : Failure) : Text := "\n❌ Error: " ++ f.message ++ "\n"

/-- The script that the input names, if there is one. Standard input is taken as strict UTF-8
with universal newlines, as files are, whatever the surroundings set for it. -/
def Host.script? (h : Host) (input : Text) :
    Except PathTooLong (Option (Except Failure Text)) :=
  let decode (bytes : Bytes) : Except Failure Text := bytes.readText.mapError .notText
  if input = "-" then .ok (some (decode h.input))
  else (h.lookUp (normalPath input)).map fun entry => entry.map fun
    | .file content => decode content
    | .directory => .error (.isDirectory (normalPath input))

/-- The least rank of the records that are shown. -/
def Options.threshold (o : Options) : Nat :=
  if o.verbose then Level.debug.rank else Level.warning.rank

def Options.request (o : Options) : ConversionRequest :=
  ⟨o.output, o.directory, o.render, o.view, o.json⟩

def Options.run (h : Host) (o : Options) : Except PathTooLong Outcome :=
  (h.script? o.input).map fun
    | none => ⟨1, [], "❌ Error: File not found: " ++ o.input ++ "\n", []⟩
    | some (.error failure) => ⟨1, [], failure.report, []⟩
    | some (.ok script) =>
      let c := (Schema.read script).convert h.draw o.request
      let errors := c.remarks.flatMap (Remark.text o.threshold)
      match c.result with
      | .converted _ => ⟨0, c.output, errors, c.drawings⟩
      | .noTables => ⟨1, c.output, errors, c.drawings⟩
      | .notDrawn fault => ⟨1, c.output, errors ++ (Failure.notDrawn fault).report, c.drawings⟩

def run (h : Host) (arguments : List Text) : Except PathTooLong Outcome :=
  match Options.read arguments with
  | .error .help => .ok ⟨0, help, [], []⟩
  | .error (.usage e) => .ok ⟨2, [], usage ++ "ddl-to-er: error: " ++ e.message ++ "\n", []⟩
  | .ok o => o.run h

end SchemaChart.Command
