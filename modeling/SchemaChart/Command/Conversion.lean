import SchemaChart.Diagram.Chart
import SchemaChart.Json.Writing
import SchemaChart.Schema.Document
import SchemaChart.Schema.Summary

/-!
# Converting a script

A conversion prints a schema, as JSON or as a summary, and may have its diagram drawn.
What it says about its work is kept apart from what it prints: the place of the
picture is a remark when JSON is printed, so that nothing else stands in the output.
Drawing is up to the caller, who may refuse with a text. The names that a drawing needs
may be missing, and this shows only when a drawing is asked for.
-/

namespace SchemaChart

structure ConversionRequest where
  name : Option Text
  directory : Option Text
  render : Bool
  view : Bool
  json : Bool
  deriving DecidableEq, Repr

inductive Remark
  | record (r : Record)
  | message (s : Text)
  deriving DecidableEq, Repr

inductive DrawingFault
  | noDirectory
  | noName
  | refused (reason : Text)
  deriving DecidableEq, Repr

def DrawingFault.message : DrawingFault → Text
  | .noDirectory => "expected str, bytes or os.PathLike object, not list"
  | .noName => "join() argument must be str, bytes, or os.PathLike object, not 'list'"
  | .refused reason => reason

inductive ConversionResult
  | converted (s : Schema)
  | noTables
  | notDrawn (fault : DrawingFault)
  deriving DecidableEq, Repr

structure Conversion where
  output : Text
  remarks : List Remark
  drawings : List Drawing
  result : ConversionResult

def Schema.print (s : Schema) (json : Bool) : Text :=
  if json then s.toJson.text .indented ++ "\n" else s.summary

def Schema.draw (draw : Drawing → Except Text Unit) (s : Schema) (name directory : Text)
    (view : Bool) : List Record × Drawing × Except Text Text :=
  let (chart, notices) := Chart.ofSchema name s
  let drawing := chart.drawing name directory view
  (notices.map PlaceholderNotice.record, drawing, (draw drawing).map fun _ => drawing.picture)

/-- Where a drawing is to go, if the names that this takes are there. -/
def ConversionRequest.place (request : ConversionRequest) : Except DrawingFault (Text × Text) :=
  match request.directory, request.name with
  | none, _ => .error .noDirectory
  | some _, none => .error .noName
  | some directory, some name => .ok (directory, name)

def savedMessage (picture : Text) : Text := "\n✅ ER diagram saved to: " ++ picture ++ "\n"

def noTablesMessage : Text := "❌ " ++ NoTables.message ⟨⟩ ++ "\n"

def SchemaReading.convert (draw : Drawing → Except Text Unit) (r : SchemaReading)
    (request : ConversionRequest) : Conversion :=
  let records := r.records.map Remark.record
  match r.nonempty with
  | .error _ => ⟨[], records ++ [.message noTablesMessage], [], .noTables⟩
  | .ok s =>
    let printed := s.print request.json
    if request.render then
      match request.place with
      | .error fault =>
        let notices := (Chart.ofSchema [] s).2.map PlaceholderNotice.record
        ⟨printed, records ++ notices.map Remark.record, [], .notDrawn fault⟩
      | .ok (directory, name) =>
        let (notices, drawing, drawn) := s.draw draw name directory request.view
        let records := records ++ notices.map Remark.record
        match drawn with
        | .error reason => ⟨printed, records, [drawing], .notDrawn (.refused reason)⟩
        | .ok picture =>
          if request.json then
            ⟨printed, records ++ [.message (savedMessage picture)], [drawing], .converted s⟩
          else ⟨printed ++ savedMessage picture, records, [drawing], .converted s⟩
    else ⟨printed, records, [], .converted s⟩

/-- The remarks of a conversion as text; records are lines of their own, and those
below the threshold are left out. -/
def Remark.text (threshold : Nat) : Remark → Text
  | .record r => if threshold ≤ r.level.rank then r.line ++ "\n" else []
  | .message s => s

def Remark.messageText : Remark → Text
  | .record _ => []
  | .message s => s

end SchemaChart
