import SchemaChart.Command.Run

/-!
# The command line

Looks around for what a run needs and prints what the run comes to. Only the input
that the arguments name is read. No drawing program is started from here, so a
diagram that is asked for is not drawn.
-/

namespace SchemaChart.Command

def entryAt (path : Text) : IO (Except PathTooLong (Option PathEntry)) := do
  try
    return .ok (some (.file (← IO.FS.readBinFile (String.ofList path)).toList))
  catch
    | .inappropriateType _ 21 _ => return .ok (some .directory)
    | .invalidArgument _ 36 _ => return .error ⟨path⟩
    | _ => return .ok none

def Host.around (input : Text) : IO Host := do
  let draw := fun _ => .error "no drawing program is available".toList
  if input = "-" then
    return ⟨(← (← IO.getStdin).readBinToEnd).toList, fun _ => .ok none, draw⟩
  else
    let entry ← entryAt (normalPath input)
    return ⟨[], fun _ => entry, draw⟩

/-- The input that the arguments name; wrong arguments name none. -/
def inputOf (arguments : List Text) : Text :=
  match Options.read arguments with
  | .ok o => o.input
  | .error _ => []

end SchemaChart.Command

def main (arguments : List String) : IO UInt32 := do
  let arguments := arguments.map String.toList
  let host ← SchemaChart.Command.Host.around (SchemaChart.Command.inputOf arguments)
  match SchemaChart.Command.run host arguments with
  | .error fault =>
    IO.eprintln (String.ofList fault.message)
    return 1
  | .ok outcome =>
    IO.print (String.ofList outcome.output)
    IO.eprint (String.ofList outcome.errors)
    return outcome.status.toUInt32
