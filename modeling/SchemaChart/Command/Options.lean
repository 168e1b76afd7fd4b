import SchemaChart.Text.Digit
import SchemaChart.Text.Quoted

/-!
# Options of the command

Arguments are sorted first and taken in order afterwards. A long option may be cut
short as long as one option fits, and its value may follow an equals sign. Short
options may be written together, also behind an equals sign; the rest of the group is
the value of the first one that takes a value. Nothing of a group counts if a part of
it is wrong. After two hyphens no argument is an option. One argument names the input;
further ones, and options that do not exist, are left over.

Two hyphens may also stand where an option has its value in its own argument. Then the
option is set, but to nothing.
-/

namespace SchemaChart.Command

inductive Flag
  | help
  | output
  | directory
  | json
  | render
  | noView
  | verbose
  deriving DecidableEq, Repr

namespace Flag

/-- All spellings, in the order in which an ambiguity lists them. -/
def spellings : List (Text × Flag) :=
  [("-h", help), ("--help", help), ("-o", output), ("--output", output), ("-d", directory),
    ("--output-dir", directory), ("--json", json), ("--render", render), ("--no-view", noView),
    ("-v", verbose), ("--verbose", verbose)]

def ofSpelling? (s : Text) : Option Flag := spellings.lookup s

def takesValue : Flag → Bool
  | output | directory => true
  | _ => false

def label (f : Flag) : Text :=
  Text.joinWith "/" ((spellings.filter (·.2 = f)).map (·.1))

end Flag

inductive UsageError
  | missingInput
  | leftOver (arguments : List Text)
  | missingValue (flag : Flag)
  | unexpectedValue (flag : Flag) (value : Text)
  | ambiguous (argument : Text) (candidates : List Text)
  deriving DecidableEq, Repr

def UsageError.message : UsageError → Text
  | .missingInput => "the following arguments are required: input"
  | .leftOver arguments => "unrecognized arguments: " ++ Text.joinWith " " arguments
  | .missingValue flag => "argument " ++ flag.label ++ ": expected one argument"
  | .unexpectedValue flag value =>
    "argument " ++ flag.label ++ ": ignored explicit argument " ++ value.cited
  | .ambiguous argument candidates =>
    "ambiguous option: " ++ argument ++ " could match " ++ Text.joinWith ", " candidates

/-- An argument by its form. -/
inductive Token
  | value (s : Text)
  | separator
  | long (flag : Flag) (value : Option Text)
  /-- A short option and what follows it in the same argument: behind its letter, or
  behind an equals sign. -/
  | short (flag : Flag) (tail : Option Text)
  | unknown (s : Text)
  deriving DecidableEq, Repr

namespace Token

def splitValue (s : Text) : Text × Option Text :=
  match s.dropWhile (· ≠ '=') with
  | [] => (s, none)
  | _ :: given => (s.takeWhile (· ≠ '='), some given)

def isLongName (s : Text) : Bool := (Text.after? "--" s).isSome

def isDigits (s : Text) : Bool := s.all fun c => (digitValue? c).isSome

/-- Whether what follows a hyphen is a number, with a point or without; a line feed
may stand at the end. -/
def isNumberTail (s : Text) : Bool :=
  let s := s.dropLineFeed
  match s.dropWhile (· ≠ '.') with
  | [] => !s.isEmpty && isDigits s
  | _ :: places => isDigits (s.takeWhile (· ≠ '.')) && !places.isEmpty && isDigits places

/-- The token of an argument that begins with a hyphen and is no exact spelling. -/
def ofUnspelt (s : Text) : Except UsageError Token :=
  if isLongName s then
    let (name, given) := splitValue s
    match Flag.spellings.filter (fun entry => name.isPrefixOf entry.1) with
    | [] => .ok (if s.contains ' ' then .value s else .unknown s)
    | [(_, flag)] => .ok (.long flag given)
    | candidates => .error (.ambiguous s (candidates.map (·.1)))
  else match Flag.ofSpelling? (s.take 2) with
    | some flag => .ok (.short flag (some (s.drop 2)))
    | none => .ok (if isNumberTail (s.drop 1) || s.contains ' ' then .value s else .unknown s)

def ofArgument (s : Text) : Except UsageError Token :=
  if s.head? ≠ some '-' || s = "-" then .ok (.value s)
  else
    let (name, given) := splitValue s
    match Flag.ofSpelling? name with
    | some flag =>
      .ok (if isLongName name then .long flag given else .short flag given)
    | none => ofUnspelt s

/-- The tokens of a command line. -/
def ofArguments : List Text → Except UsageError (List Token)
  | [] => .ok []
  | s :: rest =>
    if s = "--" then .ok (.separator :: rest.map .value)
    else do
      let token ← ofArgument s
      let tokens ← ofArguments rest
      return token :: tokens

end Token

/-- What the arguments come to. The name of the output and its directory are missing if
their options are set to nothing. -/
structure Options where
  input : Text
  output : Option Text
  directory : Option Text
  json : Bool
  render : Bool
  view : Bool
  verbose : Bool
  deriving DecidableEq, Repr

/-- Why no options result: the usage was wrong, or help was asked for. -/
inductive Interrupt
  | usage (error : UsageError)
  | help
  deriving DecidableEq, Repr

/-- What the tokens read so far have settled. -/
structure Progress where
  input : Option Text
  options : Options
  leftOver : List Text

namespace Progress

def start : Progress :=
  ⟨none, ⟨"", some "er_diagram", some "output", false, false, true, false⟩, []⟩

def leave (p : Progress) (s : Text) : Progress := { p with leftOver := p.leftOver ++ [s] }

def set (p : Progress) (flag : Flag) (value : Option Text) : Except Interrupt Progress :=
  match flag with
  | .help => .error .help
  | .output => .ok { p with options := { p.options with output := value } }
  | .directory => .ok { p with options := { p.options with directory := value } }
  | .json => .ok { p with options := { p.options with json := true } }
  | .render => .ok { p with options := { p.options with render := true } }
  | .noView => .ok { p with options := { p.options with view := false } }
  | .verbose => .ok { p with options := { p.options with verbose := true } }

def setAll (p : Progress) (settings : List (Flag × Option Text)) : Except Interrupt Progress :=
  settings.foldlM (fun p setting => p.set setting.1 setting.2) p

def finish (p : Progress) : Except Interrupt Options :=
  match p.input with
  | none => .error (.usage .missingInput)
  | some input =>
    if p.leftOver.isEmpty then .ok { p.options with input := input }
    else .error (.usage (.leftOver p.leftOver))

end Progress

/-- What an option argument sets, and whether it has taken the argument after it as its
value. -/
structure Taken where
  settings : List (Flag × Option Text)
  usesNext : Bool

def takeAlone (flag : Flag) (next : Option Text) : Except UsageError Taken :=
  if flag.takesValue then
    match next with
    | some value => .ok ⟨[(flag, some value)], true⟩
    | none => .error (.missingValue flag)
  else .ok ⟨[(flag, none)], false⟩

/-- A value in the same argument; two hyphens there are no value. -/
def ownValue (value : Text) : Option Text := if value = "--" then none else some value

def takeWithValue (flag : Flag) (value : Text) : Except UsageError Taken :=
  if flag.takesValue then .ok ⟨[(flag, ownValue value)], false⟩
  else .error (.unexpectedValue flag value)

/-- Takes a group of short options: a flag and the text after its letter, which is its
value or begins with the letter of the next flag. -/
def takeGroup (next : Option Text) (flag : Flag) : Text → Except UsageError Taken
  | [] => takeAlone flag next
  | c :: rest =>
    if flag.takesValue then takeWithValue flag (c :: rest)
    else match Flag.ofSpelling? ['-', c] with
      | some other => (takeGroup next other rest).map fun taken =>
        { taken with settings := (flag, none) :: taken.settings }
      | none => .error (.unexpectedValue flag (c :: rest))

def nextValue? : List Token → Option Text
  | .value s :: _ => some s
  | _ => none

/-- Takes a short option with what follows it in the same argument. -/
def takeShort (next : Option Text) (flag : Flag) : Option Text → Except UsageError Taken
  | none => takeAlone flag next
  | some [] => takeWithValue flag []
  | some tail => takeGroup next flag tail

/-- What an argument is taken for when it is not a value. -/
def Token.take (next : Option Text) : Token → Except UsageError Taken
  | .long flag none => takeAlone flag next
  | .long flag (some given) => takeWithValue flag given
  | .short flag tail => takeShort next flag tail
  | .value _ | .separator | .unknown _ => .ok ⟨[], false⟩

/-- Takes the tokens in order. The separator is passed over before the input or right
after it, and is left over elsewhere. -/
def takeAll (p : Progress) (tokens : List Token) : Except Interrupt Progress :=
  match tokens with
  | [] => .ok p
  | .value s :: rest =>
    if p.input.isSome then takeAll (p.leave s) rest
    else
      let rest' := if rest.head? = some .separator then rest.drop 1 else rest
      takeAll { p with input := some s } rest'
  | .separator :: rest => takeAll (if p.input.isSome then p.leave "--" else p) rest
  | .unknown s :: rest => takeAll (p.leave s) rest
  | token :: rest =>
    match token.take (nextValue? rest) with
    | .error e => .error (.usage e)
    | .ok taken =>
      match p.setAll taken.settings with
      | .error stop => .error stop
      | .ok p => takeAll p (if taken.usesNext then rest.drop 1 else rest)
termination_by tokens.length
decreasing_by
  · simp
  · simp only [List.length_cons]
    split
    · rw [List.length_drop]; omega
    · omega
  · simp
  · simp
  · simp only [List.length_cons]
    split
    · rw [List.length_drop]; omega
    · omega

def Options.read (arguments : List Text) : Except Interrupt Options :=
  match Token.ofArguments arguments with
  | .error e => .error (.usage e)
  | .ok tokens =>
    match takeAll .start tokens with
    | .error stop => .error stop
    | .ok p => p.finish

def usage : Text :=
  "usage: ddl-to-er [-h] [-o OUTPUT] [-d OUTPUT_DIR] [--json] [--render]\n" ++
  "                 [--no-view] [-v]\n" ++
  "                 input\n"

def help : Text :=
  usage ++
  "\nConvert SQL CREATE TABLE statements to ER schemas and diagrams\n" ++
  "\npositional arguments:\n" ++
  "  input                 SQL file path or '-' for stdin\n" ++
  "\noptions:\n" ++
  "  -h, --help            show this help message and exit\n" ++
  "  -o OUTPUT, --output OUTPUT\n" ++
  "                        Output filename (without extension)\n" ++
  "  -d OUTPUT_DIR, --output-dir OUTPUT_DIR\n" ++
  "                        Directory for rendered diagrams\n" ++
  "  --json                Print the parsed schema as JSON\n" ++
  "  --render              Render a Graphviz diagram\n" ++
  "  --no-view             Don't open the diagram after rendering\n" ++
  "  -v, --verbose         Log skipped clauses and statements\n"

end SchemaChart.Command
