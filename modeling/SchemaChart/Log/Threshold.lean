import SchemaChart.Log
import SchemaChart.Text.Quoted
import SchemaChart.Text.Upper

/-!
# Thresholds by name

A threshold is named in any case. A name that is not known stands for the threshold
of ordinary information, so a misspelt name never hides a warning. Two names are
refused, since they are known but stand for no threshold: that of the line pattern and
that of the styles in which a line pattern can be written.
-/

namespace SchemaChart.Record

def namedThresholds : List (Text × Nat) :=
  [("CRITICAL", 50), ("FATAL", 50), ("ERROR", Level.error.rank),
    ("WARNING", Level.warning.rank), ("WARN", Level.warning.rank), ("INFO", Level.info.rank),
    ("DEBUG", Level.debug.rank), ("NOTSET", 0)]

/-- What lines are made of when nothing else is asked for. -/
def linePattern : Text := "%(levelname)s:%(name)s:%(message)s"

/-- The styles of a line pattern: the mark of a style, its class, and the line pattern
written in it. -/
def lineStyles : List (Text × Text × Text) :=
  [("%", "logging.PercentStyle", linePattern),
    ("\x7b", "logging.StrFormatStyle", "\x7blevelname\x7d:\x7bname\x7d:\x7bmessage\x7d"),
    ("$", "logging.StringTemplateStyle", "$\x7blevelname\x7d:$\x7bname\x7d:$\x7bmessage\x7d")]

def styleText (style : Text × Text × Text) : Text :=
  style.1.cited ++ ": (<class " ++ style.2.1.cited ++ ">, " ++ style.2.2.cited ++ ")"

/-- Something else was named where a threshold was needed. -/
inductive NotThreshold
  | pattern
  | styles
  deriving DecidableEq, Repr

def NotThreshold.message : NotThreshold → Text
  | .pattern => "Unknown level: " ++ linePattern.cited
  | .styles =>
    "Level not an integer or a valid string: \x7b" ++
      Text.joinWith ", " (lineStyles.map styleText) ++ "\x7d"

def thresholdNamed (name : Text) : Except NotThreshold Nat :=
  let name := name.upper
  if name = "BASIC_FORMAT" then .error .pattern
  else if name = "_STYLES" then .error .styles
  else .ok ((namedThresholds.lookup name).getD Level.info.rank)

end SchemaChart.Record
