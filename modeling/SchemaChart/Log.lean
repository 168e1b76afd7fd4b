import SchemaChart.Text.Basic

/-!
# Log records

Everything the library wants to report is returned as a list of records. A reader
sets a threshold, a number on the scale of the levels, and sees the records at or
above it; at the threshold zero it sees all.
-/

namespace SchemaChart

inductive Level
  | debug
  | info
  | warning
  | error
  deriving DecidableEq, Repr

inductive Channel
  | script
  | diagram
  | vision
  | service
  deriving DecidableEq, Repr

structure Record where
  level : Level
  channel : Channel
  message : Text
  deriving DecidableEq, Repr

namespace Level

def label : Level → Text
  | .debug => "DEBUG"
  | .info => "INFO"
  | .warning => "WARNING"
  | .error => "ERROR"

def rank : Level → Nat
  | .debug => 10
  | .info => 20
  | .warning => 30
  | .error => 40

end Level

def Channel.label : Channel → Text
  | .script => "ddl_to_er.src.sql_parser"
  | .diagram => "ddl_to_er.src.visualization"
  | .vision => "ddl_to_er.web_app.vision_client"
  | .service => "ddl_to_er.web_app.app"

namespace Record

def line (r : Record) : Text := r.level.label ++ " " ++ r.channel.label ++ ": " ++ r.message

/-- The records that a reader with the given threshold sees. -/
def shown (threshold : Nat) (records : List Record) : List Record :=
  records.filter fun r => threshold ≤ r.level.rank

end Record

end SchemaChart
