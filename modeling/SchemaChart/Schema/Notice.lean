import SchemaChart.Log
import SchemaChart.Script.Clause

/-!
# Notices of reading

What a reader of scripts passes over, and why. None of it is an error: the reading
goes on without the part in question.
-/

namespace SchemaChart

inductive Notice
  | unclosedStatement (table : Text)
  | repeatedTable (table : Text)
  | unreadableClause (table clause : Text)
  | repeatedColumn (table column : Text)
  | ignoredConstraint (kind : ClauseKind) (table : Text)
  | unknownColumn (table column : Text)
  | totals (tables relations : Nat)
  deriving DecidableEq, Repr

namespace Notice

def level : Notice → Level
  | .unclosedStatement _ | .repeatedTable _ | .repeatedColumn _ _ => .warning
  | .unreadableClause _ _ | .ignoredConstraint _ _ | .unknownColumn _ _ | .totals _ _ => .debug

def message : Notice → Text
  | .unclosedStatement table =>
    "Unbalanced parentheses in CREATE TABLE " ++ table ++ ", statement skipped"
  | .repeatedTable table => "Duplicate CREATE TABLE " ++ table ++ " ignored"
  | .unreadableClause table clause =>
    "Unrecognized clause in table " ++ table ++ " dropped: " ++ clause
  | .repeatedColumn table column => "Duplicate column " ++ table ++ "." ++ column ++ " ignored"
  | .ignoredConstraint kind table =>
    "Ignoring " ++ kind.label ++ " constraint in table " ++ table
  | .unknownColumn table column =>
    "FOREIGN KEY on unknown column " ++ table ++ "." ++ column ++ " left unresolved"
  | .totals tables relations =>
    "Parsed " ++ Text.ofNat tables ++ " table(s) and " ++ Text.ofNat relations ++ " relation(s)"

def record (n : Notice) : Record := ⟨n.level, .script, n.message⟩

end Notice

end SchemaChart
