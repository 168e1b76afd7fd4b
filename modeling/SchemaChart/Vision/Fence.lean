import SchemaChart.Json.Basic
import SchemaChart.Script.Phrase

/-!
# Fences around an answer

A model may wrap its script in code fences. A fence is three back quotes with an
optional language name after them, blanks or tabs, and a line feed; all fences are
taken out, each where the one before it ended, and what is left is stripped.
-/

namespace SchemaChart

namespace Text

def skipLineFeed : Text → Text
  | [] => []
  | c :: rest => if c = '\n' then rest else c :: rest

/-- What follows a fence that the text begins with. -/
def afterFence? (s : Text) : Option Text :=
  (after? ['\x60', '\x60', '\x60'] s).map fun rest =>
    skipLineFeed ((((keyword? "sql" rest).getD rest)).dropWhile fun c => c = ' ' || c = '\t')

theorem length_skipLineFeed_le (s : Text) : (skipLineFeed s).length ≤ s.length := by
  cases s with
  | nil => simp [skipLineFeed]
  | cons c rest => simp only [skipLineFeed]; split <;> simp

theorem length_lt_of_afterFence? {s rest : Text} (h : afterFence? s = some rest) :
    rest.length < s.length := by
  obtain ⟨opened, read, same⟩ := Option.map_eq_some_iff.1 h
  have cut : s.length = 3 + opened.length := by
    rw [eq_append_of_after? read]; simp; omega
  have named : ((keyword? "sql" opened).getD opened).length ≤ opened.length := by
    cases k : keyword? "sql" opened with
    | none => exact Nat.le_refl _
    | some after =>
      have := length_of_keyword? k
      simp only [Option.getD_some]
      omega
  have trimmed := (List.dropWhile_sublist (fun c => c = ' ' || c = '\t')
    (l := (keyword? "sql" opened).getD opened)).length_le
  have := length_skipLineFeed_le
    (((keyword? "sql" opened).getD opened).dropWhile fun c => c = ' ' || c = '\t')
  rw [← same]
  omega

def dropFences (s : Text) : Text :=
  match s with
  | [] => []
  | c :: rest =>
    match _h : afterFence? (c :: rest) with
    | some after => dropFences after
    | none => c :: dropFences rest
termination_by s.length
decreasing_by
  · exact length_lt_of_afterFence? _h
  · simp

end Text

/-- A value was given where a text was needed; `kind` names what it was. -/
structure NotText where
  kind : Text
  deriving DecidableEq, Repr

def NotText.message (e : NotText) : Text :=
  "expected string or bytes-like object, got '" ++ e.kind ++ "'"

def Json.kindName : Json → Text
  | .null => "NoneType"
  | .bool _ => "bool"
  | .number (.integer _) => "int"
  | .number (.real _) => "float"
  | .string _ => "str"
  | .array _ => "list"
  | .object _ => "dict"

/-- The script in an answer. An answer that counts as absent is the empty script. -/
def cleanAnswer (content : Json) : Except NotText Text :=
  if !content.isPresent then .ok []
  else match content with
    | .string s => .ok (Text.strip (Text.dropFences s))
    | other => .error ⟨other.kindName⟩

end SchemaChart
