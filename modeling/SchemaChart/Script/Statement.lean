import SchemaChart.Script.Name
import SchemaChart.Script.Phrase
import SchemaChart.Script.Scan

/-!
# Table statements

A statement begins with `CREATE TABLE`, perhaps `IF NOT EXISTS`, a name that may be
qualified, and an opening parenthesis; this is its header. Its body runs to the
parenthesis that closes the group. Literals are respected first; when that finds no
end, a stray quote is assumed and quotes are ignored. The search for the next header
goes on after the body, or after the header alone when the group is never closed.
-/

namespace SchemaChart

structure Header where
  name : Text
  /-- What follows the opening parenthesis. -/
  after : Text

def ifNotExists? (s : Text) : Option Text := do
  let s ← Text.phrase? ["if", "not", "exists"] s
  Text.blanks? s

def Header.read? (s : Text) : Option Header := do
  let s ← Text.phrase? ["create", "table"] s
  let s ← Text.blanks? s
  let (name, s) ← Text.qualifiedName? ((ifNotExists? s).getD s)
  let after ← Text.mark? '(' s
  return ⟨name, after⟩

theorem length_le_ifNotExists (s : Text) : ((ifNotExists? s).getD s).length ≤ s.length := by
  cases h : ifNotExists? s with
  | none => exact Nat.le_refl _
  | some rest =>
    simp only [ifNotExists?, bind, Option.bind_eq_some_iff] at h
    obtain ⟨a, readPhrase, readGap⟩ := h
    have := Text.length_le_of_phrase? readPhrase
    have := Text.length_lt_of_blanks? readGap
    simp only [Option.getD_some]
    omega

theorem Header.length_after_lt {s : Text} {header : Header} (h : Header.read? s = some header) :
    header.after.length < s.length := by
  simp only [Header.read?, bind, Option.bind_eq_some_iff, pure, Option.some.injEq] at h
  obtain ⟨a, readStart, b, readGap, ⟨name, c⟩, readName, after, readMark, same⟩ := h
  have := Text.length_le_of_phrase? readStart
  have := Text.length_lt_of_blanks? readGap
  have := length_le_ifNotExists b
  have := Text.length_lt_of_qualifiedName? readName
  have := Text.length_lt_of_mark? readMark
  rw [← same]
  simp only at *
  omega

/-- The length of the body whose text follows an opening parenthesis. -/
def bodyLength? (after : Text) : Option Nat :=
  (closing? true ⟨.outside, 1⟩ after).or (closing? false ⟨.outside, 1⟩ after)

/-- A statement and where its header, its opening and its closing parenthesis stand
in the script. -/
structure Statement where
  name : Text
  body : Text
  start : Nat
  opening : Nat
  closing : Nat
  deriving DecidableEq, Repr

inductive Finding
  | statement (s : Statement)
  | unclosed (name : Text)
  deriving DecidableEq, Repr

/-- Everything found from a place on; `origin` is the number of characters before. -/
def findingsFrom (origin : Nat) (s : Text) : List Finding :=
  match s with
  | [] => []
  | c :: rest =>
    match _h : Header.read? (c :: rest) with
    | none => findingsFrom (origin + 1) rest
    | some header =>
      let opening := origin + (rest.length - header.after.length)
      match bodyLength? header.after with
      | some n =>
        .statement ⟨header.name, header.after.take n, origin, opening, opening + 1 + n⟩ ::
          findingsFrom (opening + n + 2) (header.after.drop (n + 1))
      | none => .unclosed header.name :: findingsFrom (opening + 1) header.after
termination_by s.length
decreasing_by
  · simp
  · have := Header.length_after_lt _h
    simp only [List.length_drop]
    omega
  · exact Header.length_after_lt _h

def findings (script : Text) : List Finding := findingsFrom 0 script

end SchemaChart
