/-!
# Texts

A text is a list of characters, so every reader and writer of the library is a
recursion on its text. String literals stand for the text they spell. This
module holds the cuts and searches that do not depend on a class of characters.
-/

namespace SchemaChart

abbrev Text := List Char

instance : Coe String Text := ⟨String.toList⟩

namespace Text

/-- Drops the longest run at the end whose characters all satisfy `p`. -/
def trimEnd (p : Char → Bool) (s : Text) : Text := (s.reverse.dropWhile p).reverse

def trim (p : Char → Bool) (s : Text) : Text := trimEnd p (s.dropWhile p)

/-- The text without a line feed at its end; only one is left out. -/
def dropLineFeed (s : Text) : Text := if s.getLast? = some '\n' then s.dropLast else s

/-- The text before the first separator; all of it if there is none. -/
def before (sep : Char) (s : Text) : Text := s.takeWhile (· ≠ sep)

/-- The text behind the first separator; nothing if there is none. -/
def behind (sep : Char) (s : Text) : Text := (s.dropWhile (· ≠ sep)).drop 1

/-- The pieces between the separators: one more than there are separators. -/
def pieces (sep : Char) : Text → List Text
  | [] => [[]]
  | c :: rest =>
    if c = sep then [] :: pieces sep rest
    else match pieces sep rest with
      | [] => [[c]]
      | piece :: more => (c :: piece) :: more

def mentions (needle : Text) : Text → Bool
  | [] => needle.isEmpty
  | c :: rest => needle.isPrefixOf (c :: rest) || mentions needle rest

/-- What follows `start`, if the text begins with it. -/
def after? (start : Text) (s : Text) : Option Text :=
  match start, s with
  | [], s => some s
  | _ :: _, [] => none
  | a :: start, c :: s => if a = c then after? start s else none

def joinWith (gap : Text) : List Text → Text
  | [] => []
  | [s] => s
  | s :: more => s ++ gap ++ joinWith gap more

def ofNat (n : Nat) : Text := Nat.toDigits 10 n

def ofInt (n : Int) : Text := if n < 0 then '-' :: ofNat n.natAbs else ofNat n.natAbs

theorem pieces_ne_nil (sep : Char) (s : Text) : pieces sep s ≠ [] := by
  cases s with
  | nil => simp [pieces]
  | cons c rest =>
    simp only [pieces]
    split
    · simp
    · split <;> simp

theorem after?_append (start s : Text) : after? start (start ++ s) = some s := by
  induction start with
  | nil => rfl
  | cons a start ih => simp [after?, ih]

theorem eq_append_of_after? {start s rest : Text} (h : after? start s = some rest) :
    s = start ++ rest := by
  induction start generalizing s with
  | nil => simpa [after?] using h
  | cons a start ih =>
    cases s with
    | nil => simp [after?] at h
    | cons c s =>
      simp only [after?] at h
      split at h
      · next same => rw [same, ih h]; rfl
      · simp at h

end Text

end SchemaChart
