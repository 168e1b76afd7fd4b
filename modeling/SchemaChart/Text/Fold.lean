import SchemaChart.Text.Composition
import SchemaChart.Text.Lower
import SchemaChart.Text.PlainForm
import SchemaChart.Text.Range

/-!
# Folded texts

Texts that are meant to be the same are folded to one text: in small letters and plain
forms, without what is not seen, with the marks in their order and joined to their
letters.
-/

namespace SchemaChart

/-- Characters that are not seen and are left out. -/
def unseenRanges : List (Nat × Nat) :=
  [(0xAD, 0xAD), (0x34F, 0x34F), (0x1806, 0x1806), (0x180B, 0x180D), (0x200B, 0x200D),
    (0x2060, 0x2060), (0xFE00, 0xFE0F), (0xFEFF, 0xFEFF)]

/-- What a character is folded to, with letters and marks taken apart. -/
def foldChar (c : Char) : Text :=
  if inRanges unseenRanges c then []
  else (plainForm? c).getD ((Text.lower [c]).flatMap (takeApart mostMarks))

def Text.folded (s : Text) : Text := compose (orderMarks (s.flatMap foldChar))

end SchemaChart
