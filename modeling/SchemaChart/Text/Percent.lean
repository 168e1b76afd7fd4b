import SchemaChart.Text.Hex
import SchemaChart.Text.Utf8

/-!
# Percent escapes

A character that may not stand for itself is written by the bytes of its encoding,
each as a percent sign and two capital hexadecimal digits. Small digits are read as
well.
-/

namespace SchemaChart

def byteEscape (b : UInt8) : Text := '%' :: (hexDigits 2 b.toNat).map Char.toUpper

/-- Characters that are never escaped. -/
def isUnreserved (c : Char) : Bool := c.isAlphanum || c = '_' || c = '.' || c = '-' || c = '~'

namespace Text

/-- Escapes all characters but the unreserved ones and those that are kept. -/
def escape (s kept : Text) : Text :=
  s.flatMap fun c =>
    if isUnreserved c || kept.contains c then [c]
    else (String.utf8EncodeChar c).flatMap byteEscape

/-- Undoes escapes of bytes and encodes all other characters. A percent sign that no
two hexadecimal digits follow stands for itself. -/
def unescape : Text → Bytes
  | [] => []
  | c :: a :: b :: rest =>
    match c == '%', hexValue? a, hexValue? b with
    | true, some high, some low => UInt8.ofNat (high * 16 + low) :: unescape rest
    | _, _, _ => String.utf8EncodeChar c ++ unescape (a :: b :: rest)
  | c :: rest => String.utf8EncodeChar c ++ unescape rest

end Text

end SchemaChart
