import SchemaChart.Text.Hex
import SchemaChart.Text.Printable

/-!
# Texts in messages

A message that cites a text puts it between apostrophes, or between double quotes if
the text has an apostrophe and no double quote. The quote in use, backslashes and
characters that do not print are escaped.
-/

namespace SchemaChart

def citedChar (quote c : Char) : Text :=
  if c = quote || c = '\\' then ['\\', c]
  else if c = '\t' then "\\t"
  else if c = '\n' then "\\n"
  else if c = '\r' then "\\r"
  else if isPrintable c then [c]
  else if c.toNat < 0x100 then "\\x" ++ hexDigits 2 c.toNat
  else if c.toNat < 0x10000 then "\\u" ++ hexDigits 4 c.toNat
  else "\\U" ++ hexDigits 8 c.toNat

def Text.cited (s : Text) : Text :=
  let quote := if s.contains '\x27' && !s.contains '\x22' then '\x22' else '\x27'
  quote :: s.flatMap (citedChar quote) ++ [quote]

end SchemaChart
