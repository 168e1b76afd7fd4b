import SchemaChart.Text.Basic

/-!
# Identifiers of the DOT language

An identifier stands for itself if it is an ASCII word that does not start with a
digit, or a numeral, unless it is a keyword in any case; anything else is put between
double quotes. Inside them only a quote is escaped, so a backslash that is not part
of such an escape keeps its meaning for the drawing program. A text in angle brackets
is markup and stays as it is. Words, numerals and markup may have a line feed at their
end, but a keyword with one is none. The end of an edge may name an anchor of its node
after a colon.
-/

namespace SchemaChart.Dot

def isWordStart (c : Char) : Bool := c.isAlpha || c = '_'

def isBareWord : Text → Bool
  | [] => false
  | c :: rest => isWordStart c && rest.all fun c => c.isAlphanum || c = '_'

/-- Digits with an optional point; at least one digit. -/
def isUnsigned (s : Text) : Bool :=
  let whole := s.takeWhile Char.isDigit
  match s.dropWhile Char.isDigit with
  | [] => !whole.isEmpty
  | c :: places => c = '.' && places.all Char.isDigit && !(whole.isEmpty && places.isEmpty)

def isNumeral : Text → Bool
  | '-' :: rest => isUnsigned rest
  | s => isUnsigned s

def keywords : List Text := ["node", "edge", "graph", "digraph", "subgraph", "strict"]

def isKeyword (s : Text) : Bool := keywords.contains (s.map Char.toLower)

def isMarkup (s : Text) : Bool :=
  s.length ≥ 2 && s.head? = some '<' && s.getLast? = some '>'

/-- Escapes quotes; `escaped` tells whether an odd number of backslashes stands
before, which escapes the next quote already. -/
def escapeQuotes (escaped : Bool) : Text → Text
  | [] => []
  | c :: rest =>
    if c = '\\' then c :: escapeQuotes (!escaped) rest
    else if c = '\x22' && !escaped then '\\' :: c :: escapeQuotes false rest
    else c :: escapeQuotes false rest

def isBare (s : Text) : Bool :=
  (isBareWord s.dropLineFeed || isNumeral s.dropLineFeed) && !isKeyword s

def identifier (s : Text) : Text :=
  if isMarkup s.dropLineFeed || isBare s then s else '\x22' :: escapeQuotes false s ++ ['\x22']

/-- The text before the first colon and, if there is one, the text after it. -/
def splitColon : Text → Text × Text
  | [] => ([], [])
  | c :: rest =>
    if c = ':' then ([], rest)
    else let (before, after) := splitColon rest; (c :: before, after)

/-- An end of an edge: a node, perhaps an anchor, perhaps what follows the anchor as
it stands. -/
def edgeEnd (s : Text) : Text :=
  let (node, rest) := splitColon s
  let (anchor, side) := splitColon rest
  identifier node ++ (if rest.isEmpty then [] else ':' :: identifier anchor) ++
    (if side.isEmpty then [] else ':' :: side)

end SchemaChart.Dot
