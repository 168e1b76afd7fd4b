import SchemaChart.Text.Mark

/-!
# Letters with marks

A letter and a mark behind it may be one character; so may the letters of a syllable
in Hangul. A text is composed by joining each letter with the marks behind it that no
other mark keeps away from it. Only small letters are among the compositions, and
other scripts that have no case.
-/

namespace SchemaChart

/-- A mark, by its code point, and letters with the character that each is with the mark
behind it. -/
structure MarkRow where
  mark : Nat
  letters : Text

def markRows : List MarkRow := [
  ⟨0x300, "aàeèiìnǹoòuùwẁyỳâầêềôồüǜăằēḕōṑơờưừαὰεὲηὴιὶοὸυὺωὼϊῒϋῢеѐиѝἀἂἁἃἐἒἑἓἠἢἡἣἰἲἱἳὀὂὁὃὐὒ"⟩,
  ⟨0x300, "ὑὓὠὢὡὣ"⟩,
  ⟨0x301, "aácćeégǵiíkḱlĺmḿnńoópṕrŕsśuúwẃyýzźâấåǻæǽçḉêếïḯôốõṍøǿüǘăắēḗōṓũṹơớưứαάεέηήιίοόυύ"⟩,
  ⟨0x301, "ωώϊΐϋΰгѓкќἀἄἁἅἐἔἑἕἠἤἡἥἰἴἱἵὀὄὁὅὐὔὑὕὠὤὡὥ"⟩,
  ⟨0x302, "aâcĉeêgĝhĥiîjĵoôsŝuûwŵyŷzẑạậẹệọộ"⟩, ⟨0x303, "aãeẽiĩnñoõuũvṽyỹâẫêễôỗăẵơỡưữ"⟩,
  ⟨0x304, "aāeēgḡiīoōuūyȳäǟæǣõȭöȫüǖǫǭȧǡȯȱαᾱιῑυῡиӣуӯḷḹṛṝ"⟩,
  ⟨0x306, "aăeĕgğiĭoŏuŭȩḝαᾰιῐυῠаӑеӗжӂийуўạặ"⟩,
  ⟨0x307, "aȧbḃcċdḋeėfḟgġhḣmṁnṅoȯpṗrṙsṡtṫwẇxẋyẏzżśṥšṧṣṩ"⟩,
  ⟨0x308, "aäeëhḧiïoötẗuüwẅxẍyÿõṏūṻιϊυϋаӓеёжӝзӟиӥоӧуӱчӵыӹэӭіїәӛөӫ"⟩,
  ⟨0x309, "aảeẻiỉoỏuủyỷâẩêểôổăẳơởưử"⟩, ⟨0x30A, "aåuůwẘyẙ"⟩, ⟨0x30B, "oőuűуӳ"⟩,
  ⟨0x30C, "aǎcčdďeěgǧhȟiǐjǰkǩlľnňoǒrřsštťuǔzžüǚʒǯ"⟩, ⟨0x30F, "aȁeȅiȉoȍrȑuȕѵѷ"⟩,
  ⟨0x311, "aȃeȇiȋoȏrȓuȗ"⟩, ⟨0x313, "αἀεἐηἠιἰοὀρῤυὐωὠ"⟩, ⟨0x314, "αἁεἑηἡιἱοὁρῥυὑωὡ"⟩,
  ⟨0x31B, "oơuư"⟩, ⟨0x323, "aạbḅdḍeẹhḥiịkḳlḷmṃnṇoọrṛsṣtṭuụvṿwẉyỵzẓơợưự"⟩, ⟨0x324, "uṳ"⟩,
  ⟨0x325, "aḁ"⟩, ⟨0x326, "sștț"⟩, ⟨0x327, "cçdḑeȩgģhḩkķlļnņrŗsştţ"⟩, ⟨0x328, "aąeęiįoǫuų"⟩,
  ⟨0x32D, "dḓeḙlḽnṋtṱuṷ"⟩, ⟨0x32E, "hḫ"⟩, ⟨0x330, "eḛiḭuṵ"⟩, ⟨0x331, "bḇdḏhẖkḵlḻnṉrṟtṯzẕ"⟩,
  ⟨0x338, "<≮=≠>≯←↚→↛↔↮⇐⇍⇒⇏⇔⇎∃∄∈∉∋∌∣∤∥∦∼≁≃≄≅≇≈≉≍≭≡≢≤≰≥≱≲≴≳≵≶≸≷≹≺⊀≻⊁≼⋠≽⋡⊂⊄⊃⊅⊆⊈⊇⊉⊑⋢⊒⋣⊢⊬⊨⊭⊩⊮"⟩,
  ⟨0x338, "⊫⊯⊲⋪⊳⋫⊴⋬⊵⋭"⟩, ⟨0x342, "αᾶηῆιῖυῦωῶϊῗϋῧἀἆἁἇἠἦἡἧἰἶἱἷὐὖὑὗὠὦὡὧ"⟩, ⟨0x653, "\u0627\u0622"⟩,
  ⟨0x654, "\u0627\u0623\u0648\u0624\u064A\u0626\u06C1\u06C2\u06D2\u06D3\u06D5\u06C0"⟩,
  ⟨0x655, "\u0627\u0625"⟩, ⟨0x93C, "\u0928\u0929\u0930\u0931\u0933\u0934"⟩,
  ⟨0x9BE, "\u09C7\u09CB"⟩, ⟨0x9D7, "\u09C7\u09CC"⟩, ⟨0xB3E, "\u0B47\u0B4B"⟩,
  ⟨0xB56, "\u0B47\u0B48"⟩, ⟨0xB57, "\u0B47\u0B4C"⟩, ⟨0xBBE, "\u0BC6\u0BCA\u0BC7\u0BCB"⟩,
  ⟨0xBD7, "\u0B92\u0B94\u0BC6\u0BCC"⟩, ⟨0xC56, "\u0C46\u0C48"⟩, ⟨0xCC2, "\u0CC6\u0CCA"⟩,
  ⟨0xCD5, "\u0CBF\u0CC0\u0CC6\u0CC7\u0CCA\u0CCB"⟩, ⟨0xCD6, "\u0CC6\u0CC8"⟩,
  ⟨0xD3E, "\u0D46\u0D4A\u0D47\u0D4B"⟩, ⟨0xD57, "\u0D46\u0D4C"⟩,
  ⟨0xDCA, "\u0DD9\u0DDA\u0DDC\u0DDD"⟩, ⟨0xDCF, "\u0DD9\u0DDC"⟩, ⟨0xDDF, "\u0DD9\u0DDE"⟩,
  ⟨0x102E, "\u1025\u1026"⟩,
  ⟨0x1B35, "\u1B05\u1B06\u1B07\u1B08\u1B09\u1B0A\u1B0B\u1B0C\u1B0D\u1B0E\u1B11\u1B12"⟩,
  ⟨0x1B35, "\u1B3A\u1B3B\u1B3C\u1B3D\u1B3E\u1B40\u1B3F\u1B41\u1B42\u1B43"⟩,
  ⟨0x3099, "うゔかがきぎくぐけげこごさざしじすずせぜそぞただちぢつづてでとどはばひびふぶへべほぼゝゞウヴカガキギクグケゲコゴサザシジスズセゼソゾタダチヂツヅテデトドハバ"⟩,
  ⟨0x3099, "ヒビフブヘベホボワヷヰヸヱヹヲヺヽヾ"⟩, ⟨0x309A, "はぱひぴふぷへぺほぽハパヒピフプヘペホポ"⟩, ⟨0x110BA, "𑂙𑂚𑂛𑂜𑂥𑂫"⟩,
  ⟨0x11127, "𑄱𑄮𑄲𑄯"⟩, ⟨0x1133E, "𑍇𑍋"⟩, ⟨0x11357, "𑍇𑍌"⟩, ⟨0x114B0, "𑒹𑒼"⟩, ⟨0x114BA, "𑒹𑒻"⟩,
  ⟨0x114BD, "𑒹𑒾"⟩, ⟨0x115AF, "𑖸𑖺𑖹𑖻"⟩, ⟨0x11930, "𑤵𑤸"⟩]

/-- The composed character behind a letter. -/
def composedIn? (letter : Char) : Text → Option Char
  | a :: composed :: rest => if a = letter then some composed else composedIn? letter rest
  | _ => none

/-- The letter in front of a composed character. -/
def letterIn? (composed : Char) : Text → Option Char
  | letter :: c :: rest => if c = composed then some letter else letterIn? composed rest
  | _ => none

/-- The syllable of an initial and a vowel, or of a syllable without a final and a
final. -/
def composeSyllable? (a b : Char) : Option Char :=
  let n := a.toNat
  let m := b.toNat
  if 0x1100 ≤ n && n ≤ 0x1112 && 0x1161 ≤ m && m ≤ 0x1175 then
    some (Char.ofNat (0xAC00 + ((n - 0x1100) * 21 + (m - 0x1161)) * 28))
  else if 0xAC00 ≤ n && n ≤ 0xD7A3 && (n - 0xAC00) % 28 = 0 && 0x11A8 ≤ m && m ≤ 0x11C2 then
    some (Char.ofNat (n + (m - 0x11A7)))
  else none

def compose? (letter mark : Char) : Option Char :=
  (markRows.findSome? fun row =>
    if row.mark = mark.toNat then composedIn? letter row.letters else none).or
      (composeSyllable? letter mark)

/-- The letter and the mark that a character is composed of. -/
def parts? (c : Char) : Option (Char × Char) :=
  markRows.findSome? fun row =>
    (letterIn? c row.letters).map fun letter => (letter, Char.ofNat row.mark)

/-- A character with up to so many marks taken off and put behind it. -/
def takeApart : Nat → Char → Text
  | 0, c => [c]
  | most + 1, c =>
    match parts? c with
    | some (letter, mark) => takeApart most letter ++ [mark]
    | none => [c]

/-- The most marks that a composed character has. -/
def mostMarks : Nat := 2

/-- How far a text has been composed: what is done, the letter that marks may join, the
class of the last mark that did not join it, and all such marks. -/
structure Composing where
  done : Text
  letter : Option Char
  lastClass : Nat
  marks : Text

namespace Composing

def start : Composing := ⟨[], none, 0, []⟩

def text (p : Composing) : Text := p.done ++ p.letter.toList ++ p.marks

/-- Whether a character of the given class may join the letter. -/
def isNear (p : Composing) (markClass : Nat) : Bool := p.lastClass = 0 || p.lastClass < markClass

def take (p : Composing) (c : Char) : Composing :=
  let joined := p.letter.bind fun letter =>
    if p.isNear (markClass c) then compose? letter c else none
  match joined with
  | some composed => { p with letter := some composed }
  | none =>
    if markClass c = 0 || p.letter.isNone then ⟨p.text, some c, 0, []⟩
    else { p with lastClass := max p.lastClass (markClass c), marks := p.marks ++ [c] }

end Composing

def Text.compose (s : Text) : Text := (s.foldl Composing.take Composing.start).text

end SchemaChart
