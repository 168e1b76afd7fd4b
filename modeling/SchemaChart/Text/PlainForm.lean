import SchemaChart.Text.Case

/-!
# Plain forms

A character may be another one in a special dress: wide or narrow, raised or lowered, in
a circle, as part of a ligature, or in the shape that it has inside a word. Its plain
form is what it is without that, in small letters, with letters and marks taken apart.
Characters for which this is no more than their small letter are not listed. The forms
are those of Unicode 3.2.
-/

namespace SchemaChart

/-- Characters in a row, from the first on, and their forms. -/
structure FormRun where
  first : Nat
  forms : List Text

namespace FormRun

/-- Forms of one character each. -/
def letters (first : Nat) (forms : Text) : FormRun := ⟨first, forms.map fun c => [c]⟩

/-- Forms with blanks between them. -/
def words (first : Nat) (forms : Text) : FormRun := ⟨first, Text.pieces ' ' forms⟩

/-- One form for all characters up to the last. -/
def same (first last : Nat) (form : Text) : FormRun :=
  ⟨first, List.replicate (last + 1 - first) form⟩

def form? (run : FormRun) (c : Char) : Option Text :=
  if run.first ≤ c.toNat then run.forms[c.toNat - run.first]? else none

end FormRun

/-- Runs of characters whose forms are characters in a row as well. -/
def plainRuns : List CaseRun := [
  ⟨0x2074, 0x2079, 1, 0x34⟩, ⟨0x2080, 0x2089, 1, 0x30⟩, ⟨0x2135, 0x2138, 1, 0x5D0⟩,
  ⟨0x2460, 0x2468, 1, 0x31⟩, ⟨0x24B6, 0x24CF, 1, 0x61⟩, ⟨0x24D0, 0x24E9, 1, 0x61⟩,
  ⟨0x313A, 0x313F, 1, 0x11B0⟩, ⟨0x3145, 0x314E, 1, 0x1109⟩, ⟨0x314F, 0x3163, 1, 0x1161⟩,
  ⟨0x3178, 0x317C, 1, 0x112B⟩, ⟨0x3269, 0x326D, 1, 0x110E⟩, ⟨0x32E4, 0x32E9, 1, 0x30CA⟩,
  ⟨0x32EE, 0x32F2, 1, 0x30DE⟩, ⟨0x32F5, 0x32FA, 1, 0x30E8⟩, ⟨0x32FB, 0x32FE, 1, 0x30EF⟩,
  ⟨0xFE41, 0xFE44, 1, 0x300C⟩, ⟨0xFF01, 0xFF20, 1, 0x21⟩, ⟨0xFF21, 0xFF3A, 1, 0x61⟩,
  ⟨0xFF3B, 0xFF5E, 1, 0x5B⟩, ⟨0xFF85, 0xFF8A, 1, 0x30CA⟩, ⟨0xFF8F, 0xFF93, 1, 0x30DE⟩,
  ⟨0xFF96, 0xFF9B, 1, 0x30E8⟩, ⟨0xFFAA, 0xFFAF, 1, 0x11B0⟩, ⟨0xFFB5, 0xFFBE, 1, 0x1109⟩,
  ⟨0xFFC2, 0xFFC7, 1, 0x1161⟩, ⟨0xFFCA, 0xFFCF, 1, 0x1167⟩, ⟨0xFFD2, 0xFFD7, 1, 0x116D⟩,
  ⟨0xFFE9, 0xFFEC, 1, 0x2190⟩, ⟨0x1D400, 0x1D419, 1, 0x61⟩, ⟨0x1D41A, 0x1D433, 1, 0x61⟩,
  ⟨0x1D434, 0x1D44D, 1, 0x61⟩, ⟨0x1D44E, 0x1D454, 1, 0x61⟩, ⟨0x1D456, 0x1D467, 1, 0x69⟩,
  ⟨0x1D468, 0x1D481, 1, 0x61⟩, ⟨0x1D482, 0x1D49B, 1, 0x61⟩, ⟨0x1D4A9, 0x1D4AC, 1, 0x6E⟩,
  ⟨0x1D4AE, 0x1D4B5, 1, 0x73⟩, ⟨0x1D4B6, 0x1D4B9, 1, 0x61⟩, ⟨0x1D4BD, 0x1D4C0, 1, 0x68⟩,
  ⟨0x1D4C5, 0x1D4CF, 1, 0x70⟩, ⟨0x1D4D0, 0x1D4E9, 1, 0x61⟩, ⟨0x1D4EA, 0x1D503, 1, 0x61⟩,
  ⟨0x1D507, 0x1D50A, 1, 0x64⟩, ⟨0x1D50D, 0x1D514, 1, 0x6A⟩, ⟨0x1D516, 0x1D51C, 1, 0x73⟩,
  ⟨0x1D51E, 0x1D537, 1, 0x61⟩, ⟨0x1D53B, 0x1D53E, 1, 0x64⟩, ⟨0x1D540, 0x1D544, 1, 0x69⟩,
  ⟨0x1D54A, 0x1D550, 1, 0x73⟩, ⟨0x1D552, 0x1D56B, 1, 0x61⟩, ⟨0x1D56C, 0x1D585, 1, 0x61⟩,
  ⟨0x1D586, 0x1D59F, 1, 0x61⟩, ⟨0x1D5A0, 0x1D5B9, 1, 0x61⟩, ⟨0x1D5BA, 0x1D5D3, 1, 0x61⟩,
  ⟨0x1D5D4, 0x1D5ED, 1, 0x61⟩, ⟨0x1D5EE, 0x1D607, 1, 0x61⟩, ⟨0x1D608, 0x1D621, 1, 0x61⟩,
  ⟨0x1D622, 0x1D63B, 1, 0x61⟩, ⟨0x1D63C, 0x1D655, 1, 0x61⟩, ⟨0x1D656, 0x1D66F, 1, 0x61⟩,
  ⟨0x1D670, 0x1D689, 1, 0x61⟩, ⟨0x1D68A, 0x1D6A3, 1, 0x61⟩, ⟨0x1D6A8, 0x1D6B8, 1, 0x3B1⟩,
  ⟨0x1D6BA, 0x1D6C0, 1, 0x3C3⟩, ⟨0x1D6C2, 0x1D6D2, 1, 0x3B1⟩, ⟨0x1D6D4, 0x1D6DA, 1, 0x3C3⟩,
  ⟨0x1D6E2, 0x1D6F2, 1, 0x3B1⟩, ⟨0x1D6F4, 0x1D6FA, 1, 0x3C3⟩, ⟨0x1D6FC, 0x1D70C, 1, 0x3B1⟩,
  ⟨0x1D70E, 0x1D714, 1, 0x3C3⟩, ⟨0x1D71C, 0x1D72C, 1, 0x3B1⟩, ⟨0x1D72E, 0x1D734, 1, 0x3C3⟩,
  ⟨0x1D736, 0x1D746, 1, 0x3B1⟩, ⟨0x1D748, 0x1D74E, 1, 0x3C3⟩, ⟨0x1D756, 0x1D766, 1, 0x3B1⟩,
  ⟨0x1D768, 0x1D76E, 1, 0x3C3⟩, ⟨0x1D770, 0x1D780, 1, 0x3B1⟩, ⟨0x1D782, 0x1D788, 1, 0x3C3⟩,
  ⟨0x1D790, 0x1D7A0, 1, 0x3B1⟩, ⟨0x1D7A2, 0x1D7A8, 1, 0x3C3⟩, ⟨0x1D7AA, 0x1D7BA, 1, 0x3B1⟩,
  ⟨0x1D7BC, 0x1D7C2, 1, 0x3C3⟩, ⟨0x1D7CE, 0x1D7D7, 1, 0x30⟩, ⟨0x1D7D8, 0x1D7E1, 1, 0x30⟩,
  ⟨0x1D7E2, 0x1D7EB, 1, 0x30⟩, ⟨0x1D7EC, 0x1D7F5, 1, 0x30⟩, ⟨0x1D7F6, 0x1D7FF, 1, 0x30⟩]

/-- Characters whose forms begin with a blank or hold one. -/
def blankForms : List FormRun := [
  .same 0xA0 0xA0 " ", .same 0xA8 0xA8 " \u0308", .same 0xAF 0xAF " \u0304",
  .same 0xB4 0xB4 " \u0301", .same 0xB8 0xB8 " \u0327", .same 0x2D8 0x2D8 " \u0306",
  .same 0x2D9 0x2D9 " \u0307", .same 0x2DA 0x2DA " \u030A", .same 0x2DB 0x2DB " \u0328",
  .same 0x2DC 0x2DC " \u0303", .same 0x2DD 0x2DD " \u030B", .same 0x37A 0x37A " ι",
  .same 0x384 0x384 " \u0301", .same 0x385 0x385 " \u0308\u0301", .same 0x1FBD 0x1FBD " \u0313",
  .same 0x1FBF 0x1FBF " \u0313", .same 0x1FC0 0x1FC0 " \u0342",
  .same 0x1FC1 0x1FC1 " \u0308\u0342", .same 0x1FCD 0x1FCD " \u0313\u0300",
  .same 0x1FCE 0x1FCE " \u0313\u0301", .same 0x1FCF 0x1FCF " \u0313\u0342",
  .same 0x1FDD 0x1FDD " \u0314\u0300", .same 0x1FDE 0x1FDE " \u0314\u0301",
  .same 0x1FDF 0x1FDF " \u0314\u0342", .same 0x1FED 0x1FED " \u0308\u0300",
  .same 0x1FEE 0x1FEE " \u0308\u0301", .same 0x1FFD 0x1FFD " \u0301",
  .same 0x1FFE 0x1FFE " \u0314", .same 0x2000 0x200A " ", .same 0x2017 0x2017 " \u0333",
  .same 0x202F 0x202F " ", .same 0x203E 0x203E " \u0305", .same 0x205F 0x205F " ",
  .same 0x3000 0x3000 " ", .same 0x309B 0x309B " \u3099", .same 0x309C 0x309C " \u309A",
  .same 0xFC5E 0xFC5E " \u064C\u0651", .same 0xFC5F 0xFC5F " \u064D\u0651",
  .same 0xFC60 0xFC60 " \u064E\u0651", .same 0xFC61 0xFC61 " \u064F\u0651",
  .same 0xFC62 0xFC62 " \u0650\u0651", .same 0xFC63 0xFC63 " \u0651\u0670",
  .same 0xFDFA 0xFDFA
    ("\u0635\u0644\u0649 \u0627\u0644\u0644\u0647 " ++
      "\u0639\u0644\u064A\u0647 \u0648\u0633\u0644\u0645"),
  .same 0xFDFB 0xFDFB "\u062C\u0644 \u062C\u0644\u0627\u0644\u0647",
  .same 0xFE49 0xFE4C " \u0305", .same 0xFE70 0xFE70 " \u064B", .same 0xFE72 0xFE72 " \u064C",
  .same 0xFE74 0xFE74 " \u064D", .same 0xFE76 0xFE76 " \u064E", .same 0xFE78 0xFE78 " \u064F",
  .same 0xFE7A 0xFE7A " \u0650", .same 0xFE7C 0xFE7C " \u0651", .same 0xFE7E 0xFE7E " \u0652",
  .same 0xFFE3 0xFFE3 " \u0304"]

def otherForms : List FormRun := [
  .letters 0xAA "a", .letters 0xB2 "23", .letters 0xB5 "μ", .letters 0xB9 "1o",
  .words 0xBC "1⁄4 1⁄2 3⁄4", .words 0xDF "ss", .words 0x132 "ij ij", .words 0x13F "l· l·",
  .words 0x149 "ʼn", .letters 0x17F "s",
  .words 0x1C4 "dz\u030C dz\u030C dz\u030C lj lj lj nj nj nj", .words 0x1F1 "dz dz dz",
  .letters 0x2B0 "hɦjrɹɻʁwy", .letters 0x2E0 "ɣlsxʕ", .letters 0x340 "\u0300\u0301",
  .words 0x343 "\u0313 \u0308\u0301 ι", .letters 0x374 "ʹ", .letters 0x37E ";",
  .letters 0x387 "·", .letters 0x3C2 "σ", .words 0x3D0 "β θ υ υ\u0301 υ\u0308 φ π",
  .letters 0x3F0 "κρσ", .letters 0x3F5 "ε", .letters 0x3F9 "σ", .words 0x587 "եւ",
  .words 0x675 "\u0627\u0674 \u0648\u0674 \u06C7\u0674 \u064A\u0674",
  .words 0x958 "\u0915\u093C \u0916\u093C \u0917\u093C \u091C\u093C \u0921\u093C",
  .words 0x95D "\u0922\u093C \u092B\u093C \u092F\u093C",
  .words 0x9DC "\u09A1\u09BC \u09A2\u09BC", .words 0x9DF "\u09AF\u09BC",
  .words 0xA33 "\u0A32\u0A3C", .words 0xA36 "\u0A38\u0A3C",
  .words 0xA59 "\u0A16\u0A3C \u0A17\u0A3C \u0A1C\u0A3C", .words 0xA5E "\u0A2B\u0A3C",
  .words 0xB5C "\u0B21\u0B3C \u0B22\u0B3C", .words 0xE33 "\u0E4D\u0E32",
  .words 0xEB3 "\u0ECD\u0EB2", .words 0xEDC "\u0EAB\u0E99 \u0EAB\u0EA1",
  .letters 0xF0C "\u0F0B", .words 0xF43 "\u0F42\u0FB7", .words 0xF4D "\u0F4C\u0FB7",
  .words 0xF52 "\u0F51\u0FB7", .words 0xF57 "\u0F56\u0FB7", .words 0xF5C "\u0F5B\u0FB7",
  .words 0xF69 "\u0F40\u0FB5", .words 0xF73 "\u0F71\u0F72",
  .words 0xF75 "\u0F71\u0F74 \u0FB2\u0F80 \u0FB2\u0F71\u0F80 \u0FB3\u0F80 \u0FB3\u0F71\u0F80",
  .words 0xF81 "\u0F71\u0F80", .words 0xF93 "\u0F92\u0FB7", .words 0xF9D "\u0F9C\u0FB7",
  .words 0xFA2 "\u0FA1\u0FB7", .words 0xFA7 "\u0FA6\u0FB7", .words 0xFAC "\u0FAB\u0FB7",
  .words 0xFB9 "\u0F90\u0FB5", .words 0x1E9A "aʾ s\u0307", .words 0x1E9E "ss",
  .words 0x1F71 "α\u0301", .words 0x1F73 "ε\u0301", .words 0x1F75 "η\u0301",
  .words 0x1F77 "ι\u0301", .words 0x1F79 "ο\u0301", .words 0x1F7B "υ\u0301",
  .words 0x1F7D "ω\u0301",
  .words 0x1F80 "α\u0313ι α\u0314ι α\u0313\u0300ι α\u0314\u0300ι α\u0313\u0301ι",
  .words 0x1F85 "α\u0314\u0301ι α\u0313\u0342ι α\u0314\u0342ι α\u0313ι α\u0314ι",
  .words 0x1F8A "α\u0313\u0300ι α\u0314\u0300ι α\u0313\u0301ι α\u0314\u0301ι α\u0313\u0342ι",
  .words 0x1F8F "α\u0314\u0342ι η\u0313ι η\u0314ι η\u0313\u0300ι η\u0314\u0300ι",
  .words 0x1F94 "η\u0313\u0301ι η\u0314\u0301ι η\u0313\u0342ι η\u0314\u0342ι η\u0313ι",
  .words 0x1F99 "η\u0314ι η\u0313\u0300ι η\u0314\u0300ι η\u0313\u0301ι η\u0314\u0301ι",
  .words 0x1F9E "η\u0313\u0342ι η\u0314\u0342ι ω\u0313ι ω\u0314ι ω\u0313\u0300ι",
  .words 0x1FA3 "ω\u0314\u0300ι ω\u0313\u0301ι ω\u0314\u0301ι ω\u0313\u0342ι ω\u0314\u0342ι",
  .words 0x1FA8 "ω\u0313ι ω\u0314ι ω\u0313\u0300ι ω\u0314\u0300ι ω\u0313\u0301ι",
  .words 0x1FAD "ω\u0314\u0301ι ω\u0313\u0342ι ω\u0314\u0342ι",
  .words 0x1FB2 "α\u0300ι αι α\u0301ι", .words 0x1FB7 "α\u0342ι", .words 0x1FBB "α\u0301 αι",
  .letters 0x1FBE "ι", .words 0x1FC2 "η\u0300ι ηι η\u0301ι", .words 0x1FC7 "η\u0342ι",
  .words 0x1FC9 "ε\u0301", .words 0x1FCB "η\u0301 ηι", .words 0x1FD3 "ι\u0308\u0301",
  .words 0x1FDB "ι\u0301", .words 0x1FE3 "υ\u0308\u0301", .words 0x1FEB "υ\u0301",
  .letters 0x1FEF "`", .words 0x1FF2 "ω\u0300ι ωι ω\u0301ι", .words 0x1FF7 "ω\u0342ι",
  .words 0x1FF9 "ο\u0301", .words 0x1FFB "ω\u0301 ωι", .letters 0x2011 "‐",
  .words 0x2024 ". .. ...", .words 0x2033 "′′ ′′′", .words 0x2036 "‵‵ ‵‵‵", .words 0x203C "!!",
  .words 0x2047 "?? ?! !?", .words 0x2057 "′′′′", .letters 0x2070 "0i",
  .letters 0x207A "+−=()n", .letters 0x208A "+−=()", .words 0x20A8 "rs",
  .words 0x2100 "a/c a/s c °c", .words 0x2105 "c/o c/u ɛ", .words 0x2109 "°f",
  .letters 0x210A "ghhhhħiill", .words 0x2115 "n no", .letters 0x2119 "pqrrr",
  .words 0x2120 "sm tel tm", .letters 0x2124 "z", .letters 0x2128 "z", .letters 0x212C "bc",
  .letters 0x212F "eef", .letters 0x2133 "mo", .letters 0x2139 "i", .letters 0x213D "γγπ∑",
  .letters 0x2145 "ddeij",
  .words 0x2153 "1⁄3 2⁄3 1⁄5 2⁄5 3⁄5 4⁄5 1⁄6 5⁄6 1⁄8 3⁄8 5⁄8 7⁄8 1⁄ i ii iii iv v vi vii viii",
  .words 0x2168 "ix x xi xii l c d m i ii iii iv v vi vii viii ix x xi xii l c d m",
  .words 0x222C "∫∫ ∫∫∫", .words 0x222F "∮∮ ∮∮∮", .letters 0x2329 "〈〉",
  .words 0x2469 "10 11 12 13 14 15 16 17 18 19 20 (1) (2) (3) (4) (5) (6) (7) (8) (9) (10)",
  .words 0x247E "(11) (12) (13) (14) (15) (16) (17) (18) (19) (20) 1. 2. 3. 4. 5. 6. 7. 8. 9.",
  .words 0x2491 "10. 11. 12. 13. 14. 15. 16. 17. 18. 19. 20. (a) (b) (c) (d) (e) (f) (g) (h)",
  .words 0x24A4 "(i) (j) (k) (l) (m) (n) (o) (p) (q) (r) (s) (t) (u) (v) (w) (x) (y) (z)",
  .letters 0x24EA "0", .words 0x2A0C "∫∫∫∫", .words 0x2A74 "::= == ===",
  .words 0x2ADC "⫝\u0338", .letters 0x2E9F "母", .letters 0x2EF3 "龟",
  .letters 0x2F00 "一丨丶丿乙亅二亠人儿入八冂冖冫几凵刀力勹匕匚匸十卜卩厂厶又口囗土士夂夊夕大女子宀寸小尢尸屮山巛工己巾干幺广廴廾弋弓彐彡彳",
  .letters 0x2F3C "心戈戶手支攴文斗斤方无日曰月木欠止歹殳毋比毛氏气水火爪父爻爿片牙牛犬玄玉瓜瓦甘生用田疋疒癶白皮皿目矛矢石示禸禾穴立竹米糸",
  .letters 0x2F78 "缶网羊羽老而耒耳聿肉臣自至臼舌舛舟艮色艸虍虫血行衣襾見角言谷豆豕豸貝赤走足身車辛辰辵邑酉釆里金長門阜隶隹雨靑非面革韋韭音",
  .letters 0x2FB4 "頁風飛食首香馬骨高髟鬥鬯鬲鬼魚鳥鹵鹿麥麻黃黍黑黹黽鼎鼓鼠鼻齊齒龍龜龠", .letters 0x3036 "〒",
  .letters 0x3038 "十卄卅", .words 0x309F "より", .words 0x30FF "コト",
  .letters 0x3131 "\u1100\u1101\u11AA\u1102\u11AC\u11AD\u1103\u1104\u1105",
  .letters 0x3140 "\u111A\u1106\u1107\u1108\u1121",
  .letters 0x3164 "\u1160\u1114\u1115\u11C7\u11C8\u11CC\u11CE\u11D3\u11D7\u11D9\u111C\u11DD",
  .letters 0x3170 "\u11DF\u111D\u111E\u1120\u1122\u1123\u1127\u1129",
  .letters 0x317D "\u1132\u1136\u1140\u1147\u114C\u11F1\u11F2\u1157\u1158\u1159\u1184\u1185",
  .letters 0x3189 "\u1188\u1191\u1192\u1194\u119E\u11A1", .letters 0x3192 "一二三四上中下甲乙丙丁天地人",
  .words 0x3200 "(\u1100) (\u1102) (\u1103) (\u1105) (\u1106) (\u1107) (\u1109) (\u110B)",
  .words 0x3208 "(\u110C) (\u110E) (\u110F) (\u1110) (\u1111) (\u1112) (\u1100\u1161)",
  .words 0x320F "(\u1102\u1161) (\u1103\u1161) (\u1105\u1161) (\u1106\u1161) (\u1107\u1161)",
  .words 0x3214 "(\u1109\u1161) (\u110B\u1161) (\u110C\u1161) (\u110E\u1161) (\u110F\u1161)",
  .words 0x3219 "(\u1110\u1161) (\u1111\u1161) (\u1112\u1161) (\u110C\u116E)",
  .words 0x3220 "(一) (二) (三) (四) (五) (六) (七) (八) (九) (十) (月) (火) (水) (木) (金)",
  .words 0x322F "(土) (日) (株) (有) (社) (名) (特) (財) (祝) (労) (代) (呼) (学) (監) (企)",
  .words 0x323E "(資) (協) (祭) (休) (自) (至)",
  .words 0x3251 "21 22 23 24 25 26 27 28 29 30 31 32 33 34 35",
  .letters 0x3260 "\u1100\u1102\u1103\u1105\u1106\u1107\u1109\u110B\u110C",
  .words 0x326E "\u1100\u1161 \u1102\u1161 \u1103\u1161 \u1105\u1161 \u1106\u1161",
  .words 0x3273 "\u1107\u1161 \u1109\u1161 \u110B\u1161 \u110C\u1161 \u110E\u1161",
  .words 0x3278 "\u110F\u1161 \u1110\u1161 \u1111\u1161 \u1112\u1161",
  .letters 0x3280 "一二三四五六七八九十月火水木金土日株有社名特財祝労秘男女適優印注項休写正上中下左右医宗学監企資協夜",
  .words 0x32B1 "36 37 38 39 40 41 42 43 44 45 46 47 48 49 50 1月 2月 3月 4月 5月",
  .words 0x32C5 "6月 7月 8月 9月 10月 11月 12月", .letters 0x32D0 "アイウエオカキクケコサシスセソタチツテト",
  .letters 0x32EA "ヒフヘホ", .letters 0x32F3 "ヤユ",
  .words 0x3300 "アハ\u309Aート アルファ アンヘ\u309Aア アール イニンク\u3099 インチ ウォン",
  .words 0x3307 "エスクート\u3099 エーカー オンス オーム カイリ カラット カロリー カ\u3099ロン カ\u3099ンマ",
  .words 0x3310 "キ\u3099カ\u3099 キ\u3099ニー キュリー キ\u3099ルタ\u3099ー キロ",
  .words 0x3315 "キロク\u3099ラム キロメートル キロワット ク\u3099ラム ク\u3099ラムトン クルセ\u3099イロ",
  .words 0x331B "クローネ ケース コルナ コーホ\u309A サイクル サンチーム シリンク\u3099 センチ セント",
  .words 0x3324 "タ\u3099ース テ\u3099シ ト\u3099ル トン ナノ ノット ハイツ ハ\u309Aーセント",
  .words 0x332C "ハ\u309Aーツ ハ\u3099ーレル ヒ\u309Aアストル ヒ\u309Aクル ヒ\u309Aコ ヒ\u3099ル",
  .words 0x3332 "ファラット\u3099 フィート フ\u3099ッシェル フラン ヘクタール ヘ\u309Aソ ヘ\u309Aニヒ",
  .words 0x3339 "ヘルツ ヘ\u309Aンス ヘ\u309Aーシ\u3099 ヘ\u3099ータ ホ\u309Aイント ホ\u3099ルト",
  .words 0x333F "ホン ホ\u309Aント\u3099 ホール ホーン マイクロ マイル マッハ マルク マンション ミクロン ミリ",
  .words 0x334A "ミリハ\u3099ール メカ\u3099 メカ\u3099トン メートル ヤート\u3099 ヤール ユアン リットル",
  .words 0x3352 "リラ ルヒ\u309Aー ルーフ\u3099ル レム レントケ\u3099ン ワット 0点 1点 2点 3点 4点 5点",
  .words 0x335E "6点 7点 8点 9点 10点 11点 12点 13点 14点 15点 16点 17点 18点 19点 20点 21点",
  .words 0x336E "22点 23点 24点 hpa da au bar ov pc",
  .words 0x337B "平成 昭和 大正 明治 株式会社 pa na μa ma ka kb mb gb cal kcal pf nf μf",
  .words 0x338D "μg mg kg hz khz mhz ghz thz μl ml dl kl fm nm μm mm cm km mm2 cm2 m2 km2 mm3",
  .words 0x33A4 "cm3 m3 km3 m∕s m∕s2 pa kpa mpa gpa rad rad∕s rad∕s2 ps ns μs ms pv nv μv mv",
  .words 0x33B8 "kv mv pw nw μw mw kw mw kω mω a.m. bq cc cd c∕kg co. db gy ha hp in kk km kt",
  .words 0x33D0 "lm ln log lx mb mil mol ph p.m. ppm pr sr sv wb",
  .words 0x33E0 "1日 2日 3日 4日 5日 6日 7日 8日 9日 10日 11日 12日 13日 14日 15日 16日 17日",
  .words 0x33F1 "18日 19日 20日 21日 22日 23日 24日 25日 26日 27日 28日 29日 30日 31日",
  .letters 0xF900 "豈更車賈滑串句龜龜契金喇奈懶癩羅蘿螺裸邏樂洛烙珞落酪駱亂卵欄爛蘭鸞嵐濫藍襤拉臘蠟廊朗浪狼郎來冷勞擄櫓爐盧老蘆虜路露魯鷺碌",
  .letters 0xF93C "祿綠菉錄鹿論壟弄籠聾牢磊賂雷壘屢樓淚漏累縷陋勒肋凜凌稜綾菱陵讀拏樂諾丹寧怒率異北磻便復不泌數索參塞省葉說殺辰沈拾若掠略亮",
  .letters 0xF978 "兩凉梁糧良諒量勵呂女廬旅濾礪閭驪麗黎力曆歷轢年憐戀撚漣煉璉秊練聯輦蓮連鍊列劣咽烈裂說廉念捻殮簾獵令囹寧嶺怜玲瑩羚聆鈴零靈",
  .letters 0xF9B4 "領例禮醴隸惡了僚寮尿料樂燎療蓼遼龍暈阮劉杻柳流溜琉留硫紐類六戮陸倫崙淪輪律慄栗率隆利吏履易李梨泥理痢罹裏裡里離匿溺吝燐璘",
  .letters 0xF9F0 "藺隣鱗麟林淋臨立笠粒狀炙識什茶刺切度拓糖宅洞暴輻行降見廓兀嗀", .letters 0xFA10 "塚", .letters 0xFA12 "晴",
  .letters 0xFA15 "凞猪益礼神祥福靖精羽", .letters 0xFA20 "蘒", .letters 0xFA22 "諸", .letters 0xFA25 "逸都",
  .letters 0xFA2A "飯飼館鶴",
  .letters 0xFA30 "侮僧免勉勤卑喝嘆器塀墨層屮悔慨憎懲敏既暑梅海渚漢煮爫琢碑社祉祈祐祖祝禍禎穀突節練縉繁署者臭艹艹著褐視謁謹賓贈辶逸難響頻",
  .words 0xFB00 "ff fi fl ffi ffl st st", .words 0xFB13 "մն մե մի վն մխ",
  .words 0xFB1D "\u05D9\u05B4", .words 0xFB1F "\u05F2\u05B7",
  .letters 0xFB20 "\u05E2\u05D0\u05D3\u05D4\u05DB\u05DC\u05DD\u05E8\u05EA+",
  .words 0xFB2A "\u05E9\u05C1 \u05E9\u05C2 \u05E9\u05BC\u05C1 \u05E9\u05BC\u05C2 \u05D0\u05B7",
  .words 0xFB2F "\u05D0\u05B8 \u05D0\u05BC \u05D1\u05BC \u05D2\u05BC \u05D3\u05BC",
  .words 0xFB34 "\u05D4\u05BC \u05D5\u05BC \u05D6\u05BC",
  .words 0xFB38 "\u05D8\u05BC \u05D9\u05BC \u05DA\u05BC \u05DB\u05BC \u05DC\u05BC",
  .words 0xFB3E "\u05DE\u05BC", .words 0xFB40 "\u05E0\u05BC \u05E1\u05BC",
  .words 0xFB43 "\u05E3\u05BC \u05E4\u05BC",
  .words 0xFB46 "\u05E6\u05BC \u05E7\u05BC \u05E8\u05BC \u05E9\u05BC \u05EA\u05BC",
  .words 0xFB4B "\u05D5\u05B9 \u05D1\u05BF \u05DB\u05BF \u05E4\u05BF \u05D0\u05DC",
  .letters 0xFB50 "\u0671\u0671\u067B\u067B\u067B\u067B\u067E\u067E\u067E\u067E\u0680\u0680",
  .letters 0xFB5C "\u0680\u0680\u067A\u067A\u067A\u067A\u067F\u067F\u067F\u067F\u0679\u0679",
  .letters 0xFB68 "\u0679\u0679\u06A4\u06A4\u06A4\u06A4\u06A6\u06A6\u06A6\u06A6\u0684\u0684",
  .letters 0xFB74 "\u0684\u0684\u0683\u0683\u0683\u0683\u0686\u0686\u0686\u0686\u0687\u0687",
  .letters 0xFB80 "\u0687\u0687\u068D\u068D\u068C\u068C\u068E\u068E\u0688\u0688\u0698\u0698",
  .letters 0xFB8C "\u0691\u0691\u06A9\u06A9\u06A9\u06A9\u06AF\u06AF\u06AF\u06AF\u06B3\u06B3",
  .letters 0xFB98 "\u06B3\u06B3\u06B1\u06B1\u06B1\u06B1\u06BA\u06BA\u06BB\u06BB\u06BB\u06BB",
  .words 0xFBA4 "\u06D5\u0654 \u06D5\u0654",
  .letters 0xFBA6 "\u06C1\u06C1\u06C1\u06C1\u06BE\u06BE\u06BE\u06BE\u06D2\u06D2",
  .words 0xFBB0 "\u06D2\u0654 \u06D2\u0654",
  .letters 0xFBD3 "\u06AD\u06AD\u06AD\u06AD\u06C7\u06C7\u06C6\u06C6\u06C8\u06C8",
  .words 0xFBDD "\u06C7\u0674",
  .letters 0xFBDE "\u06CB\u06CB\u06C5\u06C5\u06C9\u06C9\u06D0\u06D0\u06D0\u06D0\u0649\u0649",
  .words 0xFBEA "\u064A\u0654\u0627 \u064A\u0654\u0627 \u064A\u0654\u06D5 \u064A\u0654\u06D5",
  .words 0xFBEE "\u064A\u0654\u0648 \u064A\u0654\u0648 \u064A\u0654\u06C7 \u064A\u0654\u06C7",
  .words 0xFBF2 "\u064A\u0654\u06C6 \u064A\u0654\u06C6 \u064A\u0654\u06C8 \u064A\u0654\u06C8",
  .words 0xFBF6 "\u064A\u0654\u06D0 \u064A\u0654\u06D0 \u064A\u0654\u06D0 \u064A\u0654\u0649",
  .words 0xFBFA "\u064A\u0654\u0649 \u064A\u0654\u0649 \u06CC \u06CC \u06CC \u06CC",
  .words 0xFC00 "\u064A\u0654\u062C \u064A\u0654\u062D \u064A\u0654\u0645 \u064A\u0654\u0649",
  .words 0xFC04 "\u064A\u0654\u064A \u0628\u062C \u0628\u062D \u0628\u062E \u0628\u0645",
  .words 0xFC09 "\u0628\u0649 \u0628\u064A \u062A\u062C \u062A\u062D \u062A\u062E",
  .words 0xFC0E "\u062A\u0645 \u062A\u0649 \u062A\u064A \u062B\u062C \u062B\u0645",
  .words 0xFC13 "\u062B\u0649 \u062B\u064A \u062C\u062D \u062C\u0645 \u062D\u062C",
  .words 0xFC18 "\u062D\u0645 \u062E\u062C \u062E\u062D \u062E\u0645 \u0633\u062C",
  .words 0xFC1D "\u0633\u062D \u0633\u062E \u0633\u0645 \u0635\u062D \u0635\u0645",
  .words 0xFC22 "\u0636\u062C \u0636\u062D \u0636\u062E \u0636\u0645 \u0637\u062D",
  .words 0xFC27 "\u0637\u0645 \u0638\u0645 \u0639\u062C \u0639\u0645 \u063A\u062C",
  .words 0xFC2C "\u063A\u0645 \u0641\u062C \u0641\u062D \u0641\u062E \u0641\u0645",
  .words 0xFC31 "\u0641\u0649 \u0641\u064A \u0642\u062D \u0642\u0645 \u0642\u0649",
  .words 0xFC36 "\u0642\u064A \u0643\u0627 \u0643\u062C \u0643\u062D \u0643\u062E",
  .words 0xFC3B "\u0643\u0644 \u0643\u0645 \u0643\u0649 \u0643\u064A \u0644\u062C",
  .words 0xFC40 "\u0644\u062D \u0644\u062E \u0644\u0645 \u0644\u0649 \u0644\u064A",
  .words 0xFC45 "\u0645\u062C \u0645\u062D \u0645\u062E \u0645\u0645 \u0645\u0649",
  .words 0xFC4A "\u0645\u064A \u0646\u062C \u0646\u062D \u0646\u062E \u0646\u0645",
  .words 0xFC4F "\u0646\u0649 \u0646\u064A \u0647\u062C \u0647\u0645 \u0647\u0649",
  .words 0xFC54 "\u0647\u064A \u064A\u062C \u064A\u062D \u064A\u062E \u064A\u0645",
  .words 0xFC59 "\u064A\u0649 \u064A\u064A \u0630\u0670 \u0631\u0670 \u0649\u0670",
  .words 0xFC64 "\u064A\u0654\u0631 \u064A\u0654\u0632 \u064A\u0654\u0645 \u064A\u0654\u0646",
  .words 0xFC68 "\u064A\u0654\u0649 \u064A\u0654\u064A \u0628\u0631 \u0628\u0632 \u0628\u0645",
  .words 0xFC6D "\u0628\u0646 \u0628\u0649 \u0628\u064A \u062A\u0631 \u062A\u0632",
  .words 0xFC72 "\u062A\u0645 \u062A\u0646 \u062A\u0649 \u062A\u064A \u062B\u0631",
  .words 0xFC77 "\u062B\u0632 \u062B\u0645 \u062B\u0646 \u062B\u0649 \u062B\u064A",
  .words 0xFC7C "\u0641\u0649 \u0641\u064A \u0642\u0649 \u0642\u064A \u0643\u0627",
  .words 0xFC81 "\u0643\u0644 \u0643\u0645 \u0643\u0649 \u0643\u064A \u0644\u0645",
  .words 0xFC86 "\u0644\u0649 \u0644\u064A \u0645\u0627 \u0645\u0645 \u0646\u0631",
  .words 0xFC8B "\u0646\u0632 \u0646\u0645 \u0646\u0646 \u0646\u0649 \u0646\u064A",
  .words 0xFC90 "\u0649\u0670 \u064A\u0631 \u064A\u0632 \u064A\u0645 \u064A\u0646",
  .words 0xFC95 "\u064A\u0649 \u064A\u064A \u064A\u0654\u062C \u064A\u0654\u062D",
  .words 0xFC99 "\u064A\u0654\u062E \u064A\u0654\u0645 \u064A\u0654\u0647 \u0628\u062C",
  .words 0xFC9D "\u0628\u062D \u0628\u062E \u0628\u0645 \u0628\u0647 \u062A\u062C",
  .words 0xFCA2 "\u062A\u062D \u062A\u062E \u062A\u0645 \u062A\u0647 \u062B\u0645",
  .words 0xFCA7 "\u062C\u062D \u062C\u0645 \u062D\u062C \u062D\u0645 \u062E\u062C",
  .words 0xFCAC "\u062E\u0645 \u0633\u062C \u0633\u062D \u0633\u062E \u0633\u0645",
  .words 0xFCB1 "\u0635\u062D \u0635\u062E \u0635\u0645 \u0636\u062C \u0636\u062D",
  .words 0xFCB6 "\u0636\u062E \u0636\u0645 \u0637\u062D \u0638\u0645 \u0639\u062C",
  .words 0xFCBB "\u0639\u0645 \u063A\u062C \u063A\u0645 \u0641\u062C \u0641\u062D",
  .words 0xFCC0 "\u0641\u062E \u0641\u0645 \u0642\u062D \u0642\u0645 \u0643\u062C",
  .words 0xFCC5 "\u0643\u062D \u0643\u062E \u0643\u0644 \u0643\u0645 \u0644\u062C",
  .words 0xFCCA "\u0644\u062D \u0644\u062E \u0644\u0645 \u0644\u0647 \u0645\u062C",
  .words 0xFCCF "\u0645\u062D \u0645\u062E \u0645\u0645 \u0646\u062C \u0646\u062D",
  .words 0xFCD4 "\u0646\u062E \u0646\u0645 \u0646\u0647 \u0647\u062C \u0647\u0645",
  .words 0xFCD9 "\u0647\u0670 \u064A\u062C \u064A\u062D \u064A\u062E \u064A\u0645",
  .words 0xFCDE "\u064A\u0647 \u064A\u0654\u0645 \u064A\u0654\u0647 \u0628\u0645 \u0628\u0647",
  .words 0xFCE3 "\u062A\u0645 \u062A\u0647 \u062B\u0645 \u062B\u0647 \u0633\u0645",
  .words 0xFCE8 "\u0633\u0647 \u0634\u0645 \u0634\u0647 \u0643\u0644 \u0643\u0645",
  .words 0xFCED "\u0644\u0645 \u0646\u0645 \u0646\u0647 \u064A\u0645 \u064A\u0647",
  .words 0xFCF2 "\u0640\u064E\u0651 \u0640\u064F\u0651 \u0640\u0650\u0651 \u0637\u0649",
  .words 0xFCF6 "\u0637\u064A \u0639\u0649 \u0639\u064A \u063A\u0649 \u063A\u064A",
  .words 0xFCFB "\u0633\u0649 \u0633\u064A \u0634\u0649 \u0634\u064A \u062D\u0649",
  .words 0xFD00 "\u062D\u064A \u062C\u0649 \u062C\u064A \u062E\u0649 \u062E\u064A",
  .words 0xFD05 "\u0635\u0649 \u0635\u064A \u0636\u0649 \u0636\u064A \u0634\u062C",
  .words 0xFD0A "\u0634\u062D \u0634\u062E \u0634\u0645 \u0634\u0631 \u0633\u0631",
  .words 0xFD0F "\u0635\u0631 \u0636\u0631 \u0637\u0649 \u0637\u064A \u0639\u0649",
  .words 0xFD14 "\u0639\u064A \u063A\u0649 \u063A\u064A \u0633\u0649 \u0633\u064A",
  .words 0xFD19 "\u0634\u0649 \u0634\u064A \u062D\u0649 \u062D\u064A \u062C\u0649",
  .words 0xFD1E "\u062C\u064A \u062E\u0649 \u062E\u064A \u0635\u0649 \u0635\u064A",
  .words 0xFD23 "\u0636\u0649 \u0636\u064A \u0634\u062C \u0634\u062D \u0634\u062E",
  .words 0xFD28 "\u0634\u0645 \u0634\u0631 \u0633\u0631 \u0635\u0631 \u0636\u0631",
  .words 0xFD2D "\u0634\u062C \u0634\u062D \u0634\u062E \u0634\u0645 \u0633\u0647",
  .words 0xFD32 "\u0634\u0647 \u0637\u0645 \u0633\u062C \u0633\u062D \u0633\u062E",
  .words 0xFD37 "\u0634\u062C \u0634\u062D \u0634\u062E \u0637\u0645 \u0638\u0645",
  .words 0xFD3C "\u0627\u064B \u0627\u064B",
  .words 0xFD50 "\u062A\u062C\u0645 \u062A\u062D\u062C \u062A\u062D\u062C \u062A\u062D\u0645",
  .words 0xFD54 "\u062A\u062E\u0645 \u062A\u0645\u062C \u062A\u0645\u062D \u062A\u0645\u062E",
  .words 0xFD58 "\u062C\u0645\u062D \u062C\u0645\u062D \u062D\u0645\u064A \u062D\u0645\u0649",
  .words 0xFD5C "\u0633\u062D\u062C \u0633\u062C\u062D \u0633\u062C\u0649 \u0633\u0645\u062D",
  .words 0xFD60 "\u0633\u0645\u062D \u0633\u0645\u062C \u0633\u0645\u0645 \u0633\u0645\u0645",
  .words 0xFD64 "\u0635\u062D\u062D \u0635\u062D\u062D \u0635\u0645\u0645 \u0634\u062D\u0645",
  .words 0xFD68 "\u0634\u062D\u0645 \u0634\u062C\u064A \u0634\u0645\u062E \u0634\u0645\u062E",
  .words 0xFD6C "\u0634\u0645\u0645 \u0634\u0645\u0645 \u0636\u062D\u0649 \u0636\u062E\u0645",
  .words 0xFD70 "\u0636\u062E\u0645 \u0637\u0645\u062D \u0637\u0645\u062D \u0637\u0645\u0645",
  .words 0xFD74 "\u0637\u0645\u064A \u0639\u062C\u0645 \u0639\u0645\u0645 \u0639\u0645\u0645",
  .words 0xFD78 "\u0639\u0645\u0649 \u063A\u0645\u0645 \u063A\u0645\u064A \u063A\u0645\u0649",
  .words 0xFD7C "\u0641\u062E\u0645 \u0641\u062E\u0645 \u0642\u0645\u062D \u0642\u0645\u0645",
  .words 0xFD80 "\u0644\u062D\u0645 \u0644\u062D\u064A \u0644\u062D\u0649 \u0644\u062C\u062C",
  .words 0xFD84 "\u0644\u062C\u062C \u0644\u062E\u0645 \u0644\u062E\u0645 \u0644\u0645\u062D",
  .words 0xFD88 "\u0644\u0645\u062D \u0645\u062D\u062C \u0645\u062D\u0645 \u0645\u062D\u064A",
  .words 0xFD8C "\u0645\u062C\u062D \u0645\u062C\u0645 \u0645\u062E\u062C \u0645\u062E\u0645",
  .words 0xFD92 "\u0645\u062C\u062E \u0647\u0645\u062C \u0647\u0645\u0645 \u0646\u062D\u0645",
  .words 0xFD96 "\u0646\u062D\u0649 \u0646\u062C\u0645 \u0646\u062C\u0645 \u0646\u062C\u0649",
  .words 0xFD9A "\u0646\u0645\u064A \u0646\u0645\u0649 \u064A\u0645\u0645 \u064A\u0645\u0645",
  .words 0xFD9E "\u0628\u062E\u064A \u062A\u062C\u064A \u062A\u062C\u0649 \u062A\u062E\u064A",
  .words 0xFDA2 "\u062A\u062E\u0649 \u062A\u0645\u064A \u062A\u0645\u0649 \u062C\u0645\u064A",
  .words 0xFDA6 "\u062C\u062D\u0649 \u062C\u0645\u0649 \u0633\u062E\u0649 \u0635\u062D\u064A",
  .words 0xFDAA "\u0634\u062D\u064A \u0636\u062D\u064A \u0644\u062C\u064A \u0644\u0645\u064A",
  .words 0xFDAE "\u064A\u062D\u064A \u064A\u062C\u064A \u064A\u0645\u064A \u0645\u0645\u064A",
  .words 0xFDB2 "\u0642\u0645\u064A \u0646\u062D\u064A \u0642\u0645\u062D \u0644\u062D\u0645",
  .words 0xFDB6 "\u0639\u0645\u064A \u0643\u0645\u064A \u0646\u062C\u062D \u0645\u062E\u064A",
  .words 0xFDBA "\u0644\u062C\u0645 \u0643\u0645\u0645 \u0644\u062C\u0645 \u0646\u062C\u062D",
  .words 0xFDBE "\u062C\u062D\u064A \u062D\u062C\u064A \u0645\u062C\u064A \u0641\u0645\u064A",
  .words 0xFDC2 "\u0628\u062D\u064A \u0643\u0645\u0645 \u0639\u062C\u0645 \u0635\u0645\u0645",
  .words 0xFDC6 "\u0633\u062E\u064A \u0646\u062C\u064A",
  .words 0xFDF0 "\u0635\u0644\u06D2 \u0642\u0644\u06D2 \u0627\u0644\u0644\u0647",
  .words 0xFDF3 "\u0627\u0643\u0628\u0631 \u0645\u062D\u0645\u062F \u0635\u0644\u0639\u0645",
  .words 0xFDF6 "\u0631\u0633\u0648\u0644 \u0639\u0644\u064A\u0647 \u0648\u0633\u0644\u0645",
  .words 0xFDF9 "\u0635\u0644\u0649", .words 0xFDFC "\u0631\u06CC\u0627\u0644",
  .words 0xFE30 "..", .letters 0xFE31 "—–__()\x7b\x7d〔〕【】《》〈〉", .letters 0xFE4D "___,、.",
  .letters 0xFE54 ";:?!—()\x7b\x7d〔〕#&*+-<>=", .letters 0xFE68 "\\$%@",
  .words 0xFE71 "\u0640\u064B", .words 0xFE77 "\u0640\u064E", .words 0xFE79 "\u0640\u064F",
  .words 0xFE7B "\u0640\u0650", .words 0xFE7D "\u0640\u0651",
  .words 0xFE7F "\u0640\u0652 \u0621 \u0627\u0653 \u0627\u0653 \u0627\u0654 \u0627\u0654",
  .words 0xFE85 "\u0648\u0654 \u0648\u0654 \u0627\u0655 \u0627\u0655 \u064A\u0654",
  .words 0xFE8A "\u064A\u0654 \u064A\u0654 \u064A\u0654",
  .letters 0xFE8D "\u0627\u0627\u0628\u0628\u0628\u0628\u0629\u0629\u062A\u062A\u062A\u062A",
  .letters 0xFE99 "\u062B\u062B\u062B\u062B\u062C\u062C\u062C\u062C\u062D\u062D\u062D\u062D",
  .letters 0xFEA5 "\u062E\u062E\u062E\u062E\u062F\u062F\u0630\u0630\u0631\u0631\u0632\u0632",
  .letters 0xFEB1 "\u0633\u0633\u0633\u0633\u0634\u0634\u0634\u0634\u0635\u0635\u0635\u0635",
  .letters 0xFEBD "\u0636\u0636\u0636\u0636\u0637\u0637\u0637\u0637\u0638\u0638\u0638\u0638",
  .letters 0xFEC9 "\u0639\u0639\u0639\u0639\u063A\u063A\u063A\u063A\u0641\u0641\u0641\u0641",
  .letters 0xFED5 "\u0642\u0642\u0642\u0642\u0643\u0643\u0643\u0643\u0644\u0644\u0644\u0644",
  .letters 0xFEE1 "\u0645\u0645\u0645\u0645\u0646\u0646\u0646\u0646\u0647\u0647\u0647\u0647",
  .letters 0xFEED "\u0648\u0648\u0649\u0649\u064A\u064A\u064A\u064A",
  .words 0xFEF5 "\u0644\u0627\u0653 \u0644\u0627\u0653 \u0644\u0627\u0654 \u0644\u0627\u0654",
  .words 0xFEF9 "\u0644\u0627\u0655 \u0644\u0627\u0655 \u0644\u0627 \u0644\u0627",
  .letters 0xFF5F "⦅⦆。「」、・ヲァィゥェォャュョッーアイウエオカキクケコサシスセソタチツテト", .letters 0xFF8B "ヒフヘホ",
  .letters 0xFF94 "ヤユ",
  .letters 0xFF9C "ワン\u3099\u309A\u1160\u1100\u1101\u11AA\u1102\u11AC\u11AD",
  .letters 0xFFA7 "\u1103\u1104\u1105", .letters 0xFFB0 "\u111A\u1106\u1107\u1108\u1121",
  .letters 0xFFDA "\u1173\u1174\u1175", .letters 0xFFE0 "¢£¬", .letters 0xFFE4 "¦¥₩",
  .letters 0xFFE8 "│", .letters 0xFFED "■○", .words 0x1D15E "𝅗𝅥 𝅘𝅥 𝅘𝅥𝅮 𝅘𝅥𝅯 𝅘𝅥𝅰 𝅘𝅥𝅱 𝅘𝅥𝅲",
  .words 0x1D1BB "𝆹𝅥 𝆺𝅥 𝆹𝅥𝅮 𝆺𝅥𝅮 𝆹𝅥𝅯 𝆺𝅥𝅯", .letters 0x1D49C "a", .letters 0x1D49E "cd",
  .letters 0x1D4A2 "g", .letters 0x1D4A5 "jk", .letters 0x1D4BB "f", .letters 0x1D4C2 "mn",
  .letters 0x1D504 "ab", .letters 0x1D538 "ab", .letters 0x1D546 "o", .letters 0x1D6B9 "θ",
  .letters 0x1D6C1 "∇", .letters 0x1D6D3 "σ", .letters 0x1D6DB "∂εθκφρπ", .letters 0x1D6F3 "θ",
  .letters 0x1D6FB "∇", .letters 0x1D70D "σ", .letters 0x1D715 "∂εθκφρπ", .letters 0x1D72D "θ",
  .letters 0x1D735 "∇", .letters 0x1D747 "σ", .letters 0x1D74F "∂εθκφρπ", .letters 0x1D767 "θ",
  .letters 0x1D76F "∇", .letters 0x1D781 "σ", .letters 0x1D789 "∂εθκφρπ", .letters 0x1D7A1 "θ",
  .letters 0x1D7A9 "∇", .letters 0x1D7BB "σ", .letters 0x1D7C3 "∂εθκφρπ",
  .letters 0x2F800 "丽丸乁𠄢你侮侻倂偺備僧像㒞𠘺免兔兤具𠔜㒹內再𠕋冗冤仌冬况𩇟凵刃㓟刻剆割剷㔕勇勉勤勺包匆北卉卑博即卽卿卿卿𠨬灰及叟𠭣叫叱吆",
  .letters 0x2F83C "咞吸呈周咢哶唐啓啣善善喙喫喳嗂圖嘆圗噑噴切壮城埴堍型堲報墬𡓤売壷夆多夢奢𡚨𡛪姬娛娧姘婦㛮𡍪嬈嬾嬾𡧈寃寘寧寳𡬘寿将弳尢㞁屠",
  .letters 0x2F878 "屮峀岍𡷤嵃𡷦嵮嵫嵼巡巢㠯巽帨帽幩㡢𢆃㡼庰庳庶廊𪎒廾𢌱𢌱舁弢弢㣇𣊸𦇚形彫㣣徚忍志忹悁㤺㤜悔𢛔惇慈慌慎慌慺憎憲憤憯懞懲懶成戛",
  .letters 0x2F8B4 "扝抱拔捐𢬌挽拼捨掃揤𢯱搢揅掩㨮摩摾撝摷㩬敏敬𣀊旣書晉㬙暑㬈㫤冒冕最暜肭䏙朗望朡杞杓𣏃㭉柺枅桒梅𣑭梎栟椔㮝楂榣槪檨𣚣櫛㰘次",
  .letters 0x2F8F0 "𣢧歔㱎歲殟殺殻𣪍𡴋𣫺汎𣲼沿泍汧洖派海流浩浸涅𣴞洴港湮㴳滋滇𣻑淹潮𣽞𣾎濆瀹瀞瀛㶖灊災灷炭𠔥煅𤉣熜䎫爨爵牐𤘈犀犕𤜵𤠔獺王㺬玥",
  .letters 0x2F92C "㺸㺸瑇瑜瑱璅瓊㼛甤𤰶甾𤲒異𢆟瘐𤾡𤾸𥁄㿼䀈直𥃳𥃲𥄙𥄳眞真真睊䀹瞋䁆䂖𥐝硎碌磌䃣𥘦祖𥚚𥛅福秫䄯穀穊穏𥥼𥪧𥪧窮䈂𥮫篆築䈧𥲀糒䊠",
  .letters 0x2F968 "糨糣紀𥾆絣䌁緇縂繅䌴𦈨𦉇䍙𦋙罺𦌾羕翺者𦓚𦔣聠𦖨聰𣍟䏕育脃䐋脾媵𦞧𦞵𣎓𣎜舁舄辞䑫芑芋芝劳花芳芽苦𦬼若茝荣莭茣莽菧著荓菊菌菜",
  .letters 0x2F9A4 "𦰶𦵫𦳕䔫蓱蓳蔖𧏊蕤𦼬䕝䕡𦾱𧃒䕫虐虜虧虩蚩蚈蜎蛢蝹蜨蝫螆䵗蟡蠁䗹衠衣𧙧裗裞䘵裺㒻𧢮𧥦䚾䛇誠諭變豕𧲨貫賁贛起𧼯𠠄跋趼跰𠣞軔輸",
  .letters 0x2F9E0 "𨗒𨗭邔郱鄑𨜮鄛鈸鋗鋘鉼鏹鐕𨯺開䦕閷𨵷䧦雃嶲霣𩅅𩈚䩮䩶韠𩐊䪲𩒖頋頋頩𩖶飢䬳餩馧駂駾䯎𩬰鬒鱀鳽䳎䳭鵧𪃎䳸𪄅𪈎𪊑麻䵖黹黾鼅鼏鼖",
  .letters 0x2FA1C "鼻𪘀"]

/-- The plain form of a character, if it is not just its small letter. -/
def plainForm? (c : Char) : Option Text :=
  match plainRuns.find? (·.covers c.toNat) with
  | some run => some [Char.ofNat (run.apply c.toNat)]
  | none => (blankForms.findSome? (·.form? c)).or (otherForms.findSome? (·.form? c))

end SchemaChart
