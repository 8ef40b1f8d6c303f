/-
Composed text.

* `compose?` — the character that a character and a mark behind it make together;
* `decompose` — the parts of a composed character;
* `normal` — the composed form of a text: texts that differ only in how their marks are written
  have the same one.

Design notes: a text is taken apart, the marks at each character are sorted by combining class,
and what can be joined is joined from the left.  A mark joins unless one before it has its own
class or a higher one.  The syllables of Hangul are numbered by their letters, so that they need
no table.
-/
import SageEditor.Text.Mark

namespace SageEditor.Text

/-- For each mark the characters that it joins, each followed by what the two make. -/
def compositions : List (Nat × String) := [
  (0x300, "aàeèiìnǹoòuùwẁyỳâầêềôồüǜăằēḕōṑơờưừαὰεὲηὴιὶοὸυὺωὼϊῒϋῢеѐиѝἀἂἁἃἐἒἑἓἠἢἡἣἰἲἱἳὀὂὁὃὐὒὑὓὠὢὡὣ"),
  (0x301, "aácćeégǵiíkḱlĺmḿnńoópṕrŕsśuúwẃyýzźâấåǻæǽçḉêếïḯôốõṍøǿüǘăắēḗōṓũṹơớưứαάεέηήιίοόυύωώϊΐϋΰгѓкќἀἄἁἅἐἔἑἕἠἤἡἥἰἴἱἵὀὄὁὅὐὔὑὕὠὤὡὥ"),
  (0x302, "aâcĉeêgĝhĥiîjĵoôsŝuûwŵyŷzẑạậẹệọộ"),
  (0x303, "aãeẽiĩnñoõuũvṽyỹâẫêễôỗăẵơỡưữ"),
  (0x304, "aāeēgḡiīoōuūyȳäǟæǣõȭöȫüǖǫǭȧǡȯȱαᾱιῑυῡиӣуӯḷḹṛṝ"),
  (0x306, "aăeĕgğiĭoŏuŭȩḝαᾰιῐυῠаӑеӗжӂийуўạặ"),
  (0x307, "aȧbḃcċdḋeėfḟgġhḣmṁnṅoȯpṗrṙsṡtṫwẇxẋyẏzżśṥšṧṣṩ𐗒𐗉𐗚𐗤"),
  (0x308, "aäeëhḧiïoötẗuüwẅxẍyÿõṏūṻιϊυϋаӓеёжӝзӟиӥоӧуӱчӵыӹэӭіїәӛөӫ"),
  (0x309, "aảeẻiỉoỏuủyỷâẩêểôổăẳơởưử"),
  (0x30a, "aåuůwẘyẙ"),
  (0x30b, "oőuűуӳ"),
  (0x30c, "aǎcčdďeěgǧhȟiǐjǰkǩlľnňoǒrřsštťuǔzžüǚʒǯ"),
  (0x30f, "aȁeȅiȉoȍrȑuȕѵѷ"),
  (0x311, "aȃeȇiȋoȏrȓuȗ"),
  (0x313, "αἀεἐηἠιἰοὀρῤυὐωὠ"),
  (0x314, "αἁεἑηἡιἱοὁρῥυὑωὡ"),
  (0x31b, "oơuư"),
  (0x323, "aạbḅdḍeẹhḥiịkḳlḷmṃnṇoọrṛsṣtṭuụvṿwẉyỵzẓơợưự"),
  (0x324, "uṳ"),
  (0x325, "aḁ"),
  (0x326, "sștț"),
  (0x327, "cçdḑeȩgģhḩkķlļnņrŗsştţ"),
  (0x328, "aąeęiįoǫuų"),
  (0x32d, "dḓeḙlḽnṋtṱuṷ"),
  (0x32e, "hḫ"),
  (0x330, "eḛiḭuṵ"),
  (0x331, "bḇdḏhẖkḵlḻnṉrṟtṯzẕ"),
  (0x338, "<≮=≠>≯←↚→↛↔↮⇐⇍⇒⇏⇔⇎∃∄∈∉∋∌∣∤∥∦∼≁≃≄≅≇≈≉≍≭≡≢≤≰≥≱≲≴≳≵≶≸≷≹≺⊀≻⊁≼⋠≽⋡⊂⊄⊃⊅⊆⊈⊇⊉⊑⋢⊒⋣⊢⊬⊨⊭⊩⊮⊫⊯⊲⋪⊳⋫⊴⋬⊵⋭"),
  (0x342, "αᾶηῆιῖυῦωῶϊῗϋῧἀἆἁἇἠἦἡἧἰἶἱἷὐὖὑὗὠὦὡὧ"),
  (0x653, "\u0627\u0622"),
  (0x654, "\u0627\u0623\u0648\u0624\u064a\u0626\u06c1\u06c2\u06d2\u06d3\u06d5\u06c0"),
  (0x655, "\u0627\u0625"),
  (0x93c, "नऩरऱळऴ"),
  (0x9be, "\u09c7\u09cb"),
  (0x9d7, "\u09c7\u09cc"),
  (0xb3e, "\u0b47\u0b4b"),
  (0xb56, "\u0b47\u0b48"),
  (0xb57, "\u0b47\u0b4c"),
  (0xbbe, "\u0bc6\u0bca\u0bc7\u0bcb"),
  (0xbd7, "ஒஔ\u0bc6\u0bcc"),
  (0xc56, "\u0c46\u0c48"),
  (0xcc2, "\u0cc6\u0cca"),
  (0xcd5, "\u0cbf\u0cc0\u0cc6\u0cc7\u0cca\u0ccb"),
  (0xcd6, "\u0cc6\u0cc8"),
  (0xd3e, "\u0d46\u0d4a\u0d47\u0d4b"),
  (0xd57, "\u0d46\u0d4c"),
  (0xdca, "\u0dd9\u0dda\u0ddc\u0ddd"),
  (0xdcf, "\u0dd9\u0ddc"),
  (0xddf, "\u0dd9\u0dde"),
  (0x102e, "ဥဦ"),
  (0x1b35, "ᬅᬆᬇᬈᬉᬊᬋᬌᬍᬎᬑᬒ\u1b3a\u1b3b\u1b3c\u1b3d\u1b3e\u1b40\u1b3f\u1b41\u1b42\u1b43"),
  (0x3099, "うゔかがきぎくぐけげこごさざしじすずせぜそぞただちぢつづてでとどはばひびふぶへべほぼゝゞウヴカガキギクグケゲコゴサザシジスズセゼソゾタダチヂツヅテデトドハバヒビフブヘベホボワヷヰヸヱヹヲヺヽヾ"),
  (0x309a, "はぱひぴふぷへぺほぽハパヒピフプヘペホポ"),
  (0x110ba, "𑂙𑂚𑂛𑂜𑂥𑂫"),
  (0x11127, "𑄱𑄮𑄲𑄯"),
  (0x1133e, "𑍇𑍋"),
  (0x11357, "𑍇𑍌"),
  (0x113b8, "𑏅𑎸"),
  (0x113bb, "𑎄𑎅"),
  (0x113c2, "𑎋𑎎𑏅𑏂"),
  (0x113c9, "𑎂𑎃𑎐𑎑𑏅𑏉"),
  (0x114b0, "𑒹𑒼"),
  (0x114ba, "𑒹𑒻"),
  (0x114bd, "𑒹𑒾"),
  (0x115af, "𑖸𑖺𑖹𑖻"),
  (0x11930, "𑤵𑤸"),
  (0x1611e, "𖄡𖄞"),
  (0x1611f, "𖄦𖄡𖄦𖄢𖄧𖄩𖄤"),
  (0x16120, "𖄨𖄡𖄨"),
  (0x16129, "𖄡𖄩"),
  (0x16d67, "𖵣𖵪𖵨𖵩𖵪")]

/-- The members of a list, two by two. -/
def inPairs : List Char → List (Char × Char)
  | a :: b :: rest => (a, b) :: inPairs rest
  | _ => []

/-! ### Syllables of Hangul -/

/-- The syllable that a leading and a middle letter make, or one without a last letter with one. -/
def syllable? (a b : Char) : Option Char :=
  let m := a.toNat
  let n := b.toNat
  if 0x1100 ≤ m && m ≤ 0x1112 && 0x1161 ≤ n && n ≤ 0x1175 then
    some (Char.ofNat (0xac00 + ((m - 0x1100) * 21 + (n - 0x1161)) * 28))
  else if 0xac00 ≤ m && m ≤ 0xd7a3 && (m - 0xac00) % 28 == 0 && 0x11a8 ≤ n && n ≤ 0x11c2 then
    some (Char.ofNat (m + (n - 0x11a7)))
  else none

def letters? (c : Char) : Option (List Char) :=
  let n := c.toNat
  if 0xac00 ≤ n && n ≤ 0xd7a3 then
    let k := n - 0xac00
    let last := k % 28
    some ([Char.ofNat (0x1100 + k / 588), Char.ofNat (0x1161 + k / 28 % 21)] ++
      if last == 0 then [] else [Char.ofNat (0x11a7 + last)])
  else none

/-! ### Joining and taking apart -/

/-- The character that two characters in a row make. -/
def compose? (a b : Char) : Option Char :=
  match syllable? a b with
  | some c => some c
  | none => (compositions.lookup b.toNat).bind fun made => (inPairs made.toList).lookup a

/-- The character and the mark that make a character. -/
def halves? (c : Char) : Option (Char × Char) :=
  if c.toNat < 0xc0 then none
  else
    compositions.findSome? fun (mark, made) =>
      ((inPairs made.toList).find? (·.2 == c)).map fun (base, _) => (base, Char.ofNat mark)

/-- The parts of a character on which at most `marks` marks are piled up. -/
def decomposeUpTo : (marks : Nat) → Char → List Char
  | 0, c => [c]
  | marks + 1, c =>
    match halves? c with
    | some (base, mark) => decomposeUpTo marks base ++ [mark]
    | none => [c]

/-- The parts of a character: a syllable has letters, any other at most three marks. -/
def decompose (c : Char) : List Char :=
  (letters? c).getD (decomposeUpTo 3 c)

/-- Puts a mark in front of sorted text, behind the marks of a lower class. -/
def insertMark (c : Char) : List Char → List Char
  | [] => [c]
  | d :: rest =>
    if 0 < combiningClass d && combiningClass d < combiningClass c then d :: insertMark c rest
    else c :: d :: rest

/-- Joins what can be joined, where `passed` holds the marks since `base` that did not join,
last one first. -/
def composeFrom (base : Char) : (passed : List Char) → List Char → List Char
  | passed, [] => base :: passed.reverse
  | passed, c :: rest =>
    -- A mark of its class, or of a higher one, in between keeps it apart.
    let isFree := match passed with
      | [] => true
      | mark :: _ => combiningClass mark < combiningClass c
    match if isFree then compose? base c else none with
    | some made => composeFrom made passed rest
    | none =>
      if combiningClass c == 0 then base :: passed.reverse ++ composeFrom c [] rest
      else composeFrom base (c :: passed) rest

/-- The composed form of a text. -/
def normal (cs : List Char) : List Char :=
  match (cs.flatMap decompose).foldr insertMark [] with
  | [] => []
  | c :: rest => composeFrom c [] rest

end SageEditor.Text
