import ClientGen.Text.CombiningClass

/-!
# Composed characters

A letter and a mark may be one character together.  A text is composed when no letters and marks are
left that are, and its marks stand in the order of their classes (`isComposed`, for the characters
of names in Unicode 14).
-/

namespace ClientGen.Text

/-! ### Letters with a mark -/

/-- The marks, each with letters that are followed by what they are together with the mark. -/
def compositions : List (Nat × String) := [
  (0x300, "aàeèiìnǹoòuùwẁyỳâầêềôồüǜăằēḕōṑơờưừαὰεὲηὴιὶοὸυὺωὼϊῒϋῢеѐиѝἀἂἁἃἐἒἑἓἠἢἡἣἰἲἱἳὀὂὁὃὐὒὑὓὠὢὡὣ"),
  (0x301, "aácćeégǵiíkḱlĺmḿnńoópṕrŕsśuúwẃyýzźâấåǻæǽçḉêếïḯôốõṍøǿüǘăắēḗōṓũṹơớưứαάεέηήιίοόυύωώϊΐϋΰ"),
  (0x301, "гѓкќἀἄἁἅἐἔἑἕἠἤἡἥἰἴἱἵὀὄὁὅὐὔὑὕὠὤὡὥ"), (0x302, "aâcĉeêgĝhĥiîjĵoôsŝuûwŵyŷzẑạậẹệọộ"),
  (0x303, "aãeẽiĩnñoõuũvṽyỹâẫêễôỗăẵơỡưữ"), (0x304, "aāeēgḡiīoōuūyȳäǟæǣõȭöȫüǖǫǭȧǡȯȱαᾱιῑυῡиӣуӯḷḹṛṝ"),
  (0x306, "aăeĕgğiĭoŏuŭȩḝαᾰιῐυῠаӑеӗжӂийуўạặ"),
  (0x307, "aȧbḃcċdḋeėfḟgġhḣmṁnṅoȯpṗrṙsṡtṫwẇxẋyẏzżśṥšṧṣṩ"),
  (0x308, "aäeëhḧiïoötẗuüwẅxẍyÿõṏūṻιϊυϋаӓеёжӝзӟиӥоӧуӱчӵыӹэӭіїәӛөӫ"),
  (0x309, "aảeẻiỉoỏuủyỷâẩêểôổăẳơởưử"), (0x30a, "aåuůwẘyẙ"), (0x30b, "oőuűуӳ"),
  (0x30c, "aǎcčdďeěgǧhȟiǐjǰkǩlľnňoǒrřsštťuǔzžüǚʒǯ"), (0x30f, "aȁeȅiȉoȍrȑuȕѵѷ"),
  (0x311, "aȃeȇiȋoȏrȓuȗ"), (0x313, "αἀεἐηἠιἰοὀρῤυὐωὠ"), (0x314, "αἁεἑηἡιἱοὁρῥυὑωὡ"),
  (0x31b, "oơuư"), (0x323, "aạbḅdḍeẹhḥiịkḳlḷmṃnṇoọrṛsṣtṭuụvṿwẉyỵzẓơợưự"), (0x324, "uṳ"),
  (0x325, "aḁ"), (0x326, "sștț"), (0x327, "cçdḑeȩgģhḩkķlļnņrŗsştţ"), (0x328, "aąeęiįoǫuų"),
  (0x32d, "dḓeḙlḽnṋtṱuṷ"), (0x32e, "hḫ"), (0x330, "eḛiḭuṵ"), (0x331, "bḇdḏhẖkḵlḻnṉrṟtṯzẕ"),
  (0x342, "αᾶηῆιῖυῦωῶϊῗϋῧἀἆἁἇἠἦἡἧἰἶἱἷὐὖὑὗὠὦὡὧ"), (0x653, "\u0627\u0622"),
  (0x654, "\u0627\u0623\u0648\u0624\u064a\u0626\u06c1\u06c2\u06d2\u06d3\u06d5\u06c0"),
  (0x655, "\u0627\u0625"), (0x93c, "नऩरऱळऴ"), (0x9be, "\u09c7\u09cb"), (0x9d7, "\u09c7\u09cc"),
  (0xb3e, "\u0b47\u0b4b"), (0xb56, "\u0b47\u0b48"), (0xb57, "\u0b47\u0b4c"),
  (0xbbe, "\u0bc6\u0bca\u0bc7\u0bcb"), (0xbd7, "ஒஔ\u0bc6\u0bcc"), (0xc56, "\u0c46\u0c48"),
  (0xcc2, "\u0cc6\u0cca"), (0xcd5, "\u0cbf\u0cc0\u0cc6\u0cc7\u0cca\u0ccb"), (0xcd6, "\u0cc6\u0cc8"),
  (0xd3e, "\u0d46\u0d4a\u0d47\u0d4b"), (0xd57, "\u0d46\u0d4c"), (0xdca, "\u0dd9\u0dda\u0ddc\u0ddd"),
  (0xdcf, "\u0dd9\u0ddc"), (0xddf, "\u0dd9\u0dde"), (0x102e, "ဥဦ"),
  (0x1b35, "ᬅᬆᬇᬈᬉᬊᬋᬌᬍᬎᬑᬒ\u1b3a\u1b3b\u1b3c\u1b3d\u1b3e\u1b40\u1b3f\u1b41\u1b42\u1b43"),
  (0x3099, "うゔかがきぎくぐけげこごさざしじすずせぜそぞただちぢつづてでとどはばひびふぶへべほぼゝゞウヴカガキギクグケゲコゴサザシジスズセゼソゾタダチヂツヅテデトドハバヒビフブヘベ"),
  (0x3099, "ホボワヷヰヸヱヹヲヺヽヾ"), (0x309a, "はぱひぴふぷへぺほぽハパヒピフプヘペホポ"), (0x110ba, "𑂙𑂚𑂛𑂜𑂥𑂫"),
  (0x11127, "𑄱𑄮𑄲𑄯"), (0x1133e, "𑍇𑍋"), (0x11357, "𑍇𑍌"), (0x114b0, "𑒹𑒼"), (0x114ba, "𑒹𑒻"),
  (0x114bd, "𑒹𑒾"), (0x115af, "𑖸𑖺𑖹𑖻"), (0x11930, "𑤵𑤸")]

/-- The letters, marks and composed characters of a run for one mark. -/
def triples (mark : Char) : List Char → List (Char × Char × Char)
  | letter :: whole :: rest => (letter, mark, whole) :: triples mark rest
  | _ => []

/-- All composed characters behind their letters and marks. -/
def composed : List (Char × Char × Char) :=
  compositions.flatMap fun (mark, letters) => triples (Char.ofNat mark) letters.toList

/-- What a letter and a mark are together. -/
def compose? (letter mark : Char) : Option Char :=
  (composed.find? fun (a, b, _) => a == letter && b == mark).map (·.2.2)

/-- The letter and the mark of a composed character. -/
def decompose? (whole : Char) : Option (Char × Char) :=
  (composed.find? fun (_, _, c) => c == whole).map fun (a, b, _) => (a, b)

/-! ### Texts -/

/-- The text with letters and marks for its composed characters. -/
def decomposeOnce (text : List Char) : List Char :=
  text.flatMap fun c => match decompose? c with
    | some (letter, mark) => [letter, mark]
    | none => [c]

/-- The text with letters and marks alone: a character has at most two marks. -/
def decompose (text : List Char) : List Char :=
  decomposeOnce (decomposeOnce text)

/-- Puts a character behind others whose marks are in order: it passes marks of greater classes. -/
def insertMark (text : List Char) (c : Char) : List Char :=
  -- A character of class zero is never passed, and passes none.
  let passed := text.reverse.takeWhile fun d =>
    combiningClass c ≠ 0 && combiningClass c < combiningClass d
  text.take (text.length - passed.length) ++ c :: passed.reverse

/-- The text with its marks in order. -/
def orderMarks (text : List Char) : List Char :=
  text.foldl insertMark []

/-- Composes a text behind a letter and the marks that have not become part of it, the last one
first.  A mark is out of reach of the letter when one of its class stands between them. -/
def composeFrom (letter : Char) (marks : List Char) : List Char → List Char
  | [] => letter :: marks.reverse
  | c :: rest =>
    let inReach := match marks.head? with
      | none => true
      | some mark => combiningClass mark < combiningClass c
    match if inReach then compose? letter c else none with
    | some whole => composeFrom whole marks rest
    | none =>
      if combiningClass c = 0 then letter :: marks.reverse ++ composeFrom c [] rest
      else composeFrom letter (c :: marks) rest

/-- The text with composed characters wherever there are some. -/
def compose (text : List Char) : List Char :=
  match orderMarks (decompose text) with
  | [] => []
  | c :: rest => composeFrom c [] rest

/-- Whether a text is composed. -/
def isComposed (text : List Char) : Bool :=
  compose text == text

end ClientGen.Text
