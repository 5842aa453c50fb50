import ClientGen.Text.Blank
import ClientGen.Text.Case
import ClientGen.Text.Hex
import ClientGen.Text.Lines
import ClientGen.Text.Search

/-!
# Names of styles

A style is written with words for attributes, for the colour and for the colour behind it, and a
link.  `styleName` gives one name to all ways of writing a style: attributes in their order, the
colours, the link.  What is no style is its own name.
-/

namespace ClientGen.Markup

/-! ### Words -/

/-- The words of a text. -/
def words (text : String) : List String :=
  let spaced := String.ofList (text.toList.map fun c => if Text.isBlank c then ' ' else c)
  (Text.split ' ' spaced).filter fun word => !word.isEmpty

/-- The names of colours, with blanks between them. -/
def colorLines : List String := [
  "aquamarine1 aquamarine3 black blue blue1 blue3 blue_violet bright_black bright_blue bright_cyan",
  "bright_green bright_magenta bright_red bright_white bright_yellow cadet_blue chartreuse1",
  "chartreuse2 chartreuse3 chartreuse4 cornflower_blue cornsilk1 cyan cyan1 cyan2 cyan3 dark_blue",
  "dark_cyan dark_goldenrod dark_green dark_khaki dark_magenta dark_olive_green1 dark_olive_green2",
  "dark_olive_green3 dark_orange dark_orange3 dark_red dark_sea_green dark_sea_green1",
  "dark_sea_green2 dark_sea_green3 dark_sea_green4 dark_slate_gray1 dark_slate_gray2",
  "dark_slate_gray3 dark_turquoise dark_violet deep_pink1 deep_pink2 deep_pink3 deep_pink4",
  "deep_sky_blue1 deep_sky_blue2 deep_sky_blue3 deep_sky_blue4 dodger_blue1 dodger_blue2",
  "dodger_blue3 gold1 gold3 gray0 gray100 gray11 gray15 gray19 gray23 gray27 gray3 gray30 gray35",
  "gray37 gray39 gray42 gray46 gray50 gray53 gray54 gray58 gray62 gray63 gray66 gray69 gray7",
  "gray70 gray74 gray78 gray82 gray84 gray85 gray89 gray93 green green1 green3 green4 green_yellow",
  "grey0 grey100 grey11 grey15 grey19 grey23 grey27 grey3 grey30 grey35 grey37 grey39 grey42",
  "grey46 grey50 grey53 grey54 grey58 grey62 grey63 grey66 grey69 grey7 grey70 grey74 grey78",
  "grey82 grey84 grey85 grey89 grey93 honeydew2 hot_pink hot_pink2 hot_pink3 indian_red",
  "indian_red1 khaki1 khaki3 light_coral light_cyan1 light_cyan3 light_goldenrod1 light_goldenrod2",
  "light_goldenrod3 light_green light_pink1 light_pink3 light_pink4 light_salmon1 light_salmon3",
  "light_sea_green light_sky_blue1 light_sky_blue3 light_slate_blue light_slate_gray",
  "light_slate_grey light_steel_blue light_steel_blue1 light_steel_blue3 light_yellow3 magenta",
  "magenta1 magenta2 magenta3 medium_orchid medium_orchid1 medium_orchid3 medium_purple",
  "medium_purple1 medium_purple2 medium_purple3 medium_purple4 medium_spring_green",
  "medium_turquoise medium_violet_red misty_rose1 misty_rose3 navajo_white1 navajo_white3",
  "navy_blue orange1 orange3 orange4 orange_red1 orchid orchid1 orchid2 pale_green1 pale_green3",
  "pale_turquoise1 pale_turquoise4 pale_violet_red1 pink1 pink3 plum1 plum2 plum3 plum4 purple",
  "purple3 purple4 red red1 red3 rosy_brown royal_blue1 salmon1 sandy_brown sea_green1 sea_green2",
  "sea_green3 sky_blue1 sky_blue2 sky_blue3 slate_blue1 slate_blue3 spring_green1 spring_green2",
  "spring_green3 spring_green4 steel_blue steel_blue1 steel_blue3 tan thistle1 thistle3 turquoise2",
  "turquoise4 violet wheat1 wheat4 white yellow yellow1 yellow2 yellow3 yellow4"]

/-- The names of colours. -/
def colorNames : List String :=
  colorLines.flatMap words

/-- Whether digits write a number up to 255. -/
def isOctet (digits : List Char) : Bool :=
  !digits.isEmpty && digits.all Char.isDigit &&
    digits.foldl (fun n c => 10 * n + (c.toNat - '0'.toNat)) 0 ≤ 255

/-- The characters between a word and a bracket that closes it. -/
def inBrackets? (word : String) (text : List Char) : Option (List Char) :=
  let opening := word.toList ++ ['(']
  if opening.isPrefixOf text && text.getLast? = some ')' then
    some ((text.drop opening.length).dropLast)
  else none

/-- Whether a word in small letters stands for a colour: by name, by the number of one, or by the
parts of red, green and blue. -/
def isColor (word : String) : Bool :=
  let text := word.toList
  let isHex := text.head? = some '#' && text.length = 7 &&
    (text.drop 1).all fun c => (Text.hexValue? c).isSome
  let isNumber := (inBrackets? "color" text).any fun digits => digits.length ≤ 3 && isOctet digits
  let isMixed := (inBrackets? "rgb" text).any fun inside =>
    let parts := Text.splitChars ',' inside
    parts.length = 3 && parts.all isOctet
  word == "default" || colorNames.contains word || isHex || isNumber || isMixed

/-- The words for attributes of styles, each with its other spellings, in the order in which they
are named. -/
def attributeNames : List (String × List String) :=
  [("bold", ["bold", "b"]), ("dim", ["dim", "d"]), ("italic", ["italic", "i"]),
   ("underline", ["underline", "u"]), ("blink", ["blink"]), ("blink2", ["blink2"]),
   ("reverse", ["reverse", "r"]), ("conceal", ["conceal", "c"]), ("strike", ["strike", "s"]),
   ("underline2", ["underline2", "uu"]), ("frame", ["frame"]), ("encircle", ["encircle"]),
   ("overline", ["overline", "o"])]

/-- The attribute of a word. -/
def attribute? (word : String) : Option String :=
  (attributeNames.find? fun entry => entry.2.contains word).map (·.1)

/-! ### Styles -/

/-- A style: attributes that it sets or takes away, the last ones first, and the rest. -/
structure Style where
  attributes : List (String × Bool)
  color : Option String
  background : Option String
  link : Option String
  deriving Repr, DecidableEq

namespace Style

/-- The style that changes nothing. -/
def plain : Style := ⟨[], none, none, none⟩

/-- Takes up a word in small letters for an attribute or a colour. -/
def withWord? (style : Style) (word : String) : Option Style :=
  match attribute? word with
  | some name => some { style with attributes := (name, true) :: style.attributes }
  | none => if isColor word then some { style with color := some word } else none

/-- Takes up two words of which the first says what the second one is for; none of them is taken up
when it says nothing. -/
def withWords? (style : Style) (first second : String) : Option (Option Style) :=
  let small := Text.lower second
  match first with
  | "on" => some (if isColor small then some { style with background := some small } else none)
  | "not" => some ((attribute? second).map fun name =>
      { style with attributes := (name, false) :: style.attributes })
  | "link" => some (some { style with link := some second })
  | _ => none

/-- Reads words into a style. -/
def ofWords? (style : Style) : List String → Option Style
  | [] => some style
  | [word] => withWord? style (Text.lower word)
  | first :: second :: rest =>
    match withWords? style (Text.lower first) second with
    | some style? => style?.bind fun style => ofWords? style rest
    | none =>
      (withWord? style (Text.lower first)).bind fun style => ofWords? style (second :: rest)

/-- The one way of writing a style. -/
def name (style : Style) : String :=
  let attributes := attributeNames.filterMap fun (name, _) =>
    (style.attributes.lookup name).map fun isSet => if isSet then name else "not " ++ name
  let background := style.background.map fun color => "on " ++ color
  let link := style.link.map fun target => "link " ++ target
  let parts := attributes ++ style.color.toList ++ background.toList ++ link.toList
  if parts.isEmpty then "none" else Text.join " " parts

end Style

/-- The name of a style, by which tags that open and close it find each other. -/
def styleName (text : String) : String :=
  match Style.plain.ofWords? (words text) with
  | some style => style.name
  | none => Text.lower (String.ofList (Text.trimChars text.toList))

end ClientGen.Markup
