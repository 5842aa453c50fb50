import ClientGen.Text.Case
import ClientGen.Text.CombiningClass
import ClientGen.Text.Composition
import ClientGen.Text.Lines
import ClientGen.Text.Punycode
import ClientGen.Text.Script

/-!
# Host names

A host name consists of labels with points between them.  A label with other characters than ASCII
letters, digits and hyphens is requested under a label that spells it out in these, after `xn--`;
`HostName.spelled?` finds the name under which a host is requested.

Most characters of names may stand anywhere in a label, some only beside certain others
(`areNameChars`).  A label that is written from right to left holds nothing that is not
(`hasOneDirection`).
-/

namespace ClientGen.Net.HostName

open Text

/-! ### Characters with conditions -/

/-- Whether a mark that suppresses a vowel stands last in front of a place. -/
def isBehindVirama (before : List Char) : Bool :=
  before.head?.any fun c => combiningClass c = 9

/-- Whether the letters around a place, the characters in front of it being reversed, join. -/
def joinsAcross (before after : List Char) : Bool :=
  (before.dropWhile isTransparent).head?.any joinsNext &&
    (after.dropWhile isTransparent).head?.any joinsPrevious

/-- A digit with an Arabic shape. -/
def isArabicDigit (c : Char) : Bool :=
  0x660 ≤ c.toNat && c.toNat ≤ 0x669

/-- A digit with a Persian shape. -/
def isPersianDigit (c : Char) : Bool :=
  0x6f0 ≤ c.toNat && c.toNat ≤ 0x6f9

/-- Whether a character may stand between others, those in front being reversed. -/
def isNameCharBetween (before : List Char) (c : Char) (after : List Char) : Bool :=
  let others := before ++ after
  if isNameChar c then true
  else if isArabicDigit c then !others.any isPersianDigit
  else if isPersianDigit c then !others.any isArabicDigit
  else match c.toNat with
    | 0x200c => isBehindVirama before || joinsAcross before after
    | 0x200d => isBehindVirama before
    | 0xb7 => before.head? = some 'l' && after.head? = some 'l'
    | 0x375 => after.head?.any isGreek
    | 0x5f3 | 0x5f4 => before.head?.any isHebrew
    | 0x30fb => others.any isKanaOrHan
    | _ => false

/-- Whether all characters may stand where they stand, behind others that are reversed. -/
def areNameChars (before : List Char) : List Char → Bool
  | [] => true
  | c :: after => isNameCharBetween before c after && areNameChars (c :: before) after

/-! ### Directions -/

/-- Whether a label has one direction: one with something from right to left starts with a letter
of that direction, ends with one or with a number, apart from marks, has numbers of one kind, and
holds no letter from left to right. -/
def hasOneDirection (label : List Char) : Bool :=
  let directions := label.map direction
  if directions.any fun d => d = .rightToLeft || d = .arabicNumber then
    let last := (directions.filter (· ≠ .mark)).getLast?
    directions.head? = some .rightToLeft && !directions.contains .leftToRight &&
      !(directions.contains .number && directions.contains .arabicNumber) &&
      last != some .neutral
  else true

/-! ### Labels -/

/-- The most characters of a label. -/
def maxLabel : Nat := 63

/-- The most characters of a name without the point at its end. -/
def maxName : Nat := 253

/-- What stands in front of a label that is spelled out. -/
def spelledLead : List Char := "xn--".toList

/-- Whether a character stands between labels: a full stop, or one that is written in its place. -/
def isPoint (c : Char) : Bool :=
  c == '.' || [0x3002, 0xff0e, 0xff61].contains c.toNat

/-- Whether the hyphens of a label stand inside, and not both in third and fourth place. -/
def hasPlainHyphens (label : List Char) : Bool :=
  (label.drop 2).take 2 != ['-', '-'] && label.head? != some '-' && label.getLast? != some '-'

/-- Whether a label is made as labels in small letters are. -/
def isLabel (label : List Char) : Bool :=
  !label.isEmpty && hasPlainHyphens label && !label.head?.any Text.isMark &&
    areNameChars [] label && Text.isComposed label && hasOneDirection label

/-- Whether a text has no capital letters. -/
def isSmall (text : List Char) : Bool :=
  (Text.lower (String.ofList text)).toList == text

/-- Whether a label in ASCII is made as labels are, or spells one out. -/
def isPlainLabel (label : List Char) : Bool :=
  if spelledLead.isPrefixOf label then
    let rest := label.drop spelledLead.length
    !rest.isEmpty && rest.getLast? != some '-' &&
      -- The label that is spelled out has to be one that would be spelled like this.
      (Text.Punycode.read? rest).any fun text => isLabel text && isSmall text
  else isLabel label

/-- The label under which a label is requested. -/
def spelledLabel? (label : List Char) : Option (List Char) :=
  let spelled :=
    if label.all fun c => c.toNat < 128 then
      if isPlainLabel label then some label else none
    else if isLabel label then some (spelledLead ++ Text.Punycode.encode label)
    else none
  spelled.filter fun cs => cs.length ≤ maxLabel

/-- The labels of a name, and whether a point ends it. -/
def labels (name : List Char) : List (List Char) × Bool :=
  let parts := Text.splitChars '.' (name.map fun c => if isPoint c then '.' else c)
  if parts.getLast? = some [] then (parts.dropLast, true) else (parts, false)

/-- The name under which a host with a name in small letters is requested. -/
def spelled? (name : List Char) : Option (List Char) :=
  let (parts, closed) := labels name
  match parts.mapM spelledLabel? with
  | none => none
  | some spelled =>
    let joined := List.intercalate ['.'] spelled ++ (if closed then ['.'] else [])
    if joined.length ≤ maxName + (if closed then 1 else 0) then some joined else none

end ClientGen.Net.HostName
