import ClientGen.Text.Charset.Reader
import ClientGen.Text.Chart.Japanese

/-!
# Japanese character sets

The charts of the JIS standards are read in two ways: a shifted code squeezes a row of cells into
half of a lead octet, and an extended code gives row and cell an octet each.  `jis0213First?` and
`jis0213Second?` are the two planes of the later standard, which has two editions.
-/

namespace ClientGen.Text.Charset

/-! ### The planes of JIS X 0213 -/

/-- The two editions of the standard. -/
inductive Jis0213 where
  | year2000
  | year2004
  deriving Repr, DecidableEq

/-- Cells of the first plane for a letter and a mark on it: the first cell of a run, the letters
of the cells, and the mark. -/
def markedLetters : List (Nat × String × Char) := [
  (368, "かきくけこ", '\u309a'), (462, "カキクケコセツト", '\u309a'), (557, "ㇷ", '\u309a'),
  (975, "æ", '\u0300'), (979, "ɔ", '\u0300'), (980, "ɔ", '\u0301'), (981, "ʌ", '\u0300'),
  (982, "ʌ", '\u0301'), (983, "ə", '\u0300'), (984, "ə", '\u0301'), (985, "ɚ", '\u0300'),
  (986, "ɚ", '\u0301'), (1008, "˩", '˥'), (1009, "˥", '˩')]

/-- The letter and the mark of a cell of the first plane. -/
def markedLetter? (place : Nat) : Option (List Char) :=
  markedLetters.findSome? fun (first, letters, mark) =>
    if first ≤ place then (letters.toList[place - first]?).map ([·, mark]) else none

/-- The cells of the first plane that the later edition added. -/
def addedCells : List Nat := [1222, 1409, 4375, 4417, 7808, 8831, 8832, 8833, 8834, 8835]

/-- The characters in a cell of the first plane; the cells that are added later count as malformed
as a whole in the earlier edition. -/
def jis0213First? (edition : Jis0213) (row cell : Nat) : Option (List Char) :=
  let place := row * 94 + cell
  if 94 ≤ cell then none
  else if edition = .year2000 ∧ addedCells.contains place then some [replacement]
  else match Chart.jis0208.char? row cell with
    | some c => some [c]
    | none =>
      match Chart.jis0213First.char? row cell with
      | some c => some [c]
      | none => markedLetter? place

/-- The character in a cell of the second plane. -/
def jis0213Second? (edition : Jis0213) (row cell : Nat) : Option Char :=
  if edition = .year2000 ∧ row = 92 ∧ cell = 26 then some '鬝'
  else Chart.jis0213Second.char? row cell

/-! ### Single octets -/

/-- The half-width sign of an octet. -/
def halfWidth? (n : Nat) : Option Char :=
  if 0xa1 ≤ n ∧ n ≤ 0xdf then some (Char.ofNat (0xff61 + (n - 0xa1))) else none

/-- The Roman letter or sign of an octet: it has a yen sign and an overline. -/
def roman? (n : Nat) : Option Char :=
  if n = 0x5c then some '¥' else if n = 0x7e then some '‾' else ascii? n

/-! ### Shifted codes -/

/-- The row and the cell of two octets of a shifted code, where a lead octet holds two rows. -/
def shifted? (lead trail : Nat) : Option (Nat × Nat) :=
  let isLead := 0x81 ≤ lead ∧ lead ≤ 0x9f ∨ 0xe0 ≤ lead ∧ lead ≤ 0xfc
  if isLead ∧ 0x40 ≤ trail ∧ trail ≤ 0xfc ∧ trail ≠ 0x7f then
    let pair := if lead < 0xe0 then lead - 0x81 else lead - 0xc1
    let place := if trail < 0x7f then trail - 0x40 else trail - 0x41
    some (2 * pair + place / 94, place % 94)
  else none

/-- Reads a shifted code, with what its single octets stand for and the characters of the cells. -/
def shiftedReader (single? : Nat → Option Char) (cell? : Nat → Nat → Option (List Char)) :
    Reader Unit :=
  .ofPairs (fun n => single? n <|> halfWidth? n) fun lead trail =>
    (shifted? lead trail).bind fun (row, cell) => cell? row cell

/-- The shifted code of the first chart. -/
def shiftJis : Charset where
  name := "shift_jis"
  aliases := ["csshiftjis", "s_jis", "shiftjis", "sjis", "x_mac_japanese"]
  decode := (shiftedReader ascii? fun row cell => (Chart.jis0208.char? row cell).map ([·])).decode

/-- The single octets that only the code page 932 has. -/
def windows31jSingle? (n : Nat) : Option Char :=
  if n = 0x80 then some '\u0080'
  else if n = 0xa0 then some '\uf8f0'
  else if 0xfd ≤ n ∧ n ≤ 0xff then some (Char.ofNat (0xf8f1 + (n - 0xfd)))
  else ascii? n

/-- The characters in a cell of the code page 932: a range of them is left to its users. -/
def windows31jCell? (row cell : Nat) : Option (List Char) :=
  match Chart.windows31j.char? row cell <|> Chart.jis0208.char? row cell with
  | some c => some [c]
  | none =>
    if 94 ≤ row ∧ row < 114 then some [Char.ofNat (0xe000 + (row - 94) * 94 + cell)] else none

/-- The shifted code with the characters of the code page 932. -/
def windows932 : Charset where
  name := "cp932"
  aliases := ["932", "ms932", "ms_kanji", "mskanji"]
  decode := (shiftedReader windows31jSingle? windows31jCell?).decode

/-- The rows of the second plane that the lead octets from F0 to F4 stand for. -/
def earlyRows : List Nat := [0, 7, 2, 3, 4, 11, 12, 13, 14]

/-- The row of the second plane for a row of the shifted code behind the first plane. -/
def secondRow (row : Nat) : Nat :=
  earlyRows.getD row (row + 68)

/-- The characters in a cell of the shifted code for both planes. -/
def shiftedCell? (edition : Jis0213) (row cell : Nat) : Option (List Char) :=
  if row = 0 ∧ cell = 31 then some ['\\']
  else if row < 94 then jis0213First? edition row cell
  else (jis0213Second? edition (secondRow (row - 94)) cell).map ([·])

/-- The shifted code of both planes. -/
def shiftJis2004 : Charset where
  name := "shift_jis_2004"
  aliases := ["s_jis_2004", "shiftjis2004", "sjis_2004"]
  decode := (shiftedReader roman? (shiftedCell? .year2004)).decode

/-- The shifted code of both planes in the earlier edition. -/
def shiftJis2000 : Charset where
  name := "shift_jisx0213"
  aliases := ["s_jisx0213", "shiftjisx0213", "sjisx0213"]
  decode := (shiftedReader roman? (shiftedCell? .year2000)).decode

/-! ### Extended codes -/

/-- What the cell of two octets holds in an extended code. -/
def inCell? {α : Type} (cell? : Nat → Nat → Option α) (b c : UInt8) : Option α :=
  if 0xa1 ≤ b ∧ 0xa1 ≤ c then cell? (b.toNat - 0xa1) (c.toNat - 0xa1) else none

/-- Reads an extended code, with the characters of the cells that two octets stand for, and of those
that stand behind a third one. -/
def extendedReader (cell? : Nat → Nat → Option (List Char)) (further? : Nat → Nat → Option Char) :
    Reader Unit where
  start := ()
  piece := fun _ b rest =>
    if b < 0x80 then .shown [Char.ofNat b.toNat] 1 ()
    else match b, rest with
      | 0x8e, c :: _ => .ofChar? 2 () (halfWidth? c.toNat)
      | 0x8f, c :: d :: _ => .ofChar? 3 () (inCell? further? c d)
      | 0x8f, _ => .unfinished
      | _, [] => .unfinished
      | _, c :: _ =>
        match inCell? cell? b c with
        | some text => .shown text 2 ()
        | none => .malformed 1

/-- The extended code of the first two charts. -/
def eucJapanese : Charset where
  name := "euc_jp"
  aliases := ["eucjp", "u_jis", "ujis"]
  decode := (extendedReader (fun row cell => (Chart.jis0208.char? row cell).map ([·]))
    Chart.jis0212.char?).decode

/-- The characters in a cell of the extended code for both planes. -/
def extendedCell? (edition : Jis0213) (row cell : Nat) : Option (List Char) :=
  if row = 1 ∧ cell = 17 then some ['～'] else jis0213First? edition row cell

/-- Reads the extended code of both planes. -/
def extendedPlanes (edition : Jis0213) : Reader Unit :=
  extendedReader (extendedCell? edition) fun row cell =>
    jis0213Second? edition row cell <|> Chart.jis0212.char? row cell

/-- The extended code of both planes. -/
def eucJapanese2004 : Charset where
  name := "euc_jis_2004"
  aliases := ["euc_jis2004", "eucjis2004", "jisx0213"]
  decode := (extendedPlanes .year2004).decode

/-- The extended code of both planes in the earlier edition. -/
def eucJapanese2000 : Charset where
  name := "euc_jisx0213"
  aliases := ["eucjisx0213"]
  decode := (extendedPlanes .year2000).decode

/-- The shifted and the extended codes. -/
def japanese : List Charset :=
  [shiftJis, windows932, shiftJis2004, shiftJis2000, eucJapanese, eucJapanese2004, eucJapanese2000]

end ClientGen.Text.Charset
