import ClientGen.Text.Charset.Reader
import ClientGen.Text.Chart.Chinese

/-!
# Character sets for simplified Chinese

The standard chart grew twice.  GBK adds ideographs in the cells around the chart, and GB 18030 all
other characters, most of them with four octets.  The octets of `hz` are those of ASCII, and braces
tell where they stand for the chart.
-/

namespace ClientGen.Text.Charset

/-! ### The standard chart -/

/-- The character of two octets in the extended code. -/
def gb2312? (lead trail : Nat) : Option Char :=
  Chart.gb2312.at? (lead - 0x80) (trail - 0x80)

/-- The extended code of the chart. -/
def gb2312 : Charset where
  name := "gb2312"
  aliases := ["chinese", "csiso58gb231280", "euc_cn", "euccn", "eucgb2312_cn", "gb2312_1980",
    "gb2312_80", "iso_ir_58", "x_mac_simp_chinese"]
  decode := (Reader.ofPairs ascii? fun lead trail => (gb2312? lead trail).map ([·])).decode

/-- Reads octets of ASCII; the state tells whether they stand for the chart. -/
def hzReader : Reader Bool where
  start := false
  piece := fun inChart b rest =>
    if b = 0x7e then
      match inChart, rest with
      | _, [] => .unfinished
      | false, 0x7e :: _ => .shown ['~'] 2 false
      | false, 0x7b :: _ => .shown [] 2 true
      | false, 0x0a :: _ => .shown [] 2 false
      | true, 0x7d :: _ => .shown [] 2 false
      | _, _ => .malformed 1
    else if 0x80 ≤ b then .malformed 1
    else if inChart then
      match rest with
      | [] => .unfinished
      | c :: _ => .ofChar? 2 true (Chart.gb2312.at? b.toNat c.toNat)
    else .shown [Char.ofNat b.toNat] 1 false

/-- The chart within octets of ASCII. -/
def hz : Charset where
  name := "hz"
  aliases := ["hz_gb", "hz_gb_2312", "hzgb"]
  decode := hzReader.decode

/-! ### The first extension -/

/-- The row and the cell of two octets in the extended charts. -/
def gbkCell? (lead trail : Nat) : Option (Nat × Nat) :=
  if 0x81 ≤ lead ∧ lead ≤ 0xfe ∧ 0x40 ≤ trail ∧ trail ≤ 0xfe ∧ trail ≠ 0x7f then
    some (lead - 0x81, if trail < 0x7f then trail - 0x40 else trail - 0x41)
  else none

/-- The ideographs that are not in the chart. -/
def furtherIdeographs : Array Char := Chart.gb2312.missing 0x4e00 20902

/-- The ideograph in a cell above the chart, or to the left of its later rows. -/
def furtherIdeograph? (row cell : Nat) : Option Char :=
  if row < 32 then furtherIdeographs[row * 190 + cell]?
  else if 41 ≤ row ∧ cell < 96 then furtherIdeographs[32 * 190 + (row - 41) * 96 + cell]?
  else none

/-- The character of two octets in the first extension. -/
def gbk? (lead trail : Nat) : Option Char := do
  let (row, cell) ← gbkCell? lead trail
  Chart.gbk.char? row cell <|> gb2312? lead trail <|> furtherIdeograph? row cell

/-- The chart with its first extension. -/
def gbk : Charset where
  name := "gbk"
  aliases := ["936", "cp936", "ms936"]
  decode := (Reader.ofPairs ascii? fun lead trail => (gbk? lead trail).map ([·])).decode

/-! ### The second extension -/

/-- The character for private use in a cell. -/
def privateUse? (row cell : Nat) : Option Char :=
  if 41 ≤ row ∧ row < 47 ∧ 96 ≤ cell then
    some (Char.ofNat (0xe000 + (row - 41) * 94 + (cell - 96)))
  else if 119 ≤ row ∧ 96 ≤ cell then
    some (Char.ofNat (0xe234 + (row - 119) * 94 + (cell - 96)))
  else if 32 ≤ row ∧ row < 39 ∧ cell < 96 then
    some (Char.ofNat (0xe4c6 + (row - 32) * 96 + cell))
  else none

/-- The character of two octets in the second extension. -/
def gb18030Pair? (lead trail : Nat) : Option Char :=
  gbk? lead trail <|> (gbkCell? lead trail).bind fun (row, cell) =>
    Chart.gb18030.char? row cell <|> privateUse? row cell

/-- The character of four octets below U+10000 at a place in their order. -/
def gb18030Low? (place : Nat) : Option Char :=
  if place < 39420 then
    (Chart.gb18030Runs.foldl (fun found run => if run.1 ≤ place then some run else found) none).map
      fun run => Char.ofNat (run.2 + (place - run.1))
  else none

/-- The character of four octets, the second and the fourth of which are digits. -/
def gb18030Four? (a b c d : Nat) : Option Char :=
  if 0x81 ≤ a ∧ a ≤ 0xfe ∧ 0x81 ≤ c ∧ c ≤ 0xfe ∧ 0x30 ≤ d ∧ d ≤ 0x39 then
    let place := (((a - 0x81) * 10 + (b - 0x30)) * 126 + (c - 0x81)) * 10 + (d - 0x30)
    if a < 0x85 then gb18030Low? place
    else if 0x90 ≤ a ∧ place < 189000 + 0x100000 then some (Char.ofNat (0x10000 + (place - 189000)))
    else none
  else none

/-- Reads characters of one, two and four octets. -/
def gb18030Reader : Reader Unit where
  start := ()
  piece := fun _ b rest =>
    if b < 0x80 then .shown [Char.ofNat b.toNat] 1 ()
    else match rest with
      | [] => .unfinished
      | c :: more =>
        if 0x30 ≤ c ∧ c ≤ 0x39 then
          match more with
          | d :: e :: _ => .ofChar? 4 () (gb18030Four? b.toNat c.toNat d.toNat e.toNat)
          | _ => .unfinished
        else .ofChar? 2 () (gb18030Pair? b.toNat c.toNat)

/-- The chart with both extensions. -/
def gb18030 : Charset where
  name := "gb18030"
  aliases := ["gb18030_2000"]
  decode := gb18030Reader.decode

/-- The sets for simplified Chinese. -/
def chinese : List Charset := [gb2312, hz, gbk, gb18030]

end ClientGen.Text.Charset
