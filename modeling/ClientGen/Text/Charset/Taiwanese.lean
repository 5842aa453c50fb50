import ClientGen.Text.Charset.Reader
import ClientGen.Text.Chart.Taiwanese

/-!
# Character sets for traditional Chinese

Big5, its form with some signs read otherwise, and its supplement for Hong Kong.
-/

namespace ClientGen.Text.Charset

/-- The cell of a trail octet. -/
def big5Cell? (trail : Nat) : Option Nat :=
  if 0x40 ≤ trail ∧ trail ≤ 0x7e then some (trail - 0x40)
  else if 0xa1 ≤ trail ∧ trail ≤ 0xfe then some (trail - 0x62)
  else none

/-- The character of two octets in a chart whose first row belongs to a lead octet. -/
def big5Char? (chart : Chart) (firstLead lead trail : Nat) : Option Char :=
  if firstLead ≤ lead then (big5Cell? trail).bind (chart.char? (lead - firstLead)) else none

/-- Big5. -/
def big5 : Charset where
  name := "big5"
  aliases := ["big5_tw", "csbig5", "x_mac_trad_chinese"]
  decode := (Reader.ofPairs ascii? fun lead trail =>
    (big5Char? Chart.big5 0xa1 lead trail).map ([·])).decode

/-- Big5 with the signs of the code page 950. -/
def windows950 : Charset where
  name := "cp950"
  aliases := ["950", "ms950"]
  decode := (Reader.ofPairs ascii? fun lead trail =>
    (big5Char? Chart.windows950 0xa1 lead trail <|>
      big5Char? Chart.big5 0xa1 lead trail).map ([·])).decode

/-- Whether the supplement says alone what two octets stand for. -/
def isSupplement (lead trail : Nat) : Bool :=
  lead = 0xc7 || lead = 0xc8 || (lead = 0xc6 && 0xa1 ≤ trail)

/-- The characters of two octets in Big5 with the supplement. -/
def hongKong? (lead trail : Nat) : Option (List Char) :=
  let plain := if isSupplement lead trail then none else big5Char? Chart.big5 0xa1 lead trail
  match plain <|> big5Char? Chart.hongKong 0x87 lead trail with
  | some c => some [c]
  | none =>
    match lead, trail with
    | 0x88, 0x62 => some ['Ê', '\u0304']
    | 0x88, 0x64 => some ['Ê', '\u030c']
    | 0x88, 0xa3 => some ['ê', '\u0304']
    | 0x88, 0xa5 => some ['ê', '\u030c']
    | _, _ => none

/-- Big5 with the supplement for Hong Kong. -/
def big5HongKong : Charset where
  name := "big5hkscs"
  aliases := ["big5_hkscs", "hkscs"]
  decode := (Reader.ofPairs ascii? hongKong?).decode

/-- The sets for traditional Chinese. -/
def taiwanese : List Charset := [big5, windows950, big5HongKong]

end ClientGen.Text.Charset
