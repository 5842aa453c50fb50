import ClientGen.Text.Charset.Japanese
import ClientGen.Text.Chart.Chinese
import ClientGen.Text.Chart.Ksx1001
import ClientGen.Text.CodePage

/-!
# Character sets that switch between charts

Octets below 80 stand for characters of the chart that is in use.  Charts are in three places: the
first one or, between two shifts, the second one is in use, and a sign may take one character from
the third.  Escape sequences put charts into the places; a sequence that is none of them is shown
up to the octet that ends it.
-/

namespace ClientGen.Text.Charset

/-! ### Charts that can be chosen -/

/-- The characters of a chart that octets below 80 stand for. -/
inductive Repertoire where
  /-- Those with the numbers of the octets. -/
  | ascii
  /-- One for each octet. -/
  | narrow (char? : Nat → Option Char)
  /-- Those of a cell, for two octets. -/
  | wide (cell? : Nat → Nat → Option (List Char))
  /-- Those of an upper half, one at a time. -/
  | upper (char? : Nat → Option Char)

/-- A chart with what chooses it: the octet that ends the escape sequence, and whether the sequence
is one for characters of two octets. -/
structure Choice where
  wide : Bool
  letter : Char
  repertoire : Repertoire

/-- A choice for characters of two octets, by row and cell. -/
def Choice.ofCells (letter : Char) (cell? : Nat → Nat → Option (List Char)) : Choice where
  wide := true
  letter := letter
  repertoire := .wide fun row cell =>
    if 0x21 ≤ row ∧ 0x21 ≤ cell then cell? (row - 0x21) (cell - 0x21) else none

/-- A choice for characters of two octets in a chart. -/
def Choice.ofChart (letter : Char) (chart : Chart) : Choice :=
  .ofCells letter fun row cell => (chart.char? row cell).map ([·])

/-- ASCII can always be chosen. -/
def asciiChoice : Choice := ⟨false, 'B', .ascii⟩

/-- Roman letters with a yen sign and an overline. -/
def romanChoice : Choice := ⟨false, 'J', .narrow roman?⟩

/-- Half-width signs. -/
def halfWidthChoice : Choice := ⟨false, 'I', .narrow fun n => halfWidth? (n + 0x80)⟩

/-- The upper half of Latin-1. -/
def latinChoice : Choice :=
  ⟨false, 'A', .upper fun n => if n < 0x80 then some (Char.ofNat (n + 0x80)) else none⟩

/-- The characters of the Greek part of ISO 8859. -/
def greekTable : Array Char := CodePage.greek.table

/-- A character of the Greek part for an octet with its highest bit turned; three characters are too
new for it. -/
def greekUpper? (n : Nat) : Option Char :=
  if [0x24, 0x25, 0x2a].contains n then none
  else (greekTable[(n + 0x80) % 0x100]?).filter (· ≠ replacement)

/-- The upper half of the Greek part of ISO 8859. -/
def greekChoice : Choice := ⟨false, 'F', .upper greekUpper?⟩

/-! ### Sets -/

/-- How a set switches: the charts to choose from, whether shifts tell which of the two first places
is in use, whether there is a third place, and whether a revision may be announced in front of an
escape sequence. -/
structure Switching where
  choices : List Choice
  shifts : Bool
  third : Bool
  revisions : Bool

/-- A place for a chart. -/
inductive Place where
  | first
  | second
  | third
  deriving Repr, DecidableEq

/-- The charts in the places, whether the second one is in use, and whether an unknown sequence is
being shown. -/
structure Places where
  first : Repertoire
  second : Repertoire
  third : Repertoire
  shifted : Bool
  through : Bool

namespace Places

/-- The places in the beginning. -/
def start : Places := ⟨.ascii, .ascii, .ascii, false, false⟩

/-- The chart in use. -/
def inUse (places : Places) : Repertoire :=
  if places.shifted then places.second else places.first

/-- Puts a chart into a place. -/
def put (places : Places) (chart : Repertoire) : Place → Places
  | .first => { places with first := chart }
  | .second => { places with second := chart }
  | .third => { places with third := chart }

end Places

namespace Switching

/-- Whether an octet ends a sequence. -/
def isLast (b : UInt8) : Bool :=
  0x40 ≤ b && b ≤ 0x5a

/-- The size of the sequence at the front, `i` octets of which stand before the given ones: it is 0
when there are 16 without an end, and nothing when more octets are needed.  An announcement hides
three octets. -/
def sizeFrom? (revisions : Bool) (i : Nat) (octets : List UInt8) : Option Nat :=
  if 16 ≤ i then some 0
  else match octets with
    | [] => none
    | b :: rest =>
      if isLast b then some (i + 1)
      else if revisions ∧ b = 0x26 ∧ rest.head? = some 0x40 then
        sizeFrom? revisions (i + 3) (rest.drop 2)
      else sizeFrom? revisions (i + 1) rest
termination_by 16 - i

/-- What a sequence behind its first octet asks for: the place, whether it is one for characters of
two octets, and the letter. -/
def request? (s : Switching) (sequence : List UInt8) : Option (Place × Bool × UInt8) :=
  match sequence with
  | [0x24, letter] => some (.first, true, letter)
  | [0x28, letter] => some (.first, false, letter)
  | [0x29, letter] => some (.second, false, letter)
  | [0x2e, letter] => if s.third then some (.third, false, letter) else none
  | [0x24, 0x28, letter] => some (.first, true, letter)
  | [0x24, 0x29, letter] => some (.second, true, letter)
  | [_, _, 0x1b, 0x24, 0x42] => if s.revisions then some (.first, true, 0x42) else none
  | _ => none

/-- The place and the chart that a sequence chooses. -/
def chosen? (s : Switching) (sequence : List UInt8) : Option (Place × Repertoire) := do
  let (place, wide, letter) ← s.request? sequence
  let choice ← (asciiChoice :: s.choices).find? fun choice =>
    choice.wide == wide && choice.letter.toNat == letter.toNat
  return (place, choice.repertoire)

/-- The piece that starts with the escape octet and `b`. -/
def escape (s : Switching) (places : Places) (b : UInt8) (rest : List UInt8) : Piece Places :=
  if [0x28, 0x29, 0x24, 0x2e, 0x26].contains b then
    match sizeFrom? s.revisions 1 (b :: rest) with
    | none => .unfinished
    | some 0 => .malformed 1
    | some size =>
      match s.chosen? ((b :: rest).take (size - 1)) with
      | some (place, chart) => .shown [] size (places.put chart place)
      | none => .malformed size
  else if s.third ∧ b = 0x4e then
    match rest with
    | [] => .unfinished
    | c :: _ =>
      let shown : Option Char → Piece Places
        | some x => .shown [x] 3 places
        | none => .malformed 3
      match places.third with
      | .ascii => shown (ascii? c.toNat)
      | .upper char? => shown (char? c.toNat)
      | _ => .misplaced
  else .shown ['\x1b'] 1 { places with through := true }

/-- The piece that an octet below 80 begins in the chart in use. -/
def inChart (places : Places) (b : UInt8) (rest : List UInt8) : Piece Places :=
  match places.inUse with
  | .ascii => .shown [Char.ofNat b.toNat] 1 places
  | .narrow char? => .ofChar? 1 places (char? b.toNat)
  | .upper _ => .malformed 1
  | .wide cell? =>
    match rest with
    | [] => .unfinished
    | c :: _ =>
      match cell? b.toNat c.toNat with
      | some text => .shown text 2 places
      | none => .malformed 2

/-- The piece that an octet begins. -/
def piece (s : Switching) (places : Places) (b : UInt8) (rest : List UInt8) : Piece Places :=
  -- Octets of an unknown sequence are shown up to its last one.
  if places.through then
    .shown [Char.ofNat b.toNat] 1 { places with through := !isLast b }
  else if b = 0x1b then
    match rest with
    | [] => .unfinished
    | c :: rest => s.escape places c rest
  else if s.shifts ∧ b = 0x0f then .shown [] 1 { places with shifted := false }
  else if s.shifts ∧ b = 0x0e then .shown [] 1 { places with shifted := true }
  -- The end of a line ends a shift as well.
  else if b = 0x0a then .shown ['\n'] 1 { places with shifted := false }
  else if b < 0x20 then .shown [Char.ofNat b.toNat] 1 places
  else if 0x80 ≤ b then .malformed 1
  else inChart places b rest

/-- The set that switches in some way. -/
def charset (s : Switching) (name : String) (aliases : List String) : Charset where
  name := name
  aliases := aliases
  decode := Reader.decode ⟨Places.start, s.piece⟩

/-- The Japanese way of switching between some charts. -/
def japanese (choices : List Choice) : Switching where
  choices := choices
  shifts := false
  third := false
  revisions := true

/-- The Korean way of switching between ASCII and a chart. -/
def korean (chart : Choice) : Switching where
  choices := [chart]
  shifts := true
  third := false
  revisions := false

end Switching

/-- The choices of the first Japanese set: both signs of the chart for its two revisions. -/
def firstChoices : List Choice :=
  [.ofChart 'B' Chart.jis0208, .ofChart '@' Chart.jis0208, romanChoice]

/-- The choice of the supplementary chart. -/
def supplementChoice : Choice := .ofChart 'D' Chart.jis0212

/-- The choices of the sets with both planes, the first one with a letter for its edition. -/
def planeChoices (letter : Char) (edition : Jis0213) : List Choice :=
  [.ofCells letter (jis0213First? edition), .ofChart 'B' Chart.jis0208,
    .ofChart 'P' Chart.jis0213Second]

/-- The sets that switch between charts. -/
def switching : List Charset := [
  (Switching.japanese firstChoices).charset "iso2022_jp"
    ["csiso2022jp", "iso2022jp", "iso_2022_jp"],
  (Switching.japanese (supplementChoice :: firstChoices)).charset "iso2022_jp_1"
    ["iso2022jp_1", "iso_2022_jp_1"],
  { Switching.japanese (.ofChart 'C' Chart.ksx1001 :: .ofChart 'A' Chart.gb2312 :: latinChoice ::
      greekChoice :: supplementChoice :: firstChoices) with third := true }.charset "iso2022_jp_2"
    ["iso2022jp_2", "iso_2022_jp_2"],
  (Switching.japanese (planeChoices 'O' .year2000)).charset "iso2022_jp_3"
    ["iso2022jp_3", "iso_2022_jp_3"],
  (Switching.japanese (planeChoices 'Q' .year2004)).charset "iso2022_jp_2004"
    ["iso2022jp_2004", "iso_2022_jp_2004"],
  (Switching.japanese (halfWidthChoice :: supplementChoice :: firstChoices)).charset
    "iso2022_jp_ext" ["iso2022jp_ext", "iso_2022_jp_ext"],
  (Switching.korean (.ofChart 'C' Chart.ksx1001)).charset "iso2022_kr"
    ["csiso2022kr", "iso2022kr", "iso_2022_kr"]]

end ClientGen.Text.Charset
