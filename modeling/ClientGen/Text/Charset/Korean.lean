import ClientGen.Text.Charset.Reader
import ClientGen.Text.Chart.Ksx1001

/-!
# Korean character sets

A syllable has an initial letter, a vowel and perhaps a final letter; `Hangul.syllable?` finds the
character for the whole.

The standard chart holds only some of the syllables.  Three ways of writing the others: by their
letters in eight octets, in cells that the chart leaves free, and with five bits for each letter.
-/

namespace ClientGen.Text.Hangul

/-! ### Letters and syllables -/

/-- The letters that begin a syllable. -/
def initials : List Char := "ㄱㄲㄴㄷㄸㄹㅁㅂㅃㅅㅆㅇㅈㅉㅊㅋㅌㅍㅎ".toList

/-- The vowels of a syllable. -/
def vowels : List Char := "ㅏㅐㅑㅒㅓㅔㅕㅖㅗㅘㅙㅚㅛㅜㅝㅞㅟㅠㅡㅢㅣ".toList

/-- The letters that end a syllable. -/
def finals : List Char := "ㄱㄲㄳㄴㄵㄶㄷㄹㄺㄻㄼㄽㄾㄿㅀㅁㅂㅄㅅㅆㅇㅈㅊㅋㅌㅍㅎ".toList

/-- The syllable of some letters, if they can stand in these places. -/
def syllable? (initial vowel : Char) (final : Option Char) : Option Char := do
  let i ← initials.idxOf? initial
  let v ← vowels.idxOf? vowel
  let f ← match final with
    | none => some 0
    | some letter => (finals.idxOf? letter).map (· + 1)
  return Char.ofNat (0xac00 + (i * 21 + v) * 28 + f)

/-- The number of syllables. -/
def count : Nat := 11172

end ClientGen.Text.Hangul

namespace ClientGen.Text.Charset

/-! ### The extended code -/

/-- The letter of an octet that follows A4. -/
def koreanLetter? (n : Nat) : Option Char :=
  if 0xa1 ≤ n ∧ n ≤ 0xd3 then some (Char.ofNat (0x3131 + (n - 0xa1))) else none

/-- The syllable that is written by its letters: each octet stands behind A4, and D4 in the last
place leaves it empty. -/
def spelledSyllable? (initial vowel final : UInt8) : Option Char := do
  let i ← koreanLetter? initial.toNat
  let v ← koreanLetter? vowel.toNat
  if final = 0xd4 then Hangul.syllable? i v none
  else Hangul.syllable? i v (some (← koreanLetter? final.toNat))

/-- Reads the extended code, which spells syllables behind A4 D4. -/
def eucKoreanReader : Reader Unit where
  start := ()
  piece := fun _ b rest =>
    if b < 0x80 then .shown [Char.ofNat b.toNat] 1 ()
    else match b, rest with
      | 0xa4, 0xd4 :: more =>
        match more with
        | m1 :: i :: m2 :: v :: m3 :: f :: _ =>
          .ofChar? 8 ()
            (if m1 = 0xa4 ∧ m2 = 0xa4 ∧ m3 = 0xa4 then spelledSyllable? i v f else none)
        | _ => .unfinished
      | _, [] => .unfinished
      | _, c :: _ => .ofChar? 2 () (Chart.ksx1001.at? (b.toNat - 0x80) (c.toNat - 0x80))

/-- The extended code. -/
def eucKorean : Charset where
  name := "euc_kr"
  aliases := ["euckr", "korean", "ks_c_5601", "ks_c_5601_1987", "ks_x_1001", "ksc5601", "ksx1001",
    "x_mac_korean"]
  decode := eucKoreanReader.decode

/-! ### Syllables in free cells -/

/-- The syllables that are not in the chart. -/
def furtherSyllables : Array Char := Chart.ksx1001.missing 0xac00 Hangul.count

/-- The place of a trail octet among those that may follow a lead octet. -/
def trailPlace? (n : Nat) : Option Nat :=
  if 0x41 ≤ n ∧ n ≤ 0x5a then some (n - 0x41)
  else if 0x61 ≤ n ∧ n ≤ 0x7a then some (n - 0x61 + 26)
  else if 0x81 ≤ n ∧ n ≤ 0xfe then some (n - 0x81 + 52)
  else none

/-- The syllable of two octets in front of the chart, or to the left of its cells. -/
def furtherSyllable? (lead trail : Nat) : Option Char := do
  let place ← trailPlace? trail
  if 0x81 ≤ lead ∧ lead ≤ 0xa0 then furtherSyllables[(lead - 0x81) * 178 + place]?
  else if 0xa1 ≤ lead ∧ lead ≤ 0xc6 ∧ place < 84 then
    furtherSyllables[32 * 178 + (lead - 0xa1) * 84 + place]?
  else none

/-- The character of two octets in the code page 949. -/
def windows949? (lead trail : Nat) : Option Char :=
  Chart.ksx1001.at? (lead - 0x80) (trail - 0x80) <|> furtherSyllable? lead trail

/-- The chart with the other syllables in free cells. -/
def windows949 : Charset where
  name := "cp949"
  aliases := ["949", "ms949", "uhc"]
  decode := (Reader.ofPairs ascii? fun lead trail => (windows949? lead trail).map ([·])).decode

/-! ### Letters in five bits -/

/-- What five bits stand for: a letter, or an empty place. -/
def letterOfBits? (empty : Nat) (runs : List (Nat × List Char)) (n : Nat) : Option (Option Char) :=
  if n = empty then some none
  else runs.findSome? fun (first, letters) =>
    if first ≤ n then (letters[n - first]?).map some else none

/-- The initial letter of five bits. -/
def initialOfBits? : Nat → Option (Option Char) := letterOfBits? 1 [(2, Hangul.initials)]

/-- The vowel of five bits. -/
def vowelOfBits? : Nat → Option (Option Char) :=
  letterOfBits? 2 [(26, Hangul.vowels.drop 17), (18, (Hangul.vowels.drop 11).take 6),
    (10, (Hangul.vowels.drop 5).take 6), (3, Hangul.vowels.take 5)]

/-- The final letter of five bits. -/
def finalOfBits? : Nat → Option (Option Char) :=
  letterOfBits? 1 [(19, Hangul.finals.drop 16), (2, Hangul.finals.take 16)]

/-- The character of letters in their places: a syllable, a single letter, or a wide blank. -/
def ofLetters? : Option Char → Option Char → Option Char → Option Char
  | some i, some v, f => Hangul.syllable? i v f
  | some c, none, none => some c
  | none, some c, none => some c
  | none, none, some c => some c
  | none, none, none => some '\u3000'
  | _, _, _ => none

/-- The row and the cell of two octets that stand for no syllable. -/
def signCell? (lead trail : Nat) : Option (Nat × Nat) :=
  let isLead := 0xd9 ≤ lead ∧ lead ≤ 0xf9 ∧ lead ≠ 0xdf
  let isTrail := 0x31 ≤ trail ∧ trail ≤ 0x7e ∨ 0x91 ≤ trail ∧ trail ≤ 0xfe
  let isLetter := lead = 0xda ∧ 0xa1 ≤ trail ∧ trail ≤ 0xd3
  if isLead ∧ isTrail ∧ ¬isLetter then
    let row := if lead < 0xe0 then 2 * (lead - 0xd9) else 2 * (lead - 0xe0) + 41
    let place := if trail < 0x91 then trail - 0x31 else trail - 0x43
    some (row + place / 94, place % 94)
  else none

/-- The character of two octets, where those below D8 hold five bits for each letter. -/
def johab? (lead trail : Nat) : Option Char :=
  if lead < 0xd8 then do
    let i ← initialOfBits? (lead / 4 % 32)
    let v ← vowelOfBits? (lead % 4 * 8 + trail / 32)
    let f ← finalOfBits? (trail % 32)
    ofLetters? i v f
  else (signCell? lead trail).bind fun (row, cell) => Chart.ksx1001.char? row cell

/-- The combining code. -/
def johab : Charset where
  name := "johab"
  aliases := ["cp1361", "ms1361"]
  decode := (Reader.ofPairs ascii? fun lead trail => (johab? lead trail).map ([·])).decode

/-- The Korean sets that do not switch between charts. -/
def korean : List Charset := [eucKorean, windows949, johab]

end ClientGen.Text.Charset
