import ClientGen.Text.Charset.Reader
import ClientGen.Text.Hex
import ClientGen.Text.Punycode

/-!
# Characters as signs of ASCII

Two sets have escapes behind a backslash: the number of a character in hexadecimal digits, and in
the richer set also in octal ones, and signs for line ends and the like.  The third one has the
other characters of a text as digits behind its last hyphen.
-/

namespace ClientGen.Text.Charset

/-! ### Escapes -/

/-- The digits that a letter wants behind it. -/
def digitsBehind? (b : UInt8) : Option Nat :=
  if b = 0x75 then some 4 else if b = 0x55 then some 8 else if b = 0x78 then some 2 else none

/-- The piece of a backslash, a letter, and the digits in front of the octets, if there are as many
as the letter wants. -/
def hexPiece (wanted : Nat) (octets : List UInt8) : Piece Unit :=
  let digits := (octets.take wanted).map fun b => (hexValue? (Char.ofNat b.toNat))
  let values := (digits.takeWhile Option.isSome).filterMap id
  let n := values.foldl (fun n value => 16 * n + value) 0
  if values.length = wanted ∧ n ≤ 0x10ffff then .shown [numbered n] (2 + wanted) ()
  else .malformed (2 + values.length)

/-- The value of an octal digit. -/
def octalValue? (b : UInt8) : Option Nat :=
  if 0x30 ≤ b ∧ b ≤ 0x37 then some (b.toNat - 0x30) else none

/-- The values of up to two octal digits in front of the octets. -/
def octalValues (octets : List UInt8) : List Nat :=
  (((octets.take 2).map octalValue?).takeWhile Option.isSome).filterMap id

/-- The character of a letter behind a backslash. -/
def signOf? (b : UInt8) : Option Char :=
  match Char.ofNat b.toNat with
  | '\\' => some '\\'
  | '\'' => some '\''
  | '"' => some '"'
  | 'a' => some '\x07'
  | 'b' => some '\x08'
  | 't' => some '\t'
  | 'n' => some '\n'
  | 'v' => some '\x0b'
  | 'f' => some '\x0c'
  | 'r' => some '\r'
  | _ => none

/-- The piece of a backslash, a letter for a name, and the name in braces in front of the octets. -/
def namePiece (octets : List UInt8) : Piece Unit :=
  match octets with
  | 0x7b :: more =>
    let size := (more.takeWhile (· ≠ 0x7d)).length
    if size = 0 ∨ size = more.length then .malformed (3 + size) else .malformed (4 + size)
  | _ => .malformed 2

/-- The piece of a backslash and what stands behind it. -/
def escapePiece (b : UInt8) (rest : List UInt8) : Piece Unit :=
  match signOf? b, octalValue? b, digitsBehind? b with
  | some c, _, _ => .shown [c] 2 ()
  | none, some value, _ =>
    let values := octalValues rest
    .shown [Char.ofNat (values.foldl (fun n value => 8 * n + value) value)] (2 + values.length) ()
  | none, none, some wanted => hexPiece wanted rest
  | none, none, none =>
    if b = 0x0a then .shown [] 2 ()
    else if b = 0x4e then namePiece rest
    else .shown ['\\', Char.ofNat b.toNat] 2 ()

/-- The piece of a backslash and what stands behind it, where only longer numbers are escapes. -/
def rawEscapePiece (b : UInt8) (rest : List UInt8) : Piece Unit :=
  match if b = 0x78 then none else digitsBehind? b with
  | some wanted => hexPiece wanted rest
  | none => .shown ['\\', Char.ofNat b.toNat] 2 ()

/-- Reads octets with escapes; `last` is what a backslash at the end is. -/
def escapeReader (last : Piece Unit) (escape : UInt8 → List UInt8 → Piece Unit) : Reader Unit where
  start := ()
  piece := fun _ b rest =>
    if b ≠ 0x5c then .shown [Char.ofNat b.toNat] 1 ()
    else match rest with
      | [] => last
      | c :: rest => escape c rest

/-- Latin-1 with many escapes. -/
def unicodeEscape : Charset :=
  ⟨"unicode_escape", [], (escapeReader (.malformed 1) escapePiece).decode⟩

/-- Latin-1 with escapes by numbers. -/
def rawUnicodeEscape : Charset :=
  ⟨"raw_unicode_escape", [], (escapeReader (.shown ['\\'] 1 ()) rawEscapePiece).decode⟩

/-! ### Digits behind the text -/

/-- The octets in front of the last hyphen, and those behind it. -/
def splitLastHyphen (octets : List UInt8) : List UInt8 × List UInt8 :=
  let behind := octets.reverse.takeWhile (· ≠ 0x2d)
  (octets.take (octets.length - behind.length - 1), behind.reverse)

/-- Reads the signs of ASCII in front of the last hyphen, and the other characters behind it. -/
def decodePunycode (octets : List UInt8) : Except Fault (List Char) :=
  let (plain, numbers) := splitLastHyphen octets
  match numbers.zipIdx.find? fun (b, _) => 0x80 ≤ b with
  | some (b, i) => .error (.beyondAscii b i)
  | none =>
    let chars := fun (octets : List UInt8) =>
      octets.map fun b => if b < 0x80 then Char.ofNat b.toNat else replacement
    .ok (Punycode.decode (chars plain) (chars numbers))

/-- Other characters as digits behind a text. -/
def punycode : Charset := ⟨"punycode", [], decodePunycode⟩

/-- The sets that write all characters with signs of ASCII, or of Latin-1. -/
def escaped : List Charset := [unicodeEscape, rawUnicodeEscape, punycode]

end ClientGen.Text.Charset
