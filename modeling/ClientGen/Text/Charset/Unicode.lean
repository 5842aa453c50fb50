import ClientGen.Text.Charset.Basic
import ClientGen.Text.Utf8

/-!
# Character sets for all characters

The numbers of characters are written in units of 8, 16 or 32 bits.  Wide units come in the order of
a mark in front of them, or in a given order.
-/

namespace ClientGen.Text.Charset

/-! ### Units of 8 bits -/

/-- Units of 8 bits. -/
def utf8 : Charset :=
  total "utf_8" ["cp65001", "u8", "utf", "utf8", "utf8_ucs2", "utf8_ucs4"] fun octets =>
    (Utf8.decodeLossy octets).toList

/-- Units of 8 bits; a mark in front of them is left out, also when it is not complete. -/
def utf8Marked : Charset :=
  total "utf_8_sig" [] fun octets =>
    match octets with
    | [0xef] | [0xef, 0xbb] => []
    | 0xef :: 0xbb :: 0xbf :: rest => (Utf8.decodeLossy rest).toList
    | _ => (Utf8.decodeLossy octets).toList

/-! ### Units of 16 bits -/

/-- The units of octets, two each; an octet left over makes the result incomplete. -/
def units16 (bigEndian : Bool) : List UInt8 → List Nat × Bool
  | [] => ([], false)
  | [_] => ([], true)
  | a :: b :: rest =>
    let unit := if bigEndian then a.toNat * 256 + b.toNat else b.toNat * 256 + a.toNat
    let (more, incomplete) := units16 bigEndian rest
    (unit :: more, incomplete)

/-- The characters of units of 16 bits; an incomplete unit behind them belongs to a first half that
it follows. -/
def chars16 (incomplete : Bool) : List Nat → List Char
  | [] => if incomplete then [replacement] else []
  | [u] =>
    if 0xd800 ≤ u ∧ u < 0xdc00 then [replacement]
    else (if 0xdc00 ≤ u ∧ u < 0xe000 then replacement else Char.ofNat u) ::
      (if incomplete then [replacement] else [])
  | u :: v :: rest =>
    if 0xd800 ≤ u ∧ u < 0xdc00 then
      if 0xdc00 ≤ v ∧ v < 0xe000 then
        Char.ofNat (0x10000 + (u - 0xd800) * 0x400 + (v - 0xdc00)) :: chars16 incomplete rest
      else replacement :: chars16 incomplete (v :: rest)
    else if 0xdc00 ≤ u ∧ u < 0xe000 then replacement :: chars16 incomplete (v :: rest)
    else Char.ofNat u :: chars16 incomplete (v :: rest)

/-- Reads octets in units of 16 bits. -/
def decode16 (bigEndian : Bool) (octets : List UInt8) : List Char :=
  let (units, incomplete) := units16 bigEndian octets
  chars16 incomplete units

/-- Reads octets in units of 16 bits behind a mark, or not even one of them. -/
def decodeMarked16 (octets : List UInt8) : Except Fault (List Char) :=
  match octets with
  | 0xff :: 0xfe :: rest => .ok (decode16 false rest)
  | 0xfe :: 0xff :: rest => .ok (decode16 true rest)
  | _ :: _ :: _ => .error (.unmarked 16)
  | _ => .ok (decode16 false octets)

/-- Units of 16 bits behind a mark. -/
def utf16 : Charset := ⟨"utf_16", ["u16", "utf16"], decodeMarked16⟩

/-- Units of 16 bits, the high octet first. -/
def utf16Big : Charset := total "utf_16_be" ["unicodebigunmarked", "utf_16be"] (decode16 true)

/-- Units of 16 bits, the low octet first. -/
def utf16Little : Charset :=
  total "utf_16_le" ["unicodelittleunmarked", "utf_16le"] (decode16 false)

/-! ### Units of 32 bits -/

/-- The characters of octets, four each. -/
def decode32 (bigEndian : Bool) : List UInt8 → List Char
  | [] => []
  | a :: b :: c :: d :: rest =>
    let n := if bigEndian then ((a.toNat * 256 + b.toNat) * 256 + c.toNat) * 256 + d.toNat
      else ((d.toNat * 256 + c.toNat) * 256 + b.toNat) * 256 + a.toNat
    numbered n :: decode32 bigEndian rest
  | _ => [replacement]

/-- Reads octets in units of 32 bits behind a mark, or not even one of them. -/
def decodeMarked32 (octets : List UInt8) : Except Fault (List Char) :=
  match octets with
  | 0xff :: 0xfe :: 0 :: 0 :: rest => .ok (decode32 false rest)
  | 0 :: 0 :: 0xfe :: 0xff :: rest => .ok (decode32 true rest)
  | _ :: _ :: _ :: _ :: _ => .error (.unmarked 32)
  | _ => .ok (decode32 false octets)

/-- Units of 32 bits behind a mark. -/
def utf32 : Charset := ⟨"utf_32", ["u32", "utf32"], decodeMarked32⟩

/-- Units of 32 bits, the high octet first. -/
def utf32Big : Charset := total "utf_32_be" ["utf_32be"] (decode32 true)

/-- Units of 32 bits, the low octet first. -/
def utf32Little : Charset := total "utf_32_le" ["utf_32le"] (decode32 false)

/-- The sets that write the numbers of all characters in units of one width. -/
def unicode : List Charset :=
  [utf8, utf8Marked, utf16, utf16Big, utf16Little, utf32, utf32Big, utf32Little]

end ClientGen.Text.Charset
