/-!
# Character sets

A character set goes by some names and reads octets as text.  What is malformed becomes U+FFFD, so
that reading fails for few reasons only: `Charset.Fault` lists them.
-/

namespace ClientGen.Text

namespace Charset

/-- Why octets are no text. -/
inductive Fault where
  /-- The mark is missing in front of units of so many bits. -/
  | unmarked (bits : Nat)
  /-- More octets begin a character at the end than can be kept. -/
  | leftover
  /-- A chart has been put into a place where it has no characters to give. -/
  | misplaced
  /-- The set has nothing to put in place of what is malformed. -/
  | irreplaceable
  /-- The set has no characters. -/
  | undefined
  /-- An octet beyond ASCII, at a position. -/
  | beyondAscii (octet : UInt8) (position : Nat)
  /-- The name is that of a way to pack octets. -/
  | packing
  /-- The name is that of a way to change letters. -/
  | letters
  deriving Repr, DecidableEq

/-- The wording of a fault. -/
def Fault.message : Fault → String
  | unmarked bits => "UTF-" ++ toString bits ++ " stream does not start with BOM"
  | leftover => "pending buffer overflow"
  | misplaced => "internal codec error"
  | irreplaceable => "Unsupported error handling replace"
  | undefined => "undefined encoding"
  | beyondAscii octet position =>
    "'ascii' codec can't decode byte 0x" ++ String.ofList (Nat.toDigits 16 octet.toNat) ++
      " in position " ++ toString position ++ ": ordinal not in range(128)"
  | packing => ""
  | letters => "descriptor 'translate' for 'str' objects doesn't apply to a 'bytes' object"

end Charset

/-- A character set: its name, the other names it goes by, and how it reads octets. -/
structure Charset where
  name : String
  aliases : List String
  decode : List UInt8 → Except Charset.Fault (List Char)

/-- A character set in which all octets can be read. -/
def Charset.total (name : String) (aliases : List String) (decode : List UInt8 → List Char) :
    Charset :=
  ⟨name, aliases, fun octets => .ok (decode octets)⟩

end ClientGen.Text
