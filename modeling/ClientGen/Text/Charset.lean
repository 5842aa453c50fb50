import ClientGen.Text.Charset.Basic
import ClientGen.Text.Charset.Chinese
import ClientGen.Text.Charset.Escaped
import ClientGen.Text.Charset.Japanese
import ClientGen.Text.Charset.Korean
import ClientGen.Text.Charset.Switching
import ClientGen.Text.Charset.Taiwanese
import ClientGen.Text.Charset.Unicode
import ClientGen.Text.Charset.Utf7
import ClientGen.Text.CodePage
import ClientGen.Text.CodePoint

/-!
# Character sets by name

`Charset.ofName?` finds a set by any of its names, whatever stands between their words.
-/

namespace ClientGen.Text.Charset

/-! ### Sets of one octet a character

ASCII, the numbers of characters themselves, and all code pages.
-/

/-- ASCII. -/
def ascii : Charset :=
  total "ascii"
    ["646", "ansi_x3.4_1968", "ansi_x3.4_1986", "ansi_x3_4_1968", "cp367", "csascii", "ibm367",
      "iso646_us", "iso_646.irv_1991", "iso_ir_6", "us", "us_ascii"]
    fun octets => octets.map fun b => if b < 0x80 then Char.ofNat b.toNat else replacement

/-- The characters whose numbers the octets are. -/
def charsNumbered (octets : List UInt8) : List Char :=
  octets.map fun b => Char.ofNat b.toNat

/-- The first part of ISO 8859. -/
def latin1 : Charset :=
  total "latin_1"
    ["8859", "cp819", "csisolatin1", "ibm819", "iso8859", "iso8859_1", "iso_8859_1",
      "iso_8859_1_1987", "iso_ir_100", "l1", "latin", "latin1"]
    charsNumbered

/-- A set without a name for its characters but their numbers. -/
def charmap : Charset := total "charmap" [] charsNumbered

/-- The set of a code page. -/
def ofPage (page : CodePage) : Charset :=
  total page.name page.aliases page.decode

/-- The sets of one octet a character. -/
def single : List Charset :=
  [ascii, latin1, charmap] ++
    (CodePage.iso ++ CodePage.windows ++ CodePage.dos ++ CodePage.mac ++ CodePage.ebcdic ++
      CodePage.national).map ofPage

/-! ### Names that give no text

Some names are known, but nothing is read by them: ways to pack octets, a change of letters, a set
in which nothing may be malformed, and the set without characters.
-/

/-- A name by which nothing is read. -/
def failing (fault : Fault) (name : String) (aliases : List String) : Charset :=
  ⟨name, aliases, fun _ => .error fault⟩

/-- The names by which nothing is read. -/
def unreadable : List Charset := [
  failing .packing "base64_codec" ["base64", "base_64"],
  failing .packing "bz2_codec" ["bz2"],
  failing .packing "hex_codec" ["hex"],
  failing .packing "quopri_codec" ["quopri", "quoted_printable", "quotedprintable"],
  failing .packing "uu_codec" ["uu"],
  failing .packing "zlib_codec" ["zip", "zlib"],
  failing .letters "rot_13" ["rot13"],
  failing .irreplaceable "idna" [],
  failing .undefined "undefined" []]

/-! ### Looking up a name -/

/-- All character sets. -/
def all : List Charset :=
  unicode ++ single ++ japanese ++ korean ++ chinese ++ taiwanese ++ switching ++ [utf7] ++
    escaped ++ unreadable

/-- A name as it is looked up, from its characters: letters, digits and points in lower case, with
one underscore for whatever stands between them; `apart` tells whether something does. -/
def plainChars (apart : Bool) : List Char → List Char
  | [] => []
  | c :: rest =>
    if c.isAlphanum || c == '.' then
      (if apart then ['_'] else []) ++ c.toLower :: plainChars false rest
    else plainChars true rest

/-- A name as it is looked up. -/
def plainName (name : String) : String :=
  String.ofList (plainChars false (name.toList.dropWhile fun c => !(c.isAlphanum || c == '.')))

/-- The set that has a name among its aliases. -/
def ofAlias? (name : String) : Option Charset :=
  all.find? (·.aliases.contains name)

/-- The character set of a name: an alias, also with underscores for points, or the name itself. -/
def ofName? (name : String) : Option Charset :=
  let plain := plainName name
  let pointless := String.ofList (plain.toList.map fun c => if c = '.' then '_' else c)
  ofAlias? plain <|> ofAlias? pointless <|> all.find? (·.name == plain)

end ClientGen.Text.Charset
