import ClientGen.Text.Hex
import ClientGen.Text.Printable

/-!
# Quoted text

The quoted form of a text in messages: single quotes, or double quotes when the text holds a single
quote and no double one.  Backslashes and the quote in use are escaped, tabs and line ends have
short escapes, and other characters that are not printable are written by their code.

In texts that may hold ASCII characters only, `Ascii.fault?` finds the first run of others.
-/

namespace ClientGen.Text

/-- The escape of a character by its code. -/
def codeEscape (n : Nat) : List Char :=
  if n < 0x100 then '\\' :: 'x' :: hex 2 n
  else if n < 0x10000 then '\\' :: 'u' :: hex 4 n
  else '\\' :: 'U' :: hex 8 n

/-- One character inside the given quote. -/
def quoteChar (quote c : Char) : List Char :=
  if c = quote ∨ c = '\\' then ['\\', c]
  else if c = '\n' then ['\\', 'n']
  else if c = '\r' then ['\\', 'r']
  else if c = '\t' then ['\\', 't']
  else if isPrintable c then [c]
  else codeEscape c.toNat

/-- The quote to use around the characters. -/
def chooseQuote (cs : List Char) : Char :=
  if cs.contains '\'' && !cs.contains '"' then '"' else '\''

/-- The quoted form of a text. -/
def quoted (s : String) : String :=
  let cs := s.toList
  let quote := chooseQuote cs
  String.ofList (quote :: cs.flatMap (quoteChar quote) ++ [quote])

/-- One octet inside the given quote. -/
def quoteOctet (quote : Char) (b : UInt8) : List Char :=
  let c := Char.ofNat b.toNat
  if c = quote ∨ c = '\\' then ['\\', c]
  else if c = '\n' then ['\\', 'n']
  else if c = '\r' then ['\\', 'r']
  else if c = '\t' then ['\\', 't']
  else if 0x20 ≤ b.toNat ∧ b.toNat < 0x7f then [c]
  else '\\' :: 'x' :: hex 2 b.toNat

/-- The quoted form of a sequence of octets, marked by a `b`. -/
def quotedOctets (octets : List UInt8) : String :=
  let quote := chooseQuote (octets.map fun b => Char.ofNat b.toNat)
  String.ofList ('b' :: quote :: octets.flatMap (quoteOctet quote) ++ [quote])

/-! ### ASCII -/

namespace Ascii

/-- Whether the character is in ASCII. -/
def contains (c : Char) : Bool :=
  c.toNat < 0x80

/-- A run of characters that are not in ASCII: where it starts, how many there are, and the first
of them. -/
structure Fault where
  start : Nat
  size : Nat
  first : Char
  deriving Repr, DecidableEq

/-- The first run of characters that are not in ASCII. -/
def fault? (s : String) : Option Fault :=
  let (front, rest) := s.toList.span contains
  rest.head?.map fun first => ⟨front.length, (rest.takeWhile fun c => !contains c).length, first⟩

/-- The wording of a fault. -/
def Fault.message (fault : Fault) : String :=
  let place :=
    if fault.size = 1 then
      "character '" ++ String.ofList (codeEscape fault.first.toNat) ++ "' in position " ++
        toString fault.start
    else
      "characters in position " ++ toString fault.start ++ "-" ++
        toString (fault.start + fault.size - 1)
  "'ascii' codec can't encode " ++ place ++ ": ordinal not in range(128)"

end Ascii

end ClientGen.Text
