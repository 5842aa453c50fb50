/-!
# Base 64

Digits of six bits: `octets?` reads the octets that they write, and passes over other characters.
-/

namespace ClientGen.Text.Base64

/-- The value of a digit of base 64. -/
def value? (c : Char) : Option Nat :=
  if c.isUpper then some (c.toNat - 65)
  else if c.isLower then some (c.toNat - 71)
  else if c.isDigit then some (c.toNat + 4)
  else if c == '+' then some 62
  else if c == '/' then some 63
  else none

/-- Octets in base 64: `place` digits of the group at hand have been read, `left` holds their bits
that are still to be written, and `pads` counts the equal signs since.  Other characters do not
count, and a group that is filled by equal signs ends the text. -/
def octetsFrom? (place left pads : Nat) : List Char → Option (List UInt8)
  | [] => if place = 0 then some [] else none
  | c :: rest =>
    if c = '=' then
      if 2 ≤ place then (if 4 ≤ place + pads + 1 then some [] else
        octetsFrom? place left (pads + 1) rest)
      else octetsFrom? place left pads rest
    else match value? c with
      | none => octetsFrom? place left pads rest
      | some n =>
        match place with
        | 0 => octetsFrom? 1 n 0 rest
        | 1 => (octetsFrom? 2 (n % 16) 0 rest).map (UInt8.ofNat (left * 4 + n / 16) :: ·)
        | 2 => (octetsFrom? 3 (n % 4) 0 rest).map (UInt8.ofNat (left * 16 + n / 4) :: ·)
        | _ => (octetsFrom? 0 0 0 rest).map (UInt8.ofNat (left * 64 + n) :: ·)

/-- The octets of a text in base 64. -/
def octets? (cs : List Char) : Option (List UInt8) :=
  octetsFrom? 0 0 0 cs

end ClientGen.Text.Base64
