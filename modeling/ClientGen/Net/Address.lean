import ClientGen.Text.Hex
import ClientGen.Text.Lines

/-!
# Numeric addresses

The strict text forms of addresses of 32 and 128 bits, and the networks of addresses that are not
reachable from everywhere.  A short address consists of four decimal octets without leading zeros, a
long one of eight groups of hexadecimal digits, a run of which may be left out once; its last two
groups may be written as a short address.
-/

namespace ClientGen.Net

/-- A numeric address. -/
inductive Address where
  | short (n : Nat)
  | long (n : Nat)
  deriving Repr, DecidableEq

/-- The value of a decimal octet. -/
def octet? (cs : List Char) : Option Nat :=
  if cs.isEmpty || !cs.all Char.isDigit || 3 < cs.length || (cs.head? = some '0' && cs ≠ ['0']) then
    none
  else
    let n := cs.foldl (fun n c => 10 * n + (c.toNat - '0'.toNat)) 0
    if n ≤ 255 then some n else none

/-- Reads a short address. -/
def short? (cs : List Char) : Option Nat :=
  match Text.splitChars '.' cs with
  | [a, b, c, d] => do
    let a ← octet? a
    let b ← octet? b
    let c ← octet? c
    let d ← octet? d
    return ((a * 256 + b) * 256 + c) * 256 + d
  | _ => none

/-- The value of a group of one to four hexadecimal digits. -/
def group? (cs : List Char) : Option Nat :=
  if cs.isEmpty || 4 < cs.length then none
  else Text.hexNumber? cs

/-- A group as hexadecimal digits. -/
def groupDigits (n : Nat) : List Char :=
  Nat.toDigits 16 n

/-- The groups of a long address, a short address at its end written as two groups. -/
def groupTexts (cs : List Char) : Option (List (List Char)) :=
  let parts := Text.splitChars ':' cs
  if parts.length < 3 then none
  else
    match parts.getLast? with
    | some last =>
      if last.contains '.' then
        (short? last).map fun n =>
          parts.dropLast ++ [groupDigits (n / 65536), groupDigits (n % 65536)]
      else some parts
    | none => none

/-- The value of groups, from the highest to the lowest. -/
def groupsValue (groups : List (List Char)) : Option Nat :=
  groups.foldlM (fun n group => (group? group).map (65536 * n + ·)) 0

/-- The positions of empty groups other than the first and the last one. -/
def gaps (parts : List (List Char)) : List Nat :=
  (List.range parts.length).filter fun i =>
    0 < i && i + 1 < parts.length && parts[i]? == some []

/-- Reads a long address with a gap: `high` stands in front of it and `low` behind; an empty group
at an end belongs to the gap. -/
def withGap (high low : List (List Char)) : Option Nat :=
  let high? :=
    if high.head? = some [] then (if high.length = 1 then some [] else none) else some high
  let low? :=
    if low.getLast? = some [] then (if low.length = 1 then some [] else none) else some low
  match high?, low? with
  | some high, some low =>
    -- A gap stands for one group at least.
    if 8 ≤ high.length + low.length then none
    else do
      let a ← groupsValue high
      let b ← groupsValue low
      return (a <<< (16 * (8 - high.length))) + b
  | _, _ => none

/-- Reads a long address without its zone. -/
def groups? (cs : List Char) : Option Nat :=
  match groupTexts cs with
  | none => none
  | some parts =>
    if 9 < parts.length then none
    else match gaps parts with
      | [] => if parts.length = 8 then groupsValue parts else none
      | [i] => withGap (parts.take i) (parts.drop (i + 1))
      | _ => none

/-- Reads a long address; a zone behind a percent sign must not be empty. -/
def long? (cs : List Char) : Option Nat :=
  let address := cs.takeWhile (· ≠ '%')
  match cs.drop address.length with
  | [] => groups? address
  | _ :: zone => if zone.isEmpty || zone.contains '%' then none else groups? address

/-- Reads an address. -/
def Address.read (s : String) : Option Address :=
  let cs := s.toList
  if cs.contains '/' then none
  else (short? cs).map Address.short <|> (long? cs).map Address.long

/-- The short address that a long one stands for. -/
def Address.unmapped : Address → Address
  | short n => short n
  | long n => if n >>> 32 = 0xffff then short (n % 0x100000000) else long n

/-- The addresses whose first bits agree with those of a given one. -/
structure Network where
  base : Address
  bits : Nat

/-- Whether a network has the address. -/
def Network.has (network : Network) (address : Address) : Bool :=
  match network.base, address with
  | .short a, .short b => a >>> (32 - network.bits) == b >>> (32 - network.bits)
  | .long a, .long b => a >>> (128 - network.bits) == b >>> (128 - network.bits)
  | _, _ => false

/-- A short address from its octets. -/
def ofOctets (a b c d : Nat) : Address :=
  .short (((a * 256 + b) * 256 + c) * 256 + d)

/-- The networks of this machine and of private networks. -/
def privateNetworks : List Network :=
  [⟨ofOctets 0 0 0 0, 32⟩, ⟨ofOctets 127 0 0 0, 8⟩, ⟨ofOctets 10 0 0 0, 8⟩,
   ⟨ofOctets 172 16 0 0, 12⟩, ⟨ofOctets 192 168 0 0, 16⟩, ⟨ofOctets 169 254 0 0, 16⟩,
   ⟨.long 0, 128⟩, ⟨.long 1, 128⟩, ⟨.long (0xfc00 <<< 112), 7⟩, ⟨.long (0xfe80 <<< 112), 10⟩]

/-- Whether the address belongs to this machine or to a private network. -/
def Address.isPrivate (address : Address) : Bool :=
  privateNetworks.any fun network => network.has address.unmapped

end ClientGen.Net
