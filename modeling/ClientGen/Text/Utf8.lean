import ClientGen.Text.CodePoint
import ClientGen.Text.Hex

/-!
# Decoding UTF-8

`step` reads one character from the front of a sequence of octets or finds the longest prefix that
cannot begin a character, with the reason.  `decode` stops at the first fault, which names the
octets by their positions; `decodeLossy` puts U+FFFD in place of each faulty prefix and goes on.
-/

namespace ClientGen.Text.Utf8

/-- Why octets at some place are no character. -/
inductive Fault where
  /-- No character starts with the octet. -/
  | start
  /-- An octet that should continue a character does not. -/
  | continuation
  /-- The octets end inside a character. -/
  | truncated
  deriving Repr, DecidableEq

/-- The wording of a fault. -/
def Fault.reason : Fault → String
  | .start => "invalid start byte"
  | .continuation => "invalid continuation byte"
  | .truncated => "unexpected end of data"

/-- Outcome of reading one character: the character and the octets it took, or the fault and the
octets that are at fault. -/
inductive Step where
  | char (c : Char) (size : Nat)
  | fault (f : Fault) (size : Nat)
  deriving Repr

/-- What the first octet promises: the number of further octets, the bounds of the second octet and
the bits the first one contributes. -/
def lead? (b : UInt8) : Option (Nat × Nat × Nat × Nat) :=
  let n := b.toNat
  if 0xc2 ≤ n ∧ n ≤ 0xdf then some (1, 0x80, 0xbf, n % 32)
  else if n = 0xe0 then some (2, 0xa0, 0xbf, 0)
  else if n = 0xed then some (2, 0x80, 0x9f, n % 16)
  else if 0xe1 ≤ n ∧ n ≤ 0xef then some (2, 0x80, 0xbf, n % 16)
  else if n = 0xf0 then some (3, 0x90, 0xbf, 0)
  else if 0xf1 ≤ n ∧ n ≤ 0xf3 then some (3, 0x80, 0xbf, n % 8)
  else if n = 0xf4 then some (3, 0x80, 0x8f, 4)
  else none

/-- Reads `more` continuation octets, the first of them within `[low, high]`; `size` octets have
been read so far and their bits are `bits`. -/
def continuation (more low high bits size : Nat) (octets : List UInt8) : Step :=
  match more, octets with
  | 0, _ => .char (Char.ofNat bits) size
  | _ + 1, [] => .fault .truncated size
  | more + 1, b :: rest =>
    if low ≤ b.toNat ∧ b.toNat ≤ high then
      continuation more 0x80 0xbf (bits * 64 + b.toNat % 64) (size + 1) rest
    else .fault .continuation size

/-- Reads the character that starts with octet `b`. -/
def step (b : UInt8) (rest : List UInt8) : Step :=
  if b.toNat < 0x80 then .char (Char.ofNat b.toNat) 1
  else match lead? b with
    | none => .fault .start 1
    | some (more, low, high, bits) => continuation more low high bits 1 rest

/-- A fault at a position: the octets from `start` on, `size` of them, the first being `octet`. -/
structure Located where
  fault : Fault
  start : Nat
  size : Nat
  octet : UInt8
  deriving Repr

/-- The wording of a fault at a position. -/
def Located.message (e : Located) : String :=
  let place :=
    if e.size = 1 then
      "byte 0x" ++ String.ofList (hex 2 e.octet.toNat) ++ " in position " ++ toString e.start
    else
      "bytes in position " ++ toString e.start ++ "-" ++ toString (e.start + e.size - 1)
  "'utf-8' codec can't decode " ++ place ++ ": " ++ e.fault.reason

/-- Decodes the octets; the first `skip` of them belong to a character already read and `position`
octets stand before them. -/
def decodeFrom (position skip : Nat) (done : List Char) :
    List UInt8 → Except Located (List Char)
  | [] => .ok done.reverse
  | b :: rest =>
    match skip with
    | skip + 1 => decodeFrom (position + 1) skip done rest
    | 0 =>
      match step b rest with
      | .char c size => decodeFrom (position + 1) (size - 1) (c :: done) rest
      | .fault f size => .error ⟨f, position, size, b⟩

/-- The text of the octets, or the first fault. -/
def decode (octets : List UInt8) : Except Located String :=
  (decodeFrom 0 0 [] octets).map String.ofList

/-- Decodes the octets with U+FFFD for each faulty prefix; the first `skip` of them are already
accounted for. -/
def decodeLossyFrom (skip : Nat) (done : List Char) : List UInt8 → List Char
  | [] => done.reverse
  | b :: rest =>
    match skip with
    | skip + 1 => decodeLossyFrom skip done rest
    | 0 =>
      match step b rest with
      | .char c size => decodeLossyFrom (size - 1) (c :: done) rest
      | .fault _ size => decodeLossyFrom (size - 1) (replacement :: done) rest

/-- The text of the octets, faulty ones replaced. -/
def decodeLossy (octets : List UInt8) : String :=
  String.ofList (decodeLossyFrom 0 [] octets)

end ClientGen.Text.Utf8
