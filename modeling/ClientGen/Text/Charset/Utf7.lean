import ClientGen.Text.Base64
import ClientGen.Text.Charset.Basic
import ClientGen.Text.CodePoint

/-!
# Characters as runs of base 64

Octets of ASCII stand for themselves.  A plus sign begins a run of digits of base 64, whose bits are
those of units of 16 bits; a hyphen may end it.
-/

namespace ClientGen.Text.Charset

/-- A run of digits: how many bits have not been taken yet, their value, and a first half of a
character. -/
structure Digits where
  count : Nat
  bits : Nat
  half : Option Nat

namespace Digits

/-- The beginning of a run. -/
def start : Digits := ⟨0, 0, none⟩

/-- What stands for a half of a character alone. -/
def lone (half : Option Nat) : List Char :=
  if half.isSome then [replacement] else []

/-- Takes a unit: the characters that it completes, and the half that it leaves. -/
def unit (half : Option Nat) (n : Nat) : List Char × Option Nat :=
  let isHigh : Bool := 0xd800 ≤ n ∧ n < 0xdc00
  let isLow : Bool := 0xdc00 ≤ n ∧ n < 0xe000
  match half, isLow with
  | some high, true => ([Char.ofNat (0x10000 + (high - 0xd800) * 0x400 + (n - 0xdc00))], none)
  | _, _ => if isHigh then (lone half, some n) else (lone half ++ [numbered n], none)

/-- Takes a digit: the characters that it completes, and the run behind it. -/
def push (digits : Digits) (value : Nat) : List Char × Digits :=
  let bits := digits.bits * 64 + value
  let count := digits.count + 6
  if count < 16 then ([], { digits with count, bits })
  else
    let behind := 1 <<< (count - 16)
    let (shown, half) := unit digits.half (bits / behind)
    (shown, ⟨count - 16, bits % behind, half⟩)

/-- Whether bits are left over that belong to a unit, or are not zero. -/
def isLoose (digits : Digits) : Bool :=
  6 ≤ digits.count || digits.bits ≠ 0

end Digits

/-- The value of an octet as a digit of base 64. -/
def digit64? (b : UInt8) : Option Nat :=
  Base64.value? (Char.ofNat b.toNat)

/-- The character of an octet that stands for itself. -/
def plain7 (b : UInt8) : Char :=
  if b < 0x80 then Char.ofNat b.toNat else replacement

/-- Reads octets, which may stand in a run. -/
def decode7 : Option Digits → List UInt8 → List Char
  | none, [] => []
  | some digits, [] => if digits.isLoose || digits.half.isSome then [replacement] else []
  | none, b :: rest =>
    if b = 0x2b then
      match rest with
      | [] => []
      | c :: more =>
        if c = 0x2d then '+' :: decode7 none more
        else match digit64? c with
          | some value => decode7 (some (Digits.start.push value).2) more
          | none => replacement :: decode7 none more
    else plain7 b :: decode7 none rest
  | some digits, b :: rest =>
    match digit64? b with
    | some value =>
      let (shown, digits) := digits.push value
      shown ++ decode7 (some digits) rest
    | none =>
      if digits.isLoose then replacement :: decode7 none rest
      else
        (if b < 0x80 then Digits.lone digits.half else []) ++
          (if b = 0x2d then decode7 none rest else plain7 b :: decode7 none rest)

/-- Runs of base 64 within ASCII. -/
def utf7 : Charset :=
  total "utf_7" ["u7", "unicode_1_1_utf_7", "utf7"] (decode7 none)

end ClientGen.Text.Charset
