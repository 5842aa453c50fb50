import ClientGen.Decimal.Numeral
import ClientGen.Shape
import ClientGen.Text.Blank
import ClientGen.Text.Utf8

/-!
# Readings of scalars

A place for a text, an integer, a number or a truth value also takes values of other types that can
be read as such: numbers written as text, integers for numbers, words such as `yes`.  Every reading
says how close the value is to what it was read as.
-/

namespace ClientGen.Shape

/-- How close a value is to what it was read as, from afar to the same. -/
inductive Closeness where
  | loose
  | near
  | exact
  deriving Repr, DecidableEq

/-- The rank of a closeness. -/
def Closeness.rank : Closeness → Nat
  | loose => 0
  | near => 1
  | exact => 2

/-- The lower of two. -/
def Closeness.min (a b : Closeness) : Closeness :=
  if a.rank ≤ b.rank then a else b

/-- A reading, or why there is none. -/
abbrev Reading (α : Type) := Except Cause (α × Closeness)

/-- Whether the character is white space; the information separators are not. -/
def isSpace (c : Char) : Bool :=
  Text.isBlank c && !(0x1c ≤ c.toNat && c.toNat ≤ 0x1f)

/-- Drops white space at both ends. -/
def stripSpace (cs : List Char) : List Char :=
  ((cs.dropWhile isSpace).reverse.dropWhile isSpace).reverse

/-! ### Integers from texts -/

/-- The most characters, the sign included, that an integer may be written with. -/
def maxIntegerLength : Nat := 4300

/-- The integer of a minus sign, if there is one, and then zero or digits that start with no zero.
Too many of them are a fault whatever follows. -/
def strictInteger (cs : List Char) : Except Cause Int :=
  let (negative, digits) := match cs with
    | '-' :: rest => (true, rest)
    | cs => (false, cs)
  let run := digits.takeWhile Char.isDigit
  let size := if negative then run.length + 1 else run.length
  if digits = ['0'] then .ok 0
  else if run.isEmpty || run.head? = some '0' then .error .unreadableInteger
  else if maxIntegerLength < size then .error .hugeInteger
  else if run.length < digits.length then .error .unreadableInteger
  else
    let n : Int := Numeral.ofDigits 10 run
    .ok (if negative then -n else n)

/-- Moves past zeros and underscores behind a leading zero, the character `last`: to a digit or a
minus sign, to `last` in front of a point, or to `last` at the end. -/
def skipZeros (last : Char) : List Char → Option (List Char)
  | [] => some [last]
  | c :: rest =>
    if c = '0' ∨ c = '_' then skipZeros c rest
    else if c.isDigit ∨ c = '-' then some (c :: rest)
    else if c = '.' then some (last :: c :: rest)
    else none

/-- Drops the leading zeros of a number, which has to start with a digit. -/
def dropLeadingZeros : List Char → Option (List Char)
  | [] => none
  | c :: rest => if c = '0' then skipZeros c rest else if c.isDigit then some (c :: rest) else none

/-- Drops a fraction of one or more zeros. -/
def dropZeroFraction (cs : List Char) : List Char :=
  let whole := cs.takeWhile (· ≠ '.')
  let fraction := cs.drop (whole.length + 1)
  if !fraction.isEmpty && fraction.all (· = '0') then whole else cs

/-- The plain spelling of an integer that is written with white space around it, a plus sign,
leading zeros, a fraction of zeros or underscores. -/
def plainSpelling? (s : String) : Option (List Char) := do
  let cs := stripSpace s.toList
  let spelled ← match cs with
    | '+' :: rest => dropLeadingZeros rest
    | '-' :: rest => (dropLeadingZeros rest).map ('-' :: ·)
    | cs => dropLeadingZeros cs
  let whole := dropZeroFraction spelled
  return (Numeral.withoutUnderscores? whole).getD whole

/-- The integer that a text stands for. -/
def integerOfText (s : String) : Except Cause Int :=
  match strictInteger s.toList with
  | .error .unreadableInteger =>
    match plainSpelling? s with
    | some cs => strictInteger cs
    | none => .error .unreadableInteger
  | result => result

/-! ### Numbers from texts -/

/-- The exponent at the end of a number. -/
def exponentOf? : List Char → Option Int
  | [] => some 0
  | c :: rest => if c = 'e' ∨ c = 'E' then Numeral.exponent? (c :: rest) else none

/-- The number that characters stand for. -/
def numberOfChars? (cs : List Char) : Option Float :=
  let (negative, rest) := Numeral.splitSign cs
  let word := String.ofList (rest.map Char.toLower)
  if word = "inf" ∨ word = "infinity" then
    some (if negative then -(1.0 / 0.0) else 1.0 / 0.0)
  else if word = "nan" then some (0.0 / 0.0)
  else
    let (whole, rest) := rest.span Char.isDigit
    let (fraction, rest) := match rest with
      | '.' :: rest => rest.span Char.isDigit
      | rest => ([], rest)
    if whole.isEmpty && fraction.isEmpty then none
    else (exponentOf? rest).map fun exponent =>
      Decimal.toFloat negative (Numeral.ofDigits 10 (whole ++ fraction))
        (exponent - fraction.length)

/-- The number that a text stands for.  White space may stand around a number without underscores
only. -/
def numberOfText (s : String) : Except Cause Float :=
  let joined := (Numeral.withoutUnderscores? s.toList).bind numberOfChars?
  match numberOfChars? (stripSpace s.toList) <|> joined with
  | some x => .ok x
  | none => .error .unreadableNumber

/-! ### Integers and truth values from other values -/

/-- The least integer that takes more than 63 bits and a sign. -/
def wordBound : Int := 0x8000000000000000

/-- The integer that a number stands for. -/
def integerOfNumber (x : Float) : Except Cause Int :=
  if x.isNaN || x.isInf then .error .infiniteInteger
  else match Decimal.integerOf? x with
    | none => .error .fractionalInteger
    | some n => if -wordBound < n ∧ n < wordBound then .ok n else .error .hugeInteger

/-- The truth value that a word stands for. -/
def truthOfText (s : String) : Except Cause Bool :=
  let word := String.ofList (s.toList.map Char.toLower)
  if ["0", "off", "f", "false", "n", "no"].contains word then .ok false
  else if ["1", "on", "t", "true", "y", "yes"].contains word then .ok true
  else .error .unreadableTruth

/-- The truth value that an integer stands for. -/
def truthOfInteger (n : Int) : Except Cause Bool :=
  if n = 0 then .ok false
  else if n = 1 then .ok true
  else if -wordBound ≤ n ∧ n < wordBound then .error .unreadableTruth
  else .error .notTruth

/-- The text of octets. -/
def textOfOctets (bytes : List UInt8) (cause : Cause) : Except Cause String :=
  match Text.Utf8.decode bytes with
  | .ok s => .ok s
  | .error _ => .error cause

private def loosely {α : Type} (result : Except Cause α) : Reading α :=
  result.map fun a => (a, .loose)

/-- Reads a text. -/
def readText : Value → Reading String
  | .str s => .ok (s, .exact)
  | .octets bytes => loosely (textOfOctets bytes .notUnicode)
  | _ => .error .notText

/-- Reads an integer. -/
def readInteger : Value → Reading Int
  | .int n => .ok (n, .exact)
  | .bool b => .ok (if b then 1 else 0, .loose)
  | .str s => loosely (integerOfText s)
  | .octets bytes => loosely ((textOfOctets bytes .unreadableInteger).bind integerOfText)
  | .float x => loosely (integerOfNumber x)
  | _ => .error .notInteger

/-- Reads a number. -/
def readNumber : Value → Reading Float
  | .float x => .ok (x, .exact)
  | .int n =>
    let x := Decimal.ofInt n
    if x.isInf then .error .notNumber else .ok (x, .near)
  | .bool b => .ok (if b then 1.0 else 0.0, .loose)
  | .str s => loosely (numberOfText s)
  | .octets bytes => loosely ((textOfOctets bytes .unreadableNumber).bind numberOfText)
  | _ => .error .notNumber

/-- Reads a truth value. -/
def readTruth : Value → Reading Bool
  | .bool b => .ok (b, .exact)
  | .str s => loosely (truthOfText s)
  | .octets bytes => loosely ((textOfOctets bytes .unreadableTruth).bind truthOfText)
  | .int n => loosely (truthOfInteger n)
  | .float x =>
    match integerOfNumber x with
    | .ok n => loosely (truthOfInteger n)
    | .error _ => .error .notTruth
  | _ => .error .notTruth

end ClientGen.Shape
