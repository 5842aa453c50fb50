import ClientGen.Decimal.FloatText
import ClientGen.Text.Blank
import ClientGen.Text.Digit
import ClientGen.Text.Quoted

/-!
# Numerals

Numbers are read from digits.  Decimal digits of any script count as those of ASCII and the blanks
beyond ASCII as spaces (`asciiChar`).  A sign may stand in front and spaces around the number, and
single underscores may stand between digits.  `integer` reads an integer in a base; a decimal one
has at most 4300 digits.  `float?` reads a float, which may have a point and an exponent or be one
of the words for the values that are not finite.
-/

namespace ClientGen.Numeral

/-! ### Characters -/

/-- The character of ASCII that a character counts as: blanks beyond ASCII are spaces, decimal
digits of other scripts are digits, and the rest stands in no number. -/
def asciiChar (c : Char) : Char :=
  if c.toNat < 0x7f then c
  else if Text.isBlank c then ' '
  else match Text.decimalValue? c with
    | some d => Char.ofNat (0x30 + d)
    | none => '?'

/-- The spaces of ASCII that may stand around a number. -/
def isSpace (c : Char) : Bool :=
  c == ' ' || (0x9 ≤ c.toNat && c.toNat ≤ 0xd)

/-- Drops the spaces at both ends. -/
def trimSpaces (cs : List Char) : List Char :=
  ((cs.dropWhile isSpace).reverse.dropWhile isSpace).reverse

/-- A sign in front, and the rest; true stands for minus. -/
def splitSign : List Char → Bool × List Char
  | '-' :: rest => (true, rest)
  | '+' :: rest => (false, rest)
  | cs => (false, cs)

/-- Takes single underscores out of the inside of a text; nothing when an underscore is at an end or
beside another one. -/
def withoutUnderscores? (cs : List Char) : Option (List Char) :=
  if cs.head? = some '_' ∨ cs.getLast? = some '_' ∨
      (cs.zip cs.tail).any (fun pair => pair.1 = '_' && pair.2 = '_') then none
  else some (cs.filter (· ≠ '_'))

/-! ### Integers -/

/-- Why a text is no integer. -/
inductive Fault where
  | malformed
  /-- More decimal digits than an integer is read from. -/
  | digits (count : Nat)
  deriving Repr, DecidableEq

/-- The most decimal digits that an integer is read from. -/
def maxDigits : Nat := 4300

/-- The most characters of a text that a fault shows. -/
def maxShown : Nat := 200

/-- The wording of a fault in a text that was read in a base. -/
def Fault.message (base : Nat) (text : String) : Fault → String
  | malformed =>
    "invalid literal for int() with base " ++ toString base ++ ": " ++
      String.ofList ((Text.quoted text).toList.take maxShown)
  | digits count =>
    "Exceeds the limit (4300 digits) for integer string conversion: value has " ++ toString count ++
      " digits; use sys.set_int_max_str_digits() to increase the limit"

/-- The least integer that has too many digits to be written. -/
def longBound : Nat := Nat.pow 10 maxDigits

/-- Whether an integer has too many digits to be written. -/
def isLong (n : Int) : Bool :=
  longBound ≤ n.natAbs

/-- Why an integer is not written. -/
def longMessage : String :=
  "Exceeds the limit (4300 digits) for integer string conversion; " ++
    "use sys.set_int_max_str_digits() to increase the limit"

/-- The value of a digit in bases up to 36. -/
def digitValue? (c : Char) : Option Nat :=
  if c.isDigit then some (c.toNat - 48)
  else if 'a' ≤ c ∧ c ≤ 'z' then some (c.toNat - 87)
  else if 'A' ≤ c ∧ c ≤ 'Z' then some (c.toNat - 55)
  else none

/-- Whether the character is a digit of a base. -/
def isDigitOf (base : Nat) (c : Char) : Bool :=
  (digitValue? c).any (· < base)

/-- The number that digits of a base stand for. -/
def ofDigits (base : Nat) (digits : List Char) : Nat :=
  digits.foldl (fun n c => base * n + (digitValue? c).getD 0) 0

/-- The letter that marks a base. -/
def baseLetter? (base : Nat) : Option Char :=
  if base = 16 then some 'x' else if base = 8 then some 'o' else if base = 2 then some 'b' else none

/-- Drops the mark of a base, and the underscore behind it. -/
def dropBaseMark (base : Nat) : List Char → List Char
  | '0' :: letter :: rest =>
    if (baseLetter? base).any (· == letter.toLower) then
      match rest with
      | '_' :: rest => rest
      | rest => rest
    else '0' :: letter :: rest
  | cs => cs

/-- The integer that a text stands for in a base.  Too many decimal digits are a fault whatever
follows them. -/
def integer (base : Nat) (text : String) : Except Fault Int :=
  let (negative, cs) := splitSign ((text.toList.map asciiChar).dropWhile isSpace)
  let cs := dropBaseMark base cs
  let run := cs.takeWhile fun c => c == '_' || isDigitOf base c
  match withoutUnderscores? run with
  | none => .error .malformed
  | some digits =>
    if base = 10 ∧ maxDigits < digits.length then .error (.digits digits.length)
    else if digits.isEmpty || !(cs.drop run.length).all isSpace then .error .malformed
    else
      let n : Int := ofDigits base digits
      .ok (if negative then -n else n)

/-- The decimal integer that a text stands for, if there is one. -/
def integer? (text : String) : Option Int :=
  (integer 10 text).toOption

/-! ### Floats -/

/-- The exponent at the end of a numeral. -/
def exponent? : List Char → Option Int
  | [] => some 0
  | _ :: rest =>
    let (negative, digits) := splitSign rest
    if digits.isEmpty || !digits.all Char.isDigit then none
    else some (if negative then -(ofDigits 10 digits : Int) else ofDigits 10 digits)

/-- The float that a numeral of lower-case letters without a sign stands for. -/
def unsigned? (negative : Bool) (body : List Char) : Option Float :=
  let infinity : Float := 1.0 / 0.0
  if body == "inf".toList || body == "infinity".toList then
    some (if negative then -infinity else infinity)
  else if body == "nan".toList then some (0.0 / 0.0)
  else
    let mantissa := body.takeWhile (· ≠ 'e')
    let whole := mantissa.takeWhile (· ≠ '.')
    let behind := (mantissa.drop whole.length).drop 1
    let digits := whole ++ behind
    if digits.isEmpty || !digits.all Char.isDigit then none
    else (exponent? (body.drop mantissa.length)).map fun exponent =>
      Decimal.toFloat negative (ofDigits 10 digits) (exponent - behind.length)

/-- Drops single underscores between digits; nothing when an underscore stands elsewhere. -/
def dropUnderscores (afterDigit : Bool) : List Char → Option (List Char)
  | [] => some []
  | '_' :: c :: rest =>
    if afterDigit && c.isDigit then (dropUnderscores true rest).map (c :: ·) else none
  | '_' :: [] => none
  | c :: rest => (dropUnderscores c.isDigit rest).map (c :: ·)

/-- The float that a text stands for. -/
def float? (text : String) : Option Float :=
  (dropUnderscores false (trimSpaces (text.toList.map asciiChar))).bind fun cs =>
    let (negative, body) := splitSign cs
    unsigned? negative (body.map Char.toLower)

end ClientGen.Numeral
