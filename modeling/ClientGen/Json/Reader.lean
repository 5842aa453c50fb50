import ClientGen.Decimal.FloatText
import ClientGen.Text.Hex
import ClientGen.Value

/-!
# Reading JSON

A reader for JSON text that also accepts `NaN`, `Infinity` and `-Infinity`.  Every step works on the
characters that are left, so a fault is placed by how many characters were left when it was found.
Where an object repeats a name, the name keeps its first place and its last value.  Integers of more
than 4300 digits are refused.
-/

namespace ClientGen.Json

/-- Why a text is not JSON. -/
inductive Fault where
  | value
  | propertyName
  | colon
  | comma
  | extraData
  | unterminated
  | control
  | escape
  | unicodeEscape
  | byteOrderMark
  /-- An integer with so many digits that it is not read. -/
  | digits (count : Nat)
  deriving Repr, DecidableEq

/-- The wording of a fault. -/
def Fault.message : Fault → String
  | .value => "Expecting value"
  | .propertyName => "Expecting property name enclosed in double quotes"
  | .colon => "Expecting ':' delimiter"
  | .comma => "Expecting ',' delimiter"
  | .extraData => "Extra data"
  | .unterminated => "Unterminated string starting at"
  | .control => "Invalid control character at"
  | .escape => "Invalid \\escape"
  | .unicodeEscape => "Invalid \\uXXXX escape"
  | .byteOrderMark => "Unexpected UTF-8 BOM (decode using utf-8-sig)"
  | .digits count =>
    "Exceeds the limit (4300 digits) for integer string conversion: value has " ++ toString count ++
      " digits; use sys.set_int_max_str_digits() to increase the limit"

/-- A fault and the number of characters that were left at its place. -/
structure Failure where
  fault : Fault
  left : Nat
  deriving Repr, DecidableEq

/-- The outcome of a step: what was read and the characters after it. -/
abbrev Step (α : Type) := Except Failure (α × List Char)

/-- Blanks of JSON. -/
def isSpace (c : Char) : Bool :=
  c == ' ' || c == '\t' || c == '\n' || c == '\r'

/-- Drops blanks. -/
def skipSpace (cs : List Char) : List Char :=
  cs.dropWhile isSpace

/-- The character of a one-letter escape. -/
def shortEscape? (c : Char) : Option Char :=
  match c with
  | '"' => some '"'
  | '\\' => some '\\'
  | '/' => some '/'
  | 'b' => some (Char.ofNat 8)
  | 'f' => some (Char.ofNat 12)
  | 'n' => some '\n'
  | 'r' => some '\r'
  | 't' => some '\t'
  | _ => none

/-- Puts a character in front of what a step read. -/
def Step.cons (c : Char) (step : Step (List Char)) : Step (List Char) :=
  step.map fun (s, rest) => (c :: s, rest)

/-- Whether the code is the first half of a pair of UTF-16 units. -/
def isHighHalf (n : Nat) : Bool :=
  decide (0xd800 ≤ n ∧ n < 0xdc00)

/-- Whether the code is the second half of a pair of UTF-16 units. -/
def isLowHalf (n : Nat) : Bool :=
  decide (0xdc00 ≤ n ∧ n < 0xe000)

/-- Reads a string after its opening quote, `start` being the number of characters that were left at
that quote.  An escape of four hexadecimal digits needs a character behind it; two escapes of halves
of a pair make one character.  A half that stands alone is no character of a text: it is read as the
character with the number zero, and texts that hold such halves are not modelled. -/
def readString (start : Nat) : List Char → Step (List Char)
  | [] => .error ⟨.unterminated, start⟩
  | ['\\'] => .error ⟨.unterminated, start⟩
  | '\\' :: 'u' :: a :: b :: c :: d :: e :: rest =>
    let here := rest.length + 6
    match Text.hexNumber? [a, b, c, d] with
    | none => .error ⟨.unicodeEscape, here⟩
    | some n =>
      -- A first half waits for an escape of a second one.
      if isHighHalf n ∧ e = '\\' then
        match rest with
        | 'u' :: a' :: b' :: c' :: d' :: f :: rest' =>
          match Text.hexNumber? [a', b', c', d'] with
          | none => .error ⟨.unicodeEscape, rest'.length + 6⟩
          | some m =>
            if isLowHalf m then
              (readString start (f :: rest')).cons
                (Char.ofNat (0x10000 + (n - 0xd800) * 0x400 + (m - 0xdc00)))
            -- The second escape is read again: it may begin a pair of its own.
            else (readString start ('\\' :: 'u' :: a' :: b' :: c' :: d' :: f :: rest')).cons
              (Char.ofNat n)
        | rest => (readString start ('\\' :: rest)).cons (Char.ofNat n)
      else (readString start (e :: rest)).cons (Char.ofNat n)
  | '\\' :: 'u' :: rest => .error ⟨.unicodeEscape, rest.length + 1⟩
  | '\\' :: c :: rest =>
    match shortEscape? c with
    | some d => (readString start rest).cons d
    | none => .error ⟨.escape, rest.length + 2⟩
  | c :: rest =>
    if c = '"' then .ok ([], rest)
    else if c.toNat < 0x20 then .error ⟨.control, rest.length + 1⟩
    else (readString start rest).cons c
termination_by cs => cs.length

/-- The number that a run of ASCII digits denotes. -/
def digitsValue (digits : List Char) : Nat :=
  digits.foldl (fun n c => n * 10 + (c.toNat - 48)) 0

/-- Reads the exponent of a number, when there is one. -/
def readExponent : List Char → Option (Int × List Char)
  | e :: rest =>
    if e = 'e' ∨ e = 'E' then
      let (negative, rest) := match rest with
        | '-' :: rest => (true, rest)
        | '+' :: rest => (false, rest)
        | rest => (false, rest)
      let digits := rest.takeWhile Char.isDigit
      if digits.isEmpty then none
      else
        let n : Int := digitsValue digits
        some (if negative then -n else n, rest.drop digits.length)
    else none
  | [] => none

/-- Reads the fraction of a number, when there is one: its digits. -/
def readFraction : List Char → Option (List Char × List Char)
  | '.' :: rest =>
    let digits := rest.takeWhile Char.isDigit
    if digits.isEmpty then none else some (digits, rest.drop digits.length)
  | _ => none

/-- The integer of a sign and digits, unless there are too many digits. -/
def integer (negative : Bool) (digits : List Char) (left : Nat) : Except Failure Value :=
  if 4300 < digits.length then .error ⟨.digits digits.length, left⟩
  else
    let n : Int := digitsValue digits
    .ok (.int (if negative then -n else n))

/-- Reads a number after its sign, `left` being the number of characters that were left at the
sign. -/
def readNumber (negative : Bool) (left : Nat) (cs : List Char) : Step Value :=
  let digits := match cs with
    | '0' :: _ => ['0']
    | _ => cs.takeWhile Char.isDigit
  if digits.isEmpty then .error ⟨.value, left⟩
  else
    let rest := cs.drop digits.length
    let (fraction, rest') := (readFraction rest).getD ([], rest)
    match readExponent rest', fraction with
    -- Neither fraction nor exponent: the number is an integer.
    | none, [] => (integer negative digits left).map (·, rest)
    | none, fraction =>
      .ok (.float (Decimal.toFloat negative (digitsValue (digits ++ fraction)) (-fraction.length)),
        rest')
    | some (exponent, rest''), fraction =>
      .ok (.float (Decimal.toFloat negative (digitsValue (digits ++ fraction))
        (exponent - fraction.length)), rest'')

/-- Reads the word `word`, whose value is `value`. -/
def readWord (word : String) (value : Value) (cs : List Char) : Option (Value × List Char) :=
  if word.toList.isPrefixOf cs then some (value, cs.drop word.length) else none

/-- Reads a value that is neither string nor collection. -/
def readScalar (cs : List Char) : Step Value :=
  let infinity : Float := 1.0 / 0.0
  let words := [("null", Value.null), ("true", .bool true), ("false", .bool false),
    ("NaN", .float (0.0 / 0.0)), ("Infinity", .float infinity), ("-Infinity", .float (-infinity))]
  match words.findSome? fun (word, value) => readWord word value cs with
  | some step => .ok step
  | none =>
    match cs with
    | '-' :: rest => readNumber true cs.length rest
    | cs => readNumber false cs.length cs

mutual

/-- Reads a value. -/
def readValue (fuel : Nat) (cs : List Char) : Step Value :=
  match fuel with
  | 0 => .error ⟨.value, cs.length⟩
  | fuel + 1 =>
    match cs with
    | '"' :: rest => (readString cs.length rest).map fun (s, rest) => (.str (String.ofList s), rest)
    | '[' :: rest =>
      match skipSpace rest with
      | ']' :: rest => .ok (.list [], rest)
      | rest => (readItems fuel rest).map fun (items, rest) => (.list items, rest)
    | '{' :: rest =>
      match skipSpace rest with
      | '}' :: rest => .ok (.object [], rest)
      | rest =>
        (readFields fuel rest).map fun (fields, rest) => (.object (Entries.ofList fields), rest)
    | cs => readScalar cs

/-- Reads the items of a list up to its end. -/
def readItems (fuel : Nat) (cs : List Char) : Step (List Value) :=
  match fuel with
  | 0 => .error ⟨.value, cs.length⟩
  | fuel + 1 =>
    match readValue fuel cs with
    | .error failure => .error failure
    | .ok (item, rest) =>
      match skipSpace rest with
      | ']' :: rest => .ok ([item], rest)
      | ',' :: rest =>
        (readItems fuel (skipSpace rest)).map fun (items, rest) => (item :: items, rest)
      | rest => .error ⟨.comma, rest.length⟩

/-- Reads the fields of an object up to its end. -/
def readFields (fuel : Nat) (cs : List Char) : Step (List (String × Value)) :=
  match fuel with
  | 0 => .error ⟨.value, cs.length⟩
  | fuel + 1 =>
    match cs with
    | '"' :: rest =>
      match readString cs.length rest with
      | .error failure => .error failure
      | .ok (name, rest) =>
        match skipSpace rest with
        | ':' :: rest =>
          match readValue fuel (skipSpace rest) with
          | .error failure => .error failure
          | .ok (value, rest) =>
            match skipSpace rest with
            | '}' :: rest => .ok ([(String.ofList name, value)], rest)
            | ',' :: rest =>
              (readFields fuel (skipSpace rest)).map fun (fields, rest) =>
                ((String.ofList name, value) :: fields, rest)
            | rest => .error ⟨.comma, rest.length⟩
        | rest => .error ⟨.colon, rest.length⟩
    | cs => .error ⟨.propertyName, cs.length⟩

end

/-- Reads a whole text. -/
def readChars (cs : List Char) : Except Failure Value :=
  if cs.head? = some (Char.ofNat 0xfeff) then .error ⟨.byteOrderMark, cs.length⟩
  else
    -- Two steps for each character are enough: one for a collection, one for what it holds.
    match readValue (2 * cs.length + 2) (skipSpace cs) with
    | .error failure => .error failure
    | .ok (value, rest) =>
      match skipSpace rest with
      | [] => .ok value
      | rest => .error ⟨.extraData, rest.length⟩

/-- Reads a text as JSON. -/
def read (s : String) : Except Failure Value :=
  readChars s.toList

/-- The message of a failure in the text `s`, with the place by line, column and position. -/
def Failure.message (s : String) (failure : Failure) : String :=
  match failure.fault with
  | .digits _ => failure.fault.message
  | _ =>
    let cs := s.toList
    let position := cs.length - failure.left
    let before := cs.take position
    let line := before.count '\n' + 1
    let column := (before.reverse.takeWhile (· ≠ '\n')).length + 1
    failure.fault.message ++ ": line " ++ toString line ++ " column " ++ toString column ++
      " (char " ++ toString position ++ ")"

end ClientGen.Json
