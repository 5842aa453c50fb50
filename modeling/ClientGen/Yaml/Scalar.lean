import ClientGen.Decimal.Numeral
import ClientGen.Text.Base64
import ClientGen.Text.Case
import ClientGen.Text.Digit
import ClientGen.Text.Lines
import ClientGen.Value
import ClientGen.Yaml.Fault

/-!
# Types of YAML scalars

A plain scalar without a tag has the type that its text looks like (`Tag.ofPlain`): truth values,
integers in four bases and in base sixty, floats with a point, null, dates and times, and the keys
`<<` and `=`; any other text is a string.  `scalarValue` reads the text of a scalar as the type of
its tag, by rules of its own that are wider than the looks.
-/

namespace ClientGen.Yaml

/-- The tags that have a meaning. -/
inductive Tag where
  | null
  | bool
  | int
  | float
  | octets
  | timestamp
  | omap
  | pairs
  | set
  | str
  | seq
  | map
  /-- The key whose value is merged into the mapping around it. -/
  | merge
  /-- The key whose value stands for the mapping around it. -/
  | value
  /-- A tag without a meaning. -/
  | unknown
  deriving Repr, DecidableEq

/-- The tag with a name. -/
def Tag.ofName (name : String) : Tag :=
  let names := [("null", Tag.null), ("bool", .bool), ("int", .int), ("float", .float),
    ("binary", .octets), ("timestamp", .timestamp), ("omap", .omap), ("pairs", .pairs),
    ("set", .set), ("str", .str), ("seq", .seq), ("map", .map), ("merge", .merge),
    ("value", .value)]
  match names.find? fun entry => "tag:yaml.org,2002:" ++ entry.1 == name with
  | some entry => entry.2
  | none => .unknown

/-! ### The looks of a plain scalar -/

/-- Drops one sign in front. -/
def dropSign : List Char → List Char
  | '-' :: rest => rest
  | '+' :: rest => rest
  | cs => cs

/-- A decimal digit or an underscore. -/
def isLooseDigit (c : Char) : Bool :=
  c.isDigit || c == '_'

/-- A digit and then digits and underscores. -/
def isLooseNumber : List Char → Bool
  | [] => false
  | c :: rest => c.isDigit && rest.all isLooseDigit

/-- A part of a number in base sixty after the first: one digit, or two of which the first is below
six. -/
def isSixtieth : List Char → Bool
  | [c] => c.isDigit
  | [a, b] => '0' ≤ a && a ≤ '5' && b.isDigit
  | _ => false

/-- An exponent: letter, sign and digits. -/
def isSignedExponent : List Char → Bool
  | e :: sign :: rest =>
    (e == 'e' || e == 'E') && (sign == '+' || sign == '-') && !rest.isEmpty && rest.all Char.isDigit
  | _ => false

/-- Digits and underscores and then nothing or an exponent. -/
def isFraction (cs : List Char) : Bool :=
  let tail := cs.dropWhile isLooseDigit
  tail.isEmpty || isSignedExponent tail

/-- The looks of a float. -/
def looksFloat (cs : List Char) : Bool :=
  let body := dropSign cs
  let whole := body.takeWhile isLooseDigit
  let point := isLooseNumber whole && (match body.drop whole.length with
    | '.' :: rest => isFraction rest
    | _ => false)
  let bare := match cs with
    | '.' :: c :: rest => c.isDigit && isFraction rest
    | _ => false
  let sixty := match Text.splitChars ':' body with
    | first :: rest =>
      match rest.reverse with
      | last :: middle =>
        let unit := last.takeWhile (· ≠ '.')
        isLooseNumber first && middle.all isSixtieth && isSixtieth unit &&
          (match last.drop unit.length with
            | '.' :: tail => tail.all isLooseDigit
            | _ => false)
      | [] => false
    | [] => false
  let infinity := [".inf", ".Inf", ".INF"].any fun word => word.toList == body
  let nan := [".nan", ".NaN", ".NAN"].any fun word => word.toList == cs
  point || bare || sixty || infinity || nan

/-- The looks of an integer. -/
def looksInt (cs : List Char) : Bool :=
  let body := dropSign cs
  let positive := fun (part : List Char) =>
    isLooseNumber part && part.head? != some '0'
  let based := match body with
    | '0' :: 'b' :: rest => !rest.isEmpty && rest.all fun c => c == '0' || c == '1' || c == '_'
    | '0' :: 'x' :: rest =>
      !rest.isEmpty && rest.all fun c =>
        isLooseDigit c || ('a' ≤ c && c ≤ 'f') || ('A' ≤ c && c ≤ 'F')
    | '0' :: rest => rest.all fun c => ('0' ≤ c && c ≤ '7') || c == '_'
    | _ => false
  let sixty := match Text.splitChars ':' body with
    | first :: rest => positive first && !rest.isEmpty && rest.all isSixtieth
    | [] => false
  based || positive body || sixty

/-- The looks of a truth value. -/
def looksBool (cs : List Char) : Bool :=
  ["yes", "Yes", "YES", "no", "No", "NO", "true", "True", "TRUE", "false", "False", "FALSE",
    "on", "On", "ON", "off", "Off", "OFF"].any fun word => word.toList == cs

/-- The looks of null. -/
def looksNull (cs : List Char) : Bool :=
  ["~", "null", "Null", "NULL", ""].any fun word => word.toList == cs

/-- The parts of a date, or of a date and time, as they are written. -/
structure TimestampParts where
  year : List Char
  month : List Char
  day : List Char
  time : Option (List Char × List Char × List Char × List Char × Option (List Char × List Char))

/-- Takes one or two digits in front. -/
def oneOrTwoDigits : List Char → Option (List Char × List Char)
  | a :: b :: rest =>
    if a.isDigit && b.isDigit then some ([a, b], rest)
    else if a.isDigit then some ([a], b :: rest) else none
  | [a] => if a.isDigit then some ([a], []) else none
  | [] => none

/-- Takes `n` digits in front. -/
def exactDigits (n : Nat) (cs : List Char) : Option (List Char × List Char) :=
  let digits := cs.take n
  if digits.length = n && digits.all Char.isDigit then some (digits, cs.drop n) else none

/-- Takes the character `c` in front. -/
def expect (c : Char) : List Char → Option (List Char)
  | [] => none
  | d :: rest => if d = c then some rest else none

/-- The zone of a time: nothing, `Z`, or a sign with hours and perhaps minutes.  Returns the sign
with the hours and the minutes; universal time has no sign. -/
def readZone (cs : List Char) : Option (Option (List Char × List Char)) := do
  let rest := cs.dropWhile fun c => c == ' ' || c == '\t'
  match rest with
  | [] => if cs.isEmpty then some none else none
  | ['Z'] => some (some ([], []))
  | sign :: rest =>
    if sign == '+' || sign == '-' then
      let (hours, rest) ← oneOrTwoDigits rest
      match rest with
      | [] => some (some (sign :: hours, []))
      | ':' :: rest =>
        let (minutes, rest) ← exactDigits 2 rest
        if rest.isEmpty then some (some (sign :: hours, minutes)) else none
      | _ => none
    else none

/-- The parts of a date or moment. -/
def readTimestamp (cs : List Char) : Option TimestampParts := do
  let (year, rest) ← exactDigits 4 cs
  let (month, rest) ← oneOrTwoDigits (← expect '-' rest)
  let (day, rest) ← oneOrTwoDigits (← expect '-' rest)
  match rest with
  | [] => some ⟨year, month, day, none⟩
  | c :: tail =>
    let rest ←
      if c == 'T' || c == 't' then some tail
      else if c == ' ' || c == '\t' then
        some (tail.dropWhile fun c => c == ' ' || c == '\t')
      else none
    let (hour, rest) ← oneOrTwoDigits rest
    let (minute, rest) ← exactDigits 2 (← expect ':' rest)
    let (second, rest) ← exactDigits 2 (← expect ':' rest)
    let (fraction, rest) := match rest with
      | '.' :: rest => let digits := rest.takeWhile Char.isDigit; (digits, rest.drop digits.length)
      | rest => ([], rest)
    let zone ← readZone rest
    some ⟨year, month, day, some (hour, minute, second, fraction, zone)⟩

/-- The looks of a date or moment: a date alone has two digits for month and day. -/
def looksTimestamp (cs : List Char) : Bool :=
  match readTimestamp cs with
  | none => false
  | some parts => parts.time.isSome || (parts.month.length == 2 && parts.day.length == 2)

/-- One line feed at the end does not count for the looks of a scalar. -/
def dropFinalBreak (cs : List Char) : List Char :=
  if cs.getLast? = some '\n' then cs.dropLast else cs

/-- The type that a text looks like. -/
def Tag.ofPlain (text : String) : Tag :=
  let whole := text.toList
  -- A line feed alone looks like nothing, not like the null of an empty text.
  let cs := if whole == ['\n'] then whole else dropFinalBreak whole
  if looksBool cs then .bool
  else if looksFloat cs then .float
  else if looksInt cs then .int
  else if cs == ['<', '<'] then .merge
  else if looksNull cs then .null
  else if looksTimestamp cs then .timestamp
  else if cs == ['='] then .value
  else if cs == ['!'] || cs == ['&'] || cs == ['*'] then .unknown
  else .str

/-! ### The values of scalars -/

/-- The float a text denotes; the text has no underscores. -/
def readFloat (text : String) : Except Fault Float :=
  match Numeral.float? text with
  | some x => .ok x
  | none => .error (.float text)

/-- The value of an integer scalar. -/
def intValue (text : String) : Except Fault Value := do
  let cs := text.toList.filter (· ≠ '_')
  if cs.isEmpty then throw .emptyNumber
  let negative := cs.head? == some '-'
  let body := dropSign cs
  let signed := fun (n : Int) => Value.int (if negative then -n else n)
  match body with
  | [] => throw .emptyNumber
  | ['0'] => return .int 0
  | '0' :: 'b' :: rest => return signed (← readInteger 2 (String.ofList rest))
  | '0' :: 'x' :: rest => return signed (← readInteger 16 (String.ofList rest))
  | '0' :: _ => return signed (← readInteger 8 (String.ofList body))
  | _ =>
    if body.contains ':' then
      let parts ← (Text.splitChars ':' body).mapM fun part => readInteger 10 (String.ofList part)
      return signed (parts.foldl (fun n part => n * 60 + part) 0)
    else return signed (← readInteger 10 (String.ofList body))

/-- The number in base sixty of some parts, the last one first: `unit` is what the first of them
counts for, which has to be within the range of floats. -/
def sixtyValue (unit : Nat) (sum : Float) : List Float → Except Fault Float
  | [] => .ok sum
  | part :: rest =>
    let size := Decimal.ofInt unit
    if size.isInf then .error .largeUnit else sixtyValue (unit * 60) (sum + part * size) rest

/-- The text of a float without underscores and in lower case. -/
def floatBody (text : String) : List Char :=
  (Text.lower (String.ofList (text.toList.filter (· ≠ '_')))).toList

/-- Whether the text of a float is the word for what is no number. -/
def isNaNWord (text : String) : Bool :=
  dropSign (floatBody text) == ".nan".toList

/-- The value of a float scalar. -/
def floatValue (text : String) : Except Fault Value := do
  let cs := floatBody text
  if cs.isEmpty then throw .emptyNumber
  let negative := cs.head? == some '-'
  let body := dropSign cs
  let signed := fun (x : Float) => Value.float (if negative then -1.0 * x else x)
  if body == ".inf".toList then return signed (1.0 / 0.0)
  else if isNaNWord text then return .float (0.0 / 0.0)
  else if body.contains ':' then
    let parts ← (Text.splitChars ':' body).mapM fun part => readFloat (String.ofList part)
    return signed (← sixtyValue 1 0.0 parts.reverse)
  else return signed (← readFloat (String.ofList body))

/-- The value of a truth value scalar. -/
def boolValue (text : String) : Except Fault Value :=
  let word := Text.lower text
  if word == "yes" || word == "true" || word == "on" then .ok (.bool true)
  else if word == "no" || word == "false" || word == "off" then .ok (.bool false)
  else .error (.truthValue word)

/-- The value of a scalar of octets. -/
def octetsValue (text : String) : Except Fault Value :=
  let cs := text.toList
  if cs.any fun c => 128 ≤ c.toNat then .error .malformed
  else match Text.Base64.octets? cs with
    | some octets => .ok (.octets octets)
    | none => .error .malformed

/-- The number that ASCII digits denote. -/
def digitsNumber (cs : List Char) : Nat :=
  cs.foldl (fun n d => n * 10 + (d.toNat - 48)) 0

/-- The value of a date or moment scalar. -/
def timestampValue (text : String) : Except Fault Value :=
  match readTimestamp (dropFinalBreak text.toList) with
  | none => .error .timestamp
  | some parts =>
    let year := digitsNumber parts.year
    let month := digitsNumber parts.month
    let day := digitsNumber parts.day
    match parts.time with
    | none => ((Date.make? year month day).map Value.date).mapError Fault.calendar
    | some (hour, minute, second, fraction, zone) =>
      -- Digits beyond microseconds are dropped.
      let digits := fraction.take 6
      let microsecond := digitsNumber (digits ++ List.replicate (6 - digits.length) '0')
      let offset := zone.map fun (hours, minutes) =>
        let size : Int := digitsNumber (dropSign hours) * 60 + digitsNumber minutes
        if hours.head? == some '-' then -size else size
      ((Moment.make? year month day (digitsNumber hour) (digitsNumber minute)
        (digitsNumber second) microsecond offset).map Value.moment).mapError Fault.calendar

/-- The value of a scalar with a tag. -/
def scalarValue (tag : Tag) (text : String) : Except Fault Value :=
  match tag with
  | .null => .ok .null
  | .bool => boolValue text
  | .int => intValue text
  | .float => floatValue text
  | .octets => octetsValue text
  | .timestamp => timestampValue text
  | .str => .ok (.str text)
  | _ => .error .malformed

end ClientGen.Yaml
