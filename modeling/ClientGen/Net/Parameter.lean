import ClientGen.Text.Blank
import ClientGen.Text.Search
import ClientGen.Url
import ClientGen.Url.Percent

/-!
# Parameters of a header

Parameters stand behind semicolons: a name, an equals sign and a value, which may be in quotes.  A
value may also come in segments, which are numbered behind an asterisk, and a second asterisk says
that a segment has percent escapes.  Such a value begins with the name of its character set and that
of its language, each in front of an apostrophe.  `Parameter.ofHeader` reads all parameters of a
header, where those in segments come last.
-/

namespace ClientGen.Net

/-- The text of a parameter: its characters, or numbers of octets and the name of the character set
that they are in. -/
inductive ParameterText where
  | plain (text : List Char)
  | octets (charset : List Char) (text : List Char)
  deriving Repr, DecidableEq

/-- A parameter of a header. -/
structure Parameter where
  name : List Char
  text : ParameterText
  deriving Repr, DecidableEq

namespace Parameter

/-- Why parameters cannot be read: some segments of a value have numbers and others have none;
`numberedFirst` tells whether the first one has. -/
structure Fault where
  numberedFirst : Bool
  deriving Repr, DecidableEq

/-- The wording of a fault. -/
def Fault.message (fault : Fault) : String :=
  let (second, first) := if fault.numberedFirst then ("NoneType", "int") else ("int", "NoneType")
  "'<' not supported between instances of '" ++ second ++ "' and '" ++ first ++ "'"

/-! ### Names and values -/

/-- Cuts at the semicolons outside quotes; `current` holds, in reverse, what has been read of the
part at hand, and `quoted` tells whether it is inside quotes. -/
def partsFrom (current : List Char) (quoted : Bool) : List Char → List (List Char)
  | [] => [current.reverse]
  | c :: rest =>
    if c = ';' && !quoted then current.reverse :: partsFrom [] false rest
    else
      let turns := c = '"' && current.head? != some '\\'
      partsFrom (c :: current) (quoted != turns) rest

/-- A value without the quotes or angle brackets around it. -/
def unquoted (value : List Char) : List Char :=
  let inside := (value.drop 1).dropLast
  if value.length < 2 then value
  else if value.head? == some '"' && value.getLast? == some '"' then
    (Text.replace "\\\"" "\"" (Text.replace "\\\\" "\\" (String.ofList inside))).toList
  else if value.head? == some '<' && value.getLast? == some '>' then inside
  else value

/-- The name and the value of a part; one without an equals sign has no value. -/
def nameAndValue (part : List Char) : List Char × List Char :=
  match Url.cutAt (· == '=') part with
  | some (name, value) =>
    ((Text.trimChars name).map Char.toLower, unquoted (Text.trimChars value))
  | none => (Text.trimChars part, [])

/-! ### Segments -/

/-- A segment of a value: its number, its text, and whether the text has escapes. -/
structure Segment where
  number : Option Nat
  text : List Char
  escaped : Bool

/-- A character of the name of a value in segments. -/
def isWordChar (c : Char) : Bool :=
  c.isAlphanum || c == '_'

/-- The segment of a name and a value, and the name that it belongs to. -/
def segment? (name value : List Char) : Option (List Char × Segment) :=
  let word := name.takeWhile isWordChar
  let digits := (name.drop (word.length + 1)).takeWhile Char.isDigit
  let number := digits.foldl (fun n c => 10 * n + (c.toNat - '0'.toNat)) 0
  if word.isEmpty then none
  else match name.drop word.length, digits with
    -- Without a number the value is whole, and it has escapes.
    | ['*'], _ => some (word, ⟨none, value, true⟩)
    | '*' :: rest, _ :: _ =>
      match rest.drop digits.length with
      | [] => some (word, ⟨some number, value, false⟩)
      | ['*'] => some (word, ⟨some number, value, true⟩)
      | _ => none
    | _, _ => none

/-- Whether a segment may stand in front of another one: by number, then by text, and those without
escapes first. -/
def Segment.le (a b : Segment) : Bool :=
  if a.number ≠ b.number then a.number.getD 0 ≤ b.number.getD 0
  else if a.text ≠ b.text then String.ofList a.text < String.ofList b.text
  else !a.escaped || b.escaped

/-- Segments in order. -/
def inOrder (segments : List Segment) : Except Fault (List Segment) :=
  let numberedFirst := (segments.head?.bind Segment.number).isSome
  if segments.any fun segment => segment.number.isSome != numberedFirst then .error ⟨numberedFirst⟩
  else .ok (segments.mergeSort Segment.le)

/-- Puts the octets of percent escapes in their places; the first `skip` characters belong to an
escape that has been read. -/
def unescapedFrom (skip : Nat) : List Char → List Char
  | [] => []
  | c :: rest =>
    match skip with
    | skip + 1 => unescapedFrom skip rest
    | 0 =>
      match if c = '%' then Url.Percent.escape? rest else none with
      | some octet => Char.ofNat octet.toNat :: unescapedFrom 2 rest
      | none => c :: unescapedFrom 0 rest

/-- The characters of a segment. -/
def Segment.chars (segment : Segment) : List Char :=
  if segment.escaped then unescapedFrom 0 segment.text else segment.text

/-- The text of segments in order: when one has escapes, the names of a character set and of a
language may stand in front. -/
def joined (segments : List Segment) : ParameterText :=
  let text := segments.flatMap Segment.chars
  if segments.any Segment.escaped then
    match Url.cutAt (· == '\'') text with
    | none => .octets [] text
    | some (charset, rest) =>
      match Url.cutAt (· == '\'') rest with
      | none => .octets [] text
      | some (_, text) => .octets charset text
  else .plain text

/-! ### All parameters -/

/-- The parameters whose values come in segments, in the order of their first segments. -/
def ofSegments (segments : List (List Char × Segment)) : Except Fault (List Parameter) :=
  (segments.map (·.1)).eraseDups.mapM fun name => do
    let own := (segments.filter fun segment => segment.1 = name).map (·.2)
    return ⟨name, joined (← inOrder own)⟩

/-- The parameters of a header and what stands in front of them, which counts as one. -/
def ofHeader (header : String) : Except Fault (List Parameter) := do
  let all := (partsFrom [] false header.toList).map nameAndValue
  let (segments, others) := (all.drop 1).partition fun (name, value) => (segment? name value).isSome
  let plain := (all.take 1 ++ others).map fun (name, value) => ⟨name, .plain value⟩
  return plain ++ (← ofSegments (segments.filterMap fun (name, value) => segment? name value))

end Parameter

end ClientGen.Net
