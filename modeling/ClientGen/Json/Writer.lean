import ClientGen.Value.Inspect

/-!
# JSON text

`Json.compact` writes a value on one line, with a blank after each comma and colon;
`Json.indented` gives every item and field a line of its own.  Objects keep the order of their
fields.  A `Charset` says whether characters beyond ASCII are written as they are or by escapes.
Values that JSON cannot say are written as texts.
-/

namespace ClientGen.Json

/-- Which characters JSON text may hold unescaped. -/
inductive Charset where
  /-- Every character but the controls, the quote and the backslash. -/
  | unicode
  /-- The same among the printable characters of ASCII only. -/
  | ascii
  deriving Repr, DecidableEq

/-- The escape of a UTF-16 unit by its code. -/
def unitEscape (n : Nat) : List Char :=
  '\\' :: 'u' :: Text.hex 4 n

/-- The escape of a character by the codes of its UTF-16 units. -/
def codeEscape (n : Nat) : List Char :=
  if n < 0x10000 then unitEscape n
  else unitEscape (0xd800 + (n - 0x10000) / 0x400) ++ unitEscape (0xdc00 + (n - 0x10000) % 0x400)

/-- One character of a JSON string. -/
def escape (charset : Charset) (c : Char) : List Char :=
  if c = '"' then ['\\', '"']
  else if c = '\\' then ['\\', '\\']
  else if c = '\n' then ['\\', 'n']
  else if c = '\r' then ['\\', 'r']
  else if c = '\t' then ['\\', 't']
  else if c.toNat = 8 then ['\\', 'b']
  else if c.toNat = 12 then ['\\', 'f']
  else if c.toNat < 0x20 then unitEscape c.toNat
  else match charset with
    | .unicode => [c]
    | .ascii => if c.toNat < 0x7f then [c] else codeEscape c.toNat

/-- A JSON string, with its quotes. -/
def stringChars (charset : Charset) (s : String) : List Char :=
  '"' :: s.toList.flatMap (escape charset) ++ ['"']

/-- The text of a key that is not a string: as JSON writes the scalar. -/
def keyText : Value → String
  | .null => "null"
  | .bool true => "true"
  | .bool false => "false"
  | .float x => Decimal.floatText .json x
  | key => key.plain

/-- Puts a separator between neighbours. -/
def separated (separator : List Char) : List (List Char) → List Char
  | [] => []
  | [part] => part
  | part :: parts => part ++ separator ++ separated separator parts

mutual

/-- A value on one line. -/
def chars (charset : Charset) : Value → List Char
  | .null => "null".toList
  | .bool true => "true".toList
  | .bool false => "false".toList
  | .int n => (toString n).toList
  | .float x => (Decimal.floatText .json x).toList
  | .str s => stringChars charset s
  | .list items => '[' :: separated [',', ' '] (itemChars charset items) ++ [']']
  | .tuple items => '[' :: separated [',', ' '] (itemChars charset items) ++ [']']
  | .object fields => '{' :: separated [',', ' '] (fieldChars charset fields) ++ ['}']
  | .mapping entries => '{' :: separated [',', ' '] (entryChars charset entries) ++ ['}']
  | value => stringChars charset value.plain

/-- The values of a list. -/
def itemChars (charset : Charset) : List Value → List (List Char)
  | [] => []
  | item :: rest => chars charset item :: itemChars charset rest

/-- The fields of an object. -/
def fieldChars (charset : Charset) : List (String × Value) → List (List Char)
  | [] => []
  | (name, value) :: rest =>
    (stringChars charset name ++ [':', ' '] ++ chars charset value) :: fieldChars charset rest

/-- The entries of a mapping. -/
def entryChars (charset : Charset) : List (Value × Value) → List (List Char)
  | [] => []
  | (key, value) :: rest =>
    (stringChars charset (keyText key) ++ [':', ' '] ++ chars charset value) ::
      entryChars charset rest

end

/-- A value on one line. -/
def compact (charset : Charset) (value : Value) : String :=
  String.ofList (chars charset value)

/-- The start of a line, `depth` levels of two blanks deep. -/
def margin (depth : Nat) : String :=
  "\n" ++ String.ofList (List.replicate (2 * depth) ' ')

/-- Lines between brackets, or the bare brackets when there are none. -/
def block (opening closing : String) (depth : Nat) (parts : List String) : String :=
  if parts.isEmpty then opening ++ closing
  else
    opening ++ margin (depth + 1) ++ String.intercalate ("," ++ margin (depth + 1)) parts ++
      margin depth ++ closing

mutual

/-- A value over several lines, standing `depth` levels deep. -/
def indentedAt (depth : Nat) : Value → String
  | .list items => block "[" "]" depth (indentedItems (depth + 1) items)
  | .tuple items => block "[" "]" depth (indentedItems (depth + 1) items)
  | .object fields => block "\x7b" "\x7d" depth (indentedFields (depth + 1) fields)
  | value => compact .unicode value

/-- The values of a list over several lines. -/
def indentedItems (depth : Nat) : List Value → List String
  | [] => []
  | item :: rest => indentedAt depth item :: indentedItems depth rest

/-- The fields of an object over several lines. -/
def indentedFields (depth : Nat) : List (String × Value) → List String
  | [] => []
  | (name, value) :: rest =>
    (String.ofList (stringChars .unicode name) ++ ": " ++ indentedAt depth value) ::
      indentedFields depth rest

end

/-- A value over several lines. -/
def indented (value : Value) : String :=
  indentedAt 0 value

end ClientGen.Json
