import ClientGen.Decimal.FloatText
import ClientGen.Text.Quoted
import ClientGen.Value

/-!
# Values in messages

`Value.inspect` writes a value the way messages show it, `Value.typeName` names its type there,
`Value.plain` is the text of a scalar that stands alone, as object keys need it, and `excerpt` cuts
a long text in the middle.
-/

namespace ClientGen

namespace Value

/-- The name of a value's type in messages. -/
def typeName : Value → String
  | null => "NoneType"
  | bool _ => "bool"
  | int _ => "int"
  | float _ => "float"
  | str _ => "str"
  | list _ => "list"
  | object _ => "dict"
  | date _ => "date"
  | moment _ => "datetime"
  | octets _ => "bytes"
  | set _ => "set"
  | tuple _ => "tuple"
  | mapping _ => "dict"

mutual

/-- The value as messages show it. -/
def inspect : Value → String
  | null => "None"
  | bool true => "True"
  | bool false => "False"
  | int n => toString n
  | float x => Decimal.floatText .plain x
  | str s => Text.quoted s
  | list items => "[" ++ String.intercalate ", " (inspectItems items) ++ "]"
  | object fields => "\x7b" ++ String.intercalate ", " (inspectFields fields) ++ "\x7d"
  | date d => d.inspect
  | moment m => m.inspect
  | octets bytes => Text.quotedOctets bytes
  | set [] => "set()"
  | set members => "\x7b" ++ String.intercalate ", " (inspectItems members) ++ "\x7d"
  | tuple [item] => "(" ++ inspect item ++ ",)"
  | tuple items => "(" ++ String.intercalate ", " (inspectItems items) ++ ")"
  | mapping entries => "\x7b" ++ String.intercalate ", " (inspectEntries entries) ++ "\x7d"

/-- The values as messages show them. -/
def inspectItems : List Value → List String
  | [] => []
  | item :: rest => inspect item :: inspectItems rest

/-- The fields as messages show them. -/
def inspectFields : List (String × Value) → List String
  | [] => []
  | (name, value) :: rest => (Text.quoted name ++ ": " ++ inspect value) :: inspectFields rest

/-- The entries as messages show them. -/
def inspectEntries : List (Value × Value) → List String
  | [] => []
  | (key, value) :: rest => (inspect key ++ ": " ++ inspect value) :: inspectEntries rest

end

/-- The text of a value that stands alone: a text is itself, a moment has a blank between date and
time, and anything else is shown as in messages. -/
def plain : Value → String
  | str s => s
  | date d => d.text
  | moment m => m.text " "
  | value => value.inspect

/-- The integer that a value of integer or truth type stands for. -/
def number? : Value → Option Int
  | int n => some n
  | bool b => some (if b then 1 else 0)
  | _ => none

/-- Whether two keys are the same: numbers by their value, whatever their type, and other scalars
by their content. -/
def sameKey : Value → Value → Bool
  | null, null => true
  | str a, str b => a == b
  | date a, date b => a == b
  | moment a, moment b => a.agrees b
  | octets a, octets b => a == b
  | float a, float b => a == b
  | float a, b => b.number?.any fun n => Decimal.integerOf? a == some n
  | a, float b => a.number?.any fun n => Decimal.integerOf? b == some n
  | a, b => a.number?.isSome && a.number? == b.number?

end Value

/-- The longest prefix of the characters that takes at most `size` octets. -/
def takeOctets (size : Nat) : List Char → List Char
  | [] => []
  | c :: rest => if c.utf8Size ≤ size then c :: takeOctets (size - c.utf8Size) rest else []

/-- A text of more than fifty octets is cut in the middle: at most 25 octets of its start and at
most 24 of its end are left, around three points. -/
def excerpt (s : String) : String :=
  if s.utf8ByteSize ≤ 50 then s
  else
    let cs := s.toList
    String.ofList (takeOctets 25 cs) ++ "..." ++
      String.ofList (takeOctets 24 cs.reverse).reverse

end ClientGen
