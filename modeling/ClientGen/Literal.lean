import ClientGen.Json.Writer

/-!
# Literals of generated code

A value is written as JSON, which generated code can hold as it is; a float without a fraction is
written as an integer.  A name is a key of an object as it is when it has the form of an identifier,
and otherwise as the literal of a text.
-/

namespace ClientGen.Literal

/-- The literal of a value. -/
def ofValue : Value → String
  | .float x =>
    match Decimal.integerOf? x with
    | some n => toString n
    | none => Json.compact .unicode (.float x)
  | value => Json.compact .unicode value

/-- The literal of a text. -/
def ofText (s : String) : String :=
  ofValue (.str s)

/-- Whether a character may start an identifier. -/
def startsIdentifier (c : Char) : Bool :=
  c.isAlpha || c == '_' || c == '$'

/-- Whether a character may stand in an identifier. -/
def isIdentifierChar (c : Char) : Bool :=
  c.isAlphanum || c == '_' || c == '$'

/-- Whether the characters are an identifier. -/
def isIdentifierChars : List Char → Bool
  | [] => false
  | c :: rest => startsIdentifier c && rest.all isIdentifierChar

/-- The characters without a line feed at their end. -/
def dropLineFeed (cs : List Char) : List Char :=
  if cs.getLast? = some '\n' then cs.dropLast else cs

/-- Whether a name has the form of an identifier, a line feed at its end aside. -/
def isIdentifier (name : String) : Bool :=
  isIdentifierChars (dropLineFeed name.toList)

/-- A name as a key of an object. -/
def key (name : String) : String :=
  if isIdentifier name then name else ofText name

end ClientGen.Literal
