/-!
# Lines

A text is cut into lines at line feeds, carriage returns (with a line feed after it, both together),
vertical tabs, form feeds, the separators U+001C to U+001E, the next-line control U+0085 and the
separators U+2028 and U+2029.  An end of line at the very end of the text starts no further line.
-/

namespace ClientGen.Text

/-- Whether the character ends a line. -/
def isLineEnd (c : Char) : Bool :=
  c == '\n' || c == '\r' || c.toNat == 0x0b || c.toNat == 0x0c ||
    (0x1c ≤ c.toNat && c.toNat ≤ 0x1e) || c.toNat == 0x85 || c.toNat == 0x2028 || c.toNat == 0x2029

/-- The lines of a text; `current` holds, in reverse, what has been read of the line at hand. -/
def linesFrom (current : List Char) : List Char → List (List Char)
  | [] => if current.isEmpty then [] else [current.reverse]
  | '\r' :: '\n' :: rest => current.reverse :: linesFrom [] rest
  | c :: rest =>
    if isLineEnd c then current.reverse :: linesFrom [] rest
    else linesFrom (c :: current) rest

/-- The lines of a text, without their ends. -/
def lines (s : String) : List String :=
  (linesFrom [] s.toList).map String.ofList

/-- Joins texts with a separator between neighbours. -/
def join (separator : String) (parts : List String) : String :=
  String.intercalate separator parts

/-- Cuts at every occurrence of one character; the result has one part more than there are
occurrences. -/
def splitChars (separator : Char) : List Char → List (List Char)
  | [] => [[]]
  | c :: rest =>
    if c = separator then [] :: splitChars separator rest
    else match splitChars separator rest with
      | [] => [[c]]
      | part :: parts => (c :: part) :: parts

/-- Cuts a text at every occurrence of one character. -/
def split (separator : Char) (s : String) : List String :=
  (splitChars separator s.toList).map String.ofList

end ClientGen.Text
