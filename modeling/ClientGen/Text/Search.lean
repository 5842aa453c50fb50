/-!
# Searching in texts

Prefixes, suffixes, occurrences and replacement of a text within another one.
-/

namespace ClientGen.Text

/-- Whether a text starts with another one. -/
def startsWith (lead s : String) : Bool :=
  lead.toList.isPrefixOf s.toList

/-- Whether a text ends with another one. -/
def endsWith (tail s : String) : Bool :=
  tail.toList.isSuffixOf s.toList

/-- Whether the characters of a part occur in a row among others. -/
def occurs (part : List Char) : List Char → Bool
  | [] => part.isEmpty
  | c :: rest => part.isPrefixOf (c :: rest) || occurs part rest

/-- Whether a text occurs in another one. -/
def contains (part s : String) : Bool :=
  occurs part.toList s.toList

/-- Replaces the occurrences of a part that is not empty, from left to right; the first `skip`
characters belong to an occurrence already replaced. -/
def replaceFrom (part new : List Char) (skip : Nat) : List Char → List Char
  | [] => []
  | c :: rest =>
    match skip with
    | skip + 1 => replaceFrom part new skip rest
    | 0 =>
      if part.isPrefixOf (c :: rest) then
        new ++ replaceFrom part new (part.length - 1) rest
      else c :: replaceFrom part new 0 rest

/-- Replaces every occurrence of a part that is not empty. -/
def replace (part new s : String) : String :=
  String.ofList (replaceFrom part.toList new.toList 0 s.toList)

/-- What follows the last occurrence of a character, or everything when there is none. -/
def afterLast (c : Char) (s : String) : String :=
  String.ofList ((s.toList.reverse.takeWhile (· ≠ c)).reverse)

/-- Drops the character in front, as often as it stands there. -/
def dropLeading (c : Char) (s : String) : String :=
  String.ofList (s.toList.dropWhile (· = c))

/-- Drops the character at the end, as often as it stands there. -/
def dropTrailing (c : Char) (s : String) : String :=
  String.ofList ((s.toList.reverse.dropWhile (· = c)).reverse)

end ClientGen.Text
