/-!
# Names of generated things

A text is cut into words of ASCII letters and digits: at every run of other characters, and between
a small letter or digit and the capital after it.  `pascal`, `camel` and `kebab` join the words in
the three usual ways.  `fresh` numbers a name until its kebab-case form is not taken.
-/

namespace ClientGen.Naming

/-- Small letters and digits, after which a capital starts a word. -/
def endsWord (c : Char) : Bool :=
  c.isLower || c.isDigit

/-- The words of the characters; `current` is what has been read of the word at hand, in reverse. -/
def wordsFrom (current : List Char) : List Char → List (List Char)
  | [] => if current.isEmpty then [] else [current.reverse]
  | c :: rest =>
    if c.isAlphanum then
      if c.isUpper && current.head?.any endsWord then
        current.reverse :: wordsFrom [c] rest
      else wordsFrom (c :: current) rest
    else if current.isEmpty then wordsFrom [] rest
    else current.reverse :: wordsFrom [] rest

/-- The words of a text. -/
def words (text : String) : List (List Char) :=
  wordsFrom [] text.toList

/-- Capitalises the first letter. -/
def capitalize : List Char → List Char
  | [] => []
  | c :: rest => c.toUpper :: rest

/-- Makes the first letter small. -/
def decapitalize : List Char → List Char
  | [] => []
  | c :: rest => c.toLower :: rest

/-- The words, each with a capital first letter, joined. -/
def pascal (text : String) : String :=
  String.ofList ((words text).flatMap capitalize)

/-- Like `pascal` with a small first letter. -/
def camel (text : String) : String :=
  String.ofList (decapitalize (pascal text).toList)

/-- The words in small letters, joined by hyphens. -/
def kebab (text : String) : String :=
  String.intercalate "-" ((words text).map fun word => String.ofList (word.map Char.toLower))

/-- The candidates for a name: itself, then followed by 2, 3 and so on. -/
def candidate (stem : String) (i : Nat) : String :=
  if i = 0 then stem else stem ++ toString (i + 1)

/-- The first candidate whose kebab-case form is not taken.  One more candidate than there are taken
forms is enough, as different candidates have different forms. -/
def fresh (stem : String) (taken : List String) : String :=
  let free := (List.range (taken.length + 1)).find? fun i =>
    !taken.contains (kebab (candidate stem i))
  candidate stem (free.getD (taken.length + 1))

end ClientGen.Naming
