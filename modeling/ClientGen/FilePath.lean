import ClientGen.Text.Lines

/-!
# Paths

Paths are texts with slashes between their parts.  Empty parts and parts that are a single point do
not count.  A path has a suffix when its last part holds a point that is neither its first nor its
last character.
-/

namespace ClientGen.FilePath

/-- The parts of a path that count. -/
def parts (path : String) : List String :=
  (Text.split '/' path).filter fun part => part != "" && part != "."

/-- The last part of a path; empty when there is none. -/
def name (path : String) : String :=
  (parts path).getLast?.getD ""

/-- The suffix of a name, from its last point on. -/
def suffixChars (cs : List Char) : List Char :=
  let tail := (cs.reverse.takeWhile (· ≠ '.')).reverse
  if tail.isEmpty || cs.length ≤ tail.length + 1 then [] else '.' :: tail

/-- The suffix of a path, from the last point of its last part on. -/
def suffix (path : String) : String :=
  String.ofList (suffixChars (name path).toList)

/-- Whether a path starts at the root. -/
def isAbsolute (path : String) : Bool :=
  path.toList.head? = some '/'

/-- The path of a file in a directory, as both are written; a file that starts at the root is where
it says. -/
def join (directory file : String) : String :=
  if isAbsolute file || directory.isEmpty then file
  else if directory.toList.getLast? = some '/' then directory ++ file
  else directory ++ "/" ++ file

/-- How a path starts: exactly two slashes at the start are kept, more count as one. -/
def root (path : String) : String :=
  match path.toList with
  | '/' :: '/' :: '/' :: _ => "/"
  | '/' :: '/' :: _ => "//"
  | '/' :: _ => "/"
  | _ => ""

/-- A path without the parts that do not count; a point stands for the path without parts. -/
def normal (path : String) : String :=
  let text := root path ++ Text.join "/" (parts path)
  if text.isEmpty then "." else text

/-- The path of an entry of a directory, without the parts that do not count. -/
def child (directory name : String) : String :=
  normal (join directory name)

end ClientGen.FilePath
