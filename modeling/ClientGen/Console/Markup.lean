import ClientGen.Console.Emoji
import ClientGen.Console.StyleName
import ClientGen.Console.Wrap
import ClientGen.Text.Search

/-!
# Markup of console messages

A message may hold tags in square brackets.  A tag opens a style, or closes one when it starts with
a slash; backslashes in front of a bracket take away its meaning.  On a screen without styles tags
leave no trace (`Markup.plain`), but a tag that closes a style that is not open is a fault.  Codes
of pictures in the text become these, and lines are broken at the width of the screen.
-/

namespace ClientGen.Markup

/-- Why a message cannot be shown. -/
inductive Fault where
  /-- A tag closes a style that is not open. -/
  | notOpen (tag : String) (position : Nat)
  /-- A tag closes the last open style, and there is none. -/
  | nothingOpen (position : Nat)
  deriving Repr, DecidableEq

/-- The wording of a fault. -/
def Fault.message : Fault → String
  | notOpen tag position =>
    "closing tag '[" ++ tag ++ "]' at position " ++ toString position ++
      " doesn't match any open tag"
  | nothingOpen position =>
    "closing tag '[/]' at position " ++ toString position ++ " has nothing to close"

/-- A part of a message. -/
inductive Piece where
  | text (cs : List Char)
  /-- A tag, by what its brackets hold, with the position at which it starts. -/
  | tag (body : List Char) (position : Nat)

/-- Whether a character may come first in a tag. -/
def startsTag (c : Char) : Bool :=
  ('a' ≤ c && c ≤ 'z') || c == '#' || c == '/' || c == '@'

/-- What the brackets of a tag hold, when there is one behind an opening bracket. -/
def tagBody? : List Char → Option (List Char)
  | [] => none
  | c :: rest =>
    if startsTag c then
      let more := rest.takeWhile fun d => d != ']' && d != '['
      if (rest.drop more.length).head? = some ']' then some (c :: more) else none
    else none

/-- The number of backslashes in front of a tag and what its brackets hold, when a tag starts
here. -/
def tagAhead? (cs : List Char) : Option (Nat × List Char) :=
  let slashes := (cs.takeWhile (· = '\\')).length
  match cs.drop slashes with
  | '[' :: rest => (tagBody? rest).map fun body => (slashes, body)
  | _ => none

/-- The pieces for a tag with backslashes in front: two of them stand for one, and one that is left
over takes away the meaning of the bracket. -/
def tagPieces (slashes : Nat) (body : List Char) (position : Nat) : List Piece :=
  let start := position + slashes / 2 * 2
  (if 2 ≤ slashes then [.text (List.replicate (slashes / 2) '\\')] else []) ++
    [if slashes % 2 = 1 then .text ('[' :: body ++ [']']) else .tag body start]

/-- The pieces of a message; `skip` characters belong to a tag already, and `current` holds, in
reverse, the text at hand. -/
def piecesFrom (position skip : Nat) (current : List Char) : List Char → List Piece
  | [] => if current.isEmpty then [] else [.text current.reverse]
  | c :: rest =>
    match skip with
    | skip + 1 => piecesFrom (position + 1) skip current rest
    | 0 =>
      match tagAhead? (c :: rest) with
      | some (slashes, body) =>
        (if current.isEmpty then [] else [.text current.reverse]) ++
          tagPieces slashes body position ++
          piecesFrom (position + 1) (slashes + body.length + 1) [] rest
      | none => piecesFrom (position + 1) 0 (c :: current) rest

/-- The pieces of a message. -/
def pieces (message : String) : List Piece :=
  piecesFrom 0 0 [] message.toList

/-- The styles that are open after a tag, the last one first. -/
def applyTag (styles : List String) (body : List Char) (position : Nat) :
    Except Fault (List String) :=
  let name := String.ofList (body.takeWhile (· ≠ '='))
  match name.toList with
  | '/' :: closed =>
    if (Text.trimChars closed).isEmpty then
      match styles with
      | _ :: rest => .ok rest
      | [] => .error (.nothingOpen position)
    else
      let style := styleName (String.ofList closed)
      -- A style may be closed while later ones are open.
      if styles.contains style then .ok (styles.erase style)
      else .error (.notOpen (String.ofList body) position)
  | _ => .ok (styleName name :: styles)

/-- Whether a character stays in a message: some controls do not. -/
def isShown (c : Char) : Bool :=
  !([7, 8, 11, 12, 13].contains c.toNat)

/-- The text that pieces leave, with the given styles open. -/
def render (styles : List String) : List Piece → Except Fault String
  | [] => .ok ""
  | .text cs :: rest => do
    let shown := Emoji.replace (Text.replace "\\[" "[" (String.ofList cs)).toList
    return String.ofList (shown.filter isShown) ++ (← render styles rest)
  | .tag body position :: rest => do
    render (← applyTag styles body position) rest

/-- Characters with a tabulator replaced by blanks up to the next multiple of eight columns. -/
def expandTabs (column : Nat) : List Char → List Char
  | [] => []
  | '\t' :: rest =>
    let width := 8 - column % 8
    List.replicate width ' ' ++ expandTabs (column + width) rest
  | '\n' :: rest => '\n' :: expandTabs 0 rest
  | c :: rest => c :: expandTabs (column + Text.cellWidth c) rest

/-- Characters as they are laid out in a column of some width: tabulators become blanks, and lines
that are too wide are continued. -/
def layOut (width : Nat) (text : List Char) : List Char :=
  Wrap.wrap width (expandTabs 0 text)

/-- A message as it is shown without styles on a screen of some width. -/
def plain (width : Nat) (message : String) : Except Fault String := do
  return String.ofList (layOut width (← render [] (pieces message)).toList)

end ClientGen.Markup
