import ClientGen.Text.Blank
import ClientGen.Text.CellWidth
import ClientGen.Text.Lines

/-!
# Lines of limited width

A line that is too wide for the screen is continued on further ones: it is cut in front of a word
that does not fit any more, and a word that is wider than the screen is cut where the screen ends.
Blanks belong to the word in front of them and may stand beyond the width; there they are dropped.
-/

namespace ClientGen.Wrap

/-- The words of a line with the blanks behind them, the first one also with those in front of it;
`current` holds, in reverse, what has been read of the word at hand. -/
def wordsFrom (current : List Char) : List Char → List (List Char)
  | [] => if current.all Text.isBlank then [] else [current.reverse]
  | c :: rest =>
    let starts := !Text.isBlank c && current.head?.any Text.isBlank &&
      !current.all Text.isBlank
    if starts then current.reverse :: wordsFrom [c] rest else wordsFrom (c :: current) rest

/-- Cuts a word where `left` cells and then every `width` of them are full. -/
def chop (width left : Nat) : List Char → List (List Char)
  | [] => [[]]
  | c :: rest =>
    let size := Text.cellWidth c
    -- A character that does not fit starts a line.
    let (room, further) := if left < size then (width, true) else (left, false)
    match chop width (room - size) rest with
    | first :: more => if further then [] :: (c :: first) :: more else (c :: first) :: more
    | [] => [[c]]

/-- Lines that are complete, the last one first, and the line at hand. -/
structure Lines where
  complete : List (List Char)
  current : List Char

/-- Adds a word to the line at hand, or on further lines if it does not fit. -/
def Lines.add (width : Nat) (lines : Lines) (word : List Char) : Lines :=
  let bare := Text.cells (Text.trimEndChars word)
  if Text.cells lines.current + bare ≤ width then
    { lines with current := lines.current ++ word }
  else
    let complete :=
      if lines.current.isEmpty then lines.complete else lines.current :: lines.complete
    if bare ≤ width then ⟨complete, word⟩
    else match (chop width width word).reverse with
      | last :: before => ⟨before ++ complete, last⟩
      | [] => ⟨complete, []⟩

/-- A line cut to some cells, where the last character is looked for by halving between two places:
a blank stands for half of a character in two cells.  One step is enough for each character. -/
def cutBetween (width : Nat) (line : List Char) : Nat → Nat → Nat → List Char
  | 0, low, _ => line.take low
  | steps + 1, low, high =>
    let place := (low + high) / 2
    let front := line.take (place + 1)
    let size := Text.cells front
    if size = width + 1 ∧ Text.cells (front.drop place) = 2 then line.take place ++ [' ']
    else if size = width then front
    else if width < size then cutBetween width line steps low place
    else cutBetween width line steps place high

/-- A line without the blanks at its end that stand beyond the width. -/
def crop (width : Nat) (line : List Char) : List Char :=
  let blanks := line.length - (Text.trimEndChars line).length
  let line := line.take (line.length - min blanks (line.length - width))
  if Text.cells line ≤ width then line else cutBetween width line line.length 0 line.length

/-- The lines on which a line is continued. -/
def wrapLine (width : Nat) (line : List Char) : List (List Char) :=
  match wordsFrom [] line with
  | [] => [crop width line]
  | words =>
    let lines := words.foldl (Lines.add width) ⟨[], []⟩
    ((lines.current :: lines.complete).reverse).map (crop width)

/-- A text with its lines continued where they are too wide. -/
def wrap (width : Nat) (text : List Char) : List Char :=
  List.intercalate ['\n'] ((Text.splitChars '\n' text).flatMap (wrapLine width))

end ClientGen.Wrap
