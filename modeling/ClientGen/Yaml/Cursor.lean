/-!
# Places in a YAML text

A `Cursor` holds the characters that are left and the place they start at, by index, line and
column. The end of the text reads as U+0000, which no YAML text contains.
-/

namespace ClientGen.Yaml

/-- What is left of a text and where it starts. -/
structure Cursor where
  rest : List Char
  index : Nat := 0
  line : Nat := 0
  column : Nat := 0
  deriving Repr

/-- The mark of the end of the text. -/
def endMark : Char := Char.ofNat 0

/-- Line breaks: carriage return, line feed, next line and the two separators. -/
def isBreak (c : Char) : Bool :=
  c == '\r' || c == '\n' || c.toNat == 0x85 || c.toNat == 0x2028 || c.toNat == 0x2029

/-- A line break or the end. -/
def isBreakOrEnd (c : Char) : Bool :=
  isBreak c || c == endMark

/-- A line break, a space or the end. -/
def isSpaceOrEnd (c : Char) : Bool :=
  isBreakOrEnd c || c == ' '

/-- A line break, a space, a tab or the end. -/
def isBlankOrEnd (c : Char) : Bool :=
  isSpaceOrEnd c || c == '\t'

/-- Letters, digits, hyphens and underscores of ASCII. -/
def isWordChar (c : Char) : Bool :=
  c.isAlphanum || c == '-' || c == '_'

namespace Cursor

/-- The character here. -/
def peek (c : Cursor) : Char :=
  c.rest.head?.getD endMark

/-- The character `k` places on. -/
def peekAt (c : Cursor) (k : Nat) : Char :=
  c.rest[k]?.getD endMark

/-- The next characters. -/
def take (c : Cursor) (n : Nat) : List Char :=
  c.rest.take n

/-- Moves past one character: a line break starts a line, the two characters of a Windows line end
together, and a byte order mark takes no column. -/
def step (c : Cursor) : Cursor :=
  match c.rest with
  | [] => c
  | ch :: rest =>
    if (isBreak ch && ch != '\r') || (ch == '\r' && rest.head? != some '\n') then
      ⟨rest, c.index + 1, c.line + 1, 0⟩
    else if ch.toNat == 0xfeff then ⟨rest, c.index + 1, c.line, c.column⟩
    else ⟨rest, c.index + 1, c.line, c.column + 1⟩

/-- Moves past `n` characters. -/
def advance (c : Cursor) : Nat → Cursor
  | 0 => c
  | n + 1 => c.step.advance n

/-- The characters up to the first that fails the test, and the place behind them. -/
def span (c : Cursor) (p : Char → Bool) : List Char × Cursor :=
  let run := c.rest.takeWhile p
  (run, c.advance run.length)

/-- Moves past the characters that pass the test. -/
def skip (c : Cursor) (p : Char → Bool) : Cursor :=
  (c.span p).2

/-- Moves past one line break and returns it; the breaks of one or two control characters all read
as a line feed. -/
def lineBreak (c : Cursor) : List Char × Cursor :=
  let ch := c.peek
  if ch == '\r' && c.peekAt 1 == '\n' then (['\n'], c.advance 2)
  else if ch == '\r' || ch == '\n' || ch.toNat == 0x85 then (['\n'], c.step)
  else if isBreak ch then ([ch], c.step)
  else ([], c)

/-- Whether a document marker, three equal characters and then a blank, stands here. -/
def isMarker (c : Cursor) (ch : Char) : Bool :=
  c.take 3 == [ch, ch, ch] && isBlankOrEnd (c.peekAt 3)

/-- Whether a marker of the start or end of a document stands here. -/
def isAnyMarker (c : Cursor) : Bool :=
  c.isMarker '-' || c.isMarker '.'

/-- Moves past spaces and a comment. -/
def skipComment (c : Cursor) : Cursor :=
  let c := c.skip (· == ' ')
  if c.peek == '#' then c.skip fun ch => !isBreakOrEnd ch else c

end Cursor

end ClientGen.Yaml
