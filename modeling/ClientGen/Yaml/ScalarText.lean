import ClientGen.Text.Hex
import ClientGen.Text.Utf8
import ClientGen.Yaml.Cursor
import ClientGen.Yaml.Fault

/-!
# The texts of scalars and names

The steps of the lexer that read one item from a place in the text: quoted scalars with their
escapes and folded lines, block scalars with their header, indentation and chomping, anchors, tags
and directives.  Each returns what it read and the place behind it.
-/

namespace ClientGen.Yaml

/-! ### Quoted scalars -/

/-- The character of a one-letter escape. -/
def escapeChar? (c : Char) : Option Char :=
  match c with
  | '0' => some (Char.ofNat 0)
  | 'a' => some (Char.ofNat 7)
  | 'b' => some (Char.ofNat 8)
  | 't' => some '\t'
  | '\t' => some '\t'
  | 'n' => some '\n'
  | 'v' => some (Char.ofNat 11)
  | 'f' => some (Char.ofNat 12)
  | 'r' => some '\r'
  | 'e' => some (Char.ofNat 27)
  | ' ' => some ' '
  | '"' => some '"'
  | '\\' => some '\\'
  | '/' => some '/'
  | 'N' => some (Char.ofNat 0x85)
  | '_' => some (Char.ofNat 0xa0)
  | 'L' => some (Char.ofNat 0x2028)
  | 'P' => some (Char.ofNat 0x2029)
  | _ => none

/-- The number of hexadecimal digits of an escape by code. -/
def escapeDigits? (c : Char) : Option Nat :=
  match c with
  | 'x' => some 2
  | 'u' => some 4
  | 'U' => some 8
  | _ => none

/-- The character with a code.  The half of a pair of UTF-16 units is no character of a text: it is
read as the character with the number zero. -/
def charOfCode (n : Nat) : Except Fault Char :=
  if n < 0x110000 then .ok (Char.ofNat n)
  else if n < 0x80000000 then .error .characterCode
  else .error .characterCodeSize

/-- Whether the character ends a run of plain characters inside quotes. -/
def endsQuotedRun (c : Char) : Bool :=
  c == '\'' || c == '"' || c == '\\' || isBlankOrEnd c

/-- Empty lines inside quotes; a document marker at the start of a line is a fault. -/
def quotedBreaks (fuel : Nat) (c : Cursor) : Except Fault (List Char × Cursor) :=
  match fuel with
  | 0 => .ok ([], c)
  | fuel + 1 =>
    if c.isAnyMarker then .error .malformed
    else
      let c := c.skip fun ch => ch == ' ' || ch == '\t'
      if isBreak c.peek then do
        let (lineBreak, c) := c.lineBreak
        let (more, c) ← quotedBreaks fuel c
        return (lineBreak ++ more, c)
      else .ok ([], c)

/-- Blanks inside quotes: kept within a line; a single line break becomes a space and further ones
stay. -/
def quotedBlanks (fuel : Nat) (c : Cursor) : Except Fault (List Char × Cursor) := do
  let (blanks, c) := c.span fun ch => ch == ' ' || ch == '\t'
  if c.peek == endMark then throw .malformed
  if isBreak c.peek then
    let (lineBreak, c) := c.lineBreak
    let (breaks, c) ← quotedBreaks fuel c
    -- A break other than a line feed is kept.
    let first := if lineBreak ≠ ['\n'] then lineBreak else if breaks.isEmpty then [' '] else []
    return (first ++ breaks, c)
  return (blanks, c)

/-- Characters inside quotes up to a blank or the closing quote. -/
def quotedRun (isDouble : Bool) (fuel : Nat) (c : Cursor) : Except Fault (List Char × Cursor) :=
  match fuel with
  | 0 => .ok ([], c)
  | fuel + 1 => do
    let (run, c) := c.span fun ch => !endsQuotedRun ch
    let ch := c.peek
    if !isDouble && ch == '\'' && c.peekAt 1 == '\'' then
      let (more, c) ← quotedRun isDouble fuel (c.advance 2)
      return (run ++ '\'' :: more, c)
    -- The other quote, and a backslash in single quotes, stand for themselves.
    else if (isDouble && ch == '\'') || (!isDouble && (ch == '"' || ch == '\\')) then
      let (more, c) ← quotedRun isDouble fuel c.step
      return (run ++ ch :: more, c)
    else if isDouble && ch == '\\' then
      let c := c.step
      let ch := c.peek
      if let some escaped := escapeChar? ch then
        let (more, c) ← quotedRun isDouble fuel c.step
        return (run ++ escaped :: more, c)
      else if let some size := escapeDigits? ch then
        let c := c.step
        let digits := c.take size
        if digits.length < size then throw .malformed
        let some code := Text.hexNumber? digits | throw .malformed
        let escaped ← charOfCode code
        let (more, c) ← quotedRun isDouble fuel (c.advance size)
        return (run ++ escaped :: more, c)
      -- An escaped line break leaves no mark, but empty lines behind it do.
      else if isBreak ch then
        let (breaks, c) ← quotedBreaks fuel c.lineBreak.2
        let (more, c) ← quotedRun isDouble fuel c
        return (run ++ breaks ++ more, c)
      else throw .malformed
    else return (run, c)

/-- The rest of a quoted scalar after a run of characters. -/
def quotedRest (isDouble : Bool) (quote : Char) (fuel : Nat) (c : Cursor) :
    Except Fault (List Char × Cursor) :=
  match fuel with
  | 0 => .error .malformed
  | fuel + 1 =>
    if c.peek == quote then .ok ([], c.step)
    else do
      let (blanks, c) ← quotedBlanks (c.rest.length + 1) c
      let (run, c) ← quotedRun isDouble (c.rest.length + 1) c
      let (more, c) ← quotedRest isDouble quote fuel c
      return (blanks ++ run ++ more, c)

/-- A scalar in quotes. -/
def quotedScalar (c : Cursor) : Except Fault (String × Cursor) := do
  let quote := c.peek
  let isDouble := quote == '"'
  let (run, c) ← quotedRun isDouble (c.rest.length + 1) c.step
  let (more, c) ← quotedRest isDouble quote (c.rest.length + 1) c
  return (String.ofList (run ++ more), c)

/-! ### Block scalars -/

/-- What happens to the line breaks at the end of a block scalar. -/
inductive Chomping where
  | strip
  | clip
  | keep
  deriving Repr, DecidableEq

/-- An indentation digit. -/
def blockIndent? (c : Char) : Option Nat :=
  if c.isDigit then some (c.toNat - 48) else none

/-- A chomping sign. -/
def chomping? (c : Char) : Option Chomping :=
  if c == '+' then some .keep else if c == '-' then some .strip else none

/-- The header of a block scalar after its indicator: chomping and indentation in either order. -/
def blockHeader (c : Cursor) : Except Fault ((Chomping × Option Nat) × Cursor) := do
  let (chomping, indent, c) :=
    match chomping? c.peek with
    | some chomping =>
      match blockIndent? c.step.peek with
      | some n => (chomping, some n, c.advance 2)
      | none => (chomping, none, c.step)
    | none =>
      match blockIndent? c.peek with
      | some n =>
        match chomping? c.step.peek with
        | some chomping => (chomping, some n, c.advance 2)
        | none => (.clip, some n, c.step)
      | none => (.clip, none, c)
  if indent == some 0 then throw .malformed
  if !isSpaceOrEnd c.peek then throw .malformed
  let c := c.skipComment
  if !isBreakOrEnd c.peek then throw .malformed
  return ((chomping, indent), c.lineBreak.2)

/-- Empty lines in front of a block scalar without an indentation digit, and the deepest indentation
seen. -/
def blockLead (fuel : Nat) (deepest : Nat) (c : Cursor) : List Char × Nat × Cursor :=
  match fuel with
  | 0 => ([], deepest, c)
  | fuel + 1 =>
    if c.peek == ' ' then
      let c := c.step
      blockLead fuel (max deepest c.column) c
    else if isBreak c.peek then
      let (lineBreak, c) := c.lineBreak
      let (more, deepest, c) := blockLead fuel deepest c
      (lineBreak ++ more, deepest, c)
    else ([], deepest, c)

/-- Moves past spaces, up to a column. -/
def skipIndent (indent : Nat) (fuel : Nat) (c : Cursor) : Cursor :=
  match fuel with
  | 0 => c
  | fuel + 1 =>
    if c.column < indent && c.peek == ' ' then skipIndent indent fuel c.step else c

/-- Empty lines inside a block scalar, and the indentation of the line after them. -/
def blockBreaks (indent : Nat) (fuel : Nat) (c : Cursor) : List Char × Cursor :=
  match fuel with
  | 0 => ([], c)
  | fuel + 1 =>
    let c := skipIndent indent (c.rest.length + 1) c
    if isBreak c.peek then
      let (lineBreak, c) := c.lineBreak
      let (more, c) := blockBreaks indent fuel c
      (lineBreak ++ more, c)
    else ([], c)

/-- The lines of a block scalar; `breaks` are the empty lines in front of the line at hand.  Returns
the text, the break of the last line and the empty lines behind it. -/
def blockLines (folded : Bool) (indent : Nat) (breaks : List Char) (fuel : Nat) (c : Cursor) :
    List Char × List Char × List Char × Cursor :=
  match fuel with
  | 0 => ([], [], breaks, c)
  | fuel + 1 =>
    if c.column ≠ indent || c.peek == endMark then ([], [], breaks, c)
    else
      let startsText := c.peek != ' ' && c.peek != '\t'
      let (line, c) := c.span fun ch => !isBreakOrEnd ch
      let (lineBreak, c) := c.lineBreak
      let (after, c) := blockBreaks indent (c.rest.length + 1) c
      if c.column = indent && c.peek != endMark then
        -- Lines are folded only between two lines that start with text.
        let joint :=
          if folded && lineBreak == ['\n'] && startsText && c.peek != ' ' && c.peek != '\t' then
            (if after.isEmpty then [' '] else [])
          else lineBreak
        let (text, last, tail, c) := blockLines folded indent after fuel c
        (breaks ++ line ++ joint ++ text, last, tail, c)
      else (breaks ++ line, lineBreak, after, c)

/-- A block scalar, folded or literal, inside a collection indented by `indent` columns. -/
def blockScalar (folded : Bool) (indent : Int) (c : Cursor) : Except Fault (String × Cursor) := do
  let ((chomping, digit), c) ← blockHeader c.step
  -- The text is indented further than the collection around it.
  let least := max 1 (indent + 1).toNat
  let fuel := c.rest.length + 1
  let (breaks, indent, c) :=
    match digit with
    | none =>
      let (breaks, deepest, c) := blockLead fuel 0 c
      (breaks, max least deepest, c)
    | some n =>
      let indent := least + n - 1
      let (breaks, c) := blockBreaks indent fuel c
      (breaks, indent, c)
  let (text, last, tail, c) := blockLines folded indent breaks fuel c
  let ending := match chomping with
    | .strip => []
    | .clip => last
    | .keep => last ++ tail
  return (String.ofList (text ++ ending), c)

/-! ### Plain scalars -/

/-- Whether a plain scalar stops at the character here. -/
def endsPlain (inFlow : Bool) (rest : List Char) : Bool :=
  match rest with
  | [] => true
  | ':' :: rest =>
    match rest with
    | [] => true
    | c :: _ =>
      isBlankOrEnd c || (inFlow && (c == ',' || c == '[' || c == ']' || c == '{' || c == '}'))
  | c :: _ =>
    isBlankOrEnd c ||
      (inFlow && (c == ',' || c == '?' || c == '[' || c == ']' || c == '{' || c == '}'))

/-- The length of the run of plain characters here. -/
def plainLength (inFlow : Bool) : List Char → Nat
  | [] => 0
  | c :: rest => if endsPlain inFlow (c :: rest) then 0 else plainLength inFlow rest + 1

/-- Blank lines inside a plain scalar, or nothing where a document marker ends it. -/
def plainBreaks (fuel : Nat) (c : Cursor) : Option (List Char) × Cursor :=
  match fuel with
  | 0 => (some [], c)
  | fuel + 1 =>
    if c.peek == ' ' then plainBreaks fuel c.step
    else if isBreak c.peek then
      let (lineBreak, c) := c.lineBreak
      if c.isAnyMarker then (none, c)
      else
        let (more, c) := plainBreaks fuel c
        (more.map (lineBreak ++ ·), c)
    else (some [], c)

/-- The blanks behind a run of plain characters as they would stand in the scalar, whether a line
ended in them, and the place behind them. -/
def plainBlanks (c : Cursor) : List Char × Bool × Cursor :=
  let (blanks, c) := c.span (· == ' ')
  if isBreak c.peek then
    let (lineBreak, c) := c.lineBreak
    if c.isAnyMarker then ([], true, c)
    else
      let (breaks?, c) := plainBreaks (c.rest.length + 1) c
      match breaks? with
      | none => ([], true, c)
      | some breaks =>
        let first := if lineBreak ≠ ['\n'] then lineBreak else if breaks.isEmpty then [' '] else []
        (first ++ breaks, true, c)
  else (blanks, false, c)

/-- A plain scalar with `blanks` in front of the run at hand; lines have to be indented by `indent`
columns unless inside a flow collection.  Also says whether a line ended behind the last run. -/
def plainRuns (inFlow : Bool) (indent : Int) (blanks : List Char) (newLine : Bool) (fuel : Nat)
    (c : Cursor) : List Char × Bool × Cursor :=
  match fuel with
  | 0 => ([], newLine, c)
  | fuel + 1 =>
    -- A number sign behind a blank starts a comment.
    let size := if c.peek == '#' then 0 else plainLength inFlow c.rest
    if size = 0 then ([], newLine, c)
    else
      let run := c.take size
      let (after, newLine, c) := plainBlanks (c.advance size)
      if after.isEmpty || c.peek == '#' || (!inFlow && c.column < indent) then
        (blanks ++ run, newLine, c)
      else
        let (more, newLine, c) := plainRuns inFlow indent after newLine fuel c
        (blanks ++ run ++ more, newLine, c)

/-- A plain scalar, and whether a line ended behind it. -/
def plainScalar (inFlow : Bool) (indent : Int) (c : Cursor) : String × Bool × Cursor :=
  let (text, newLine, c) := plainRuns inFlow indent [] false (c.rest.length + 1) c
  (String.ofList text, newLine, c)

/-! ### Anchors, tags and directives -/

/-- The name of an anchor or alias, after its indicator. -/
def anchorName (c : Cursor) : Except Fault (String × Cursor) :=
  let (name, c) := c.step.span isWordChar
  let next := c.peek
  if name.isEmpty then .error .malformed
  else if isBlankOrEnd next || "?:,]\x7d%@\x60".toList.contains next then
    .ok (String.ofList name, c)
  else .error .malformed

/-- A character of a tag that needs no escape. -/
def isTagChar (c : Char) : Bool :=
  isWordChar c || ";/?:@&=+$,.!~*'()[]%".toList.contains c

/-- Octets written by percent signs and two digits each. -/
def tagEscapes (fuel : Nat) (c : Cursor) : Except Fault (List UInt8 × Cursor) :=
  match fuel with
  | 0 => .ok ([], c)
  | fuel + 1 =>
    if c.peek == '%' then do
      let digits := c.step.take 2
      if digits.length < 2 then throw .malformed
      let some octet := Text.hexNumber? digits | throw .malformed
      let (more, c) ← tagEscapes fuel (c.advance 3)
      return (UInt8.ofNat octet :: more, c)
    else .ok ([], c)

/-- The characters of a tag, escapes decoded. -/
def tagChars (fuel : Nat) (c : Cursor) : Except Fault (List Char × Cursor) :=
  match fuel with
  | 0 => .ok ([], c)
  | fuel + 1 =>
    if c.peek == '%' then do
      let (octets, c) ← tagEscapes (c.rest.length + 1) c
      match Text.Utf8.decode octets with
      | .error _ => throw .malformed
      | .ok text =>
        let (more, c) ← tagChars fuel c
        return (text.toList ++ more, c)
    else if isTagChar c.peek then do
      let ch := c.peek
      let (more, c) ← tagChars fuel c.step
      return (ch :: more, c)
    else .ok ([], c)

/-- The characters of a tag, of which there has to be one. -/
def tagText (c : Cursor) : Except Fault (String × Cursor) := do
  let (text, after) ← tagChars (c.rest.length + 1) c
  if after.index = c.index then throw .malformed
  return (String.ofList text, after)

/-- A tag handle: an exclamation mark, or two around a name. -/
def tagHandle (c : Cursor) : Except Fault (String × Cursor) :=
  if c.peek != '!' then .error .malformed
  else if c.peekAt 1 == ' ' then .ok ("!", c.step)
  else
    let (name, after) := c.step.span isWordChar
    if after.peek == '!' then .ok (String.ofList ('!' :: name ++ ['!']), after.step)
    else .error .malformed

/-- A tag: its handle, if it has one, and the rest of it. -/
def tag (c : Cursor) : Except Fault ((Option String × String) × Cursor) := do
  let next := c.peekAt 1
  let ((handle, suffix), c) ←
    if next == '<' then do
      let (suffix, c) ← tagText (c.advance 2)
      if c.peek != '>' then throw .malformed
      pure ((none, suffix), c.step)
    else if isBlankOrEnd next then pure ((none, "!"), c.step)
    -- A second exclamation mark ends a handle of its own.
    else if ((c.step.rest.takeWhile fun ch => !isSpaceOrEnd ch).contains '!') then do
      let (handle, c) ← tagHandle c
      let (suffix, c) ← tagText c
      pure ((some handle, suffix), c)
    else do
      let (suffix, c) ← tagText c.step
      pure ((some "!", suffix), c)
  if !isSpaceOrEnd c.peek then throw .malformed
  return ((handle, suffix), c)

/-- A decimal number in a directive. -/
def directiveNumber (c : Cursor) : Except Fault (Nat × Cursor) :=
  let (digits, c) := c.span Char.isDigit
  if digits.isEmpty then .error .malformed
  else (readInteger 10 (String.ofList digits)).map fun n => (n.toNat, c)

/-- A directive that only a version makes: major and minor number. -/
def versionDirective (c : Cursor) : Except Fault ((Nat × Nat) × Cursor) := do
  let (major, c) ← directiveNumber (c.skip (· == ' '))
  if c.peek != '.' then throw .malformed
  let (minor, c) ← directiveNumber c.step
  if !isSpaceOrEnd c.peek then throw .malformed
  return ((major, minor), c)

/-- A directive that gives a tag handle its meaning. -/
def tagDirective (c : Cursor) : Except Fault ((String × String) × Cursor) := do
  let (handle, c) ← tagHandle (c.skip (· == ' '))
  if c.peek != ' ' then throw .malformed
  let (expansion, c) ← tagText (c.skip (· == ' '))
  if !isSpaceOrEnd c.peek then throw .malformed
  return ((handle, expansion), c)

end ClientGen.Yaml
