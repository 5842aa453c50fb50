import ClientGen.Yaml.ScalarText

/-!
# From text to tokens

The tokens that the text of a document is cut into: indentation shows in `blockSequenceStart`,
`blockMappingStart` and `blockEnd`, and `key` stands in front of every key, also of one that is only
known to be a key by the colon behind it.

The lexer keeps the indentation of the open block collections, the depth of flow collections and,
for each depth, the place of the last token that a colon would turn into a key: a simple key, which
has to stand on one line and within 1024 characters.  A colon puts the `key` token, and where the
key starts a collection its start, in front of that token.  So a token is settled only when no
simple key in front of it or at it is open any more, and a fault hides the tokens that are not
settled.
-/

namespace ClientGen.Yaml

/-! ### Tokens -/

/-- A directive in front of a document. -/
inductive Directive where
  | version (major minor : Nat)
  | tagHandle (handle expansion : String)
  | other
  deriving Repr, DecidableEq

/-- A token. -/
inductive Token where
  | directive (d : Directive)
  | documentStart
  | documentEnd
  | streamEnd
  | blockSequenceStart
  | blockMappingStart
  | blockEnd
  | flowSequenceStart
  | flowSequenceEnd
  | flowMappingStart
  | flowMappingEnd
  | key
  | value
  | blockEntry
  | flowEntry
  | alias (name : String)
  | anchor (name : String)
  /-- A tag: the rest of it and the handle in front, if it has one. -/
  | tag (handle : Option String) (suffix : String)
  /-- A scalar; `isPlain` when it is written without quotes or indicators. -/
  | scalar (text : String) (isPlain : Bool)
  deriving Repr, DecidableEq

/-! ### The state of the lexer -/

/-- A token that may turn out to be a key; a required one has to. -/
structure SimpleKey where
  position : Nat
  required : Bool
  index : Nat
  line : Nat
  column : Nat
  deriving Repr

/-- The state between tokens. -/
structure Lexer where
  cursor : Cursor
  depth : Nat := 0
  indent : Int := -1
  indents : List Int := []
  keyAllowed : Bool := true
  keys : List (Nat × SimpleKey) := []
  tokens : Array Token := #[]

namespace Lexer

/-- Appends a token. -/
def emit (l : Lexer) (t : Token) : Lexer :=
  { l with tokens := l.tokens.push t }

/-- Inserts a token at a position. -/
def insert (l : Lexer) (position : Nat) (t : Token) : Lexer :=
  { l with tokens := l.tokens.insertIdxIfInBounds position t }

/-- Whether the lexer is inside a flow collection. -/
def inFlow (l : Lexer) : Bool :=
  l.depth != 0

/-- The possible key at the present depth. -/
def simpleKey? (l : Lexer) : Option SimpleKey :=
  (l.keys.find? fun key => key.1 == l.depth).map (·.2)

/-- Forgets the possible key at the present depth. -/
def forgetKey (l : Lexer) : Lexer :=
  { l with keys := l.keys.filter fun key => key.1 != l.depth }

/-- Gives up the possible key at the present depth, which must not be required. -/
def dropKey (l : Lexer) : Except Fault Lexer :=
  if l.simpleKey?.any (·.required) then .error .malformed else .ok l.forgetKey

/-- Gives up the possible keys that a colon here would not turn into keys any more. -/
def dropStaleKeys (l : Lexer) : Except Fault Lexer :=
  let isStale := fun (key : SimpleKey) =>
    key.line != l.cursor.line || key.index + 1024 < l.cursor.index
  if l.keys.any fun key => isStale key.2 && key.2.required then .error .malformed
  else .ok { l with keys := l.keys.filter fun key => !isStale key.2 }

/-- Notes that the token to come may be a key. -/
def noteKey (l : Lexer) : Except Fault Lexer :=
  if l.keyAllowed then do
    -- At the indentation of a block mapping nothing but a key may stand.
    let required := !l.inFlow && l.indent == l.cursor.column
    let l ← l.dropKey
    let c := l.cursor
    let key := (l.depth, ⟨l.tokens.size, required, c.index, c.line, c.column⟩)
    return { l with keys := key :: l.keys }
  else .ok l

/-- Closes the block collections that are indented further than the column. -/
def closeBlocks (column : Int) (l : Lexer) : List Int → Lexer
  | [] => l
  | outer :: indents =>
    if column < l.indent then
      closeBlocks column ({ l with indent := outer, indents }.emit .blockEnd) indents
    else l

/-- Closes the block collections that end at the column, outside flow collections. -/
def unwind (l : Lexer) (column : Int) : Lexer :=
  if l.inFlow then l else closeBlocks column l l.indents

/-- Opens a block collection at the column unless one that deep is open already. -/
def openBlock? (l : Lexer) (column : Nat) : Option Lexer :=
  if l.indent < column then some { l with indents := l.indent :: l.indents, indent := column }
  else none

/-- Appends the start of a block collection at the place of the cursor where one starts. -/
def openHere (l : Lexer) (start : Token) : Lexer :=
  if l.inFlow then l
  else match l.openBlock? l.cursor.column with
    | some opened => opened.emit start
    | none => l

/-- Appends a token of `size` characters. -/
def mark (l : Lexer) (t : Token) (size : Nat) : Lexer :=
  { l.emit t with cursor := l.cursor.advance size }

/-- Moves past blanks, comments and line breaks; a new line allows a key outside flow
collections. -/
def skipToToken (fuel : Nat) (l : Lexer) : Lexer :=
  match fuel with
  | 0 => l
  | fuel + 1 =>
    let c := l.cursor.skipComment
    if isBreak c.peek then
      skipToToken fuel { l with cursor := c.lineBreak.2, keyAllowed := l.keyAllowed || !l.inFlow }
    else { l with cursor := c }

/-- The end of the text. -/
def streamEnd (l : Lexer) : Except Fault Lexer := do
  let l ← (l.unwind (-1)).dropKey
  return { l with keyAllowed := false, keys := [] }.emit .streamEnd

/-- The rest of the line of a directive. -/
def directiveEnd (l : Lexer) (d : Directive) (c : Cursor) : Except Fault Lexer :=
  let c := c.skipComment
  if isBreakOrEnd c.peek then .ok { l.emit (.directive d) with cursor := c.lineBreak.2 }
  else .error .malformed

/-- A directive. -/
def directive (l : Lexer) : Except Fault Lexer := do
  let l ← (l.unwind (-1)).dropKey
  let l := { l with keyAllowed := false }
  let (name, c) := l.cursor.step.span isWordChar
  if name.isEmpty || !isSpaceOrEnd c.peek then throw .malformed
  if name == "YAML".toList then
    let ((major, minor), c) ← versionDirective c
    l.directiveEnd (.version major minor) c
  else if name == "TAG".toList then
    let ((handle, expansion), c) ← tagDirective c
    l.directiveEnd (.tagHandle handle expansion) c
  else l.directiveEnd .other (c.skip fun ch => !isBreakOrEnd ch)

/-- A marker of the start or end of a document. -/
def documentMarker (l : Lexer) (t : Token) : Except Fault Lexer := do
  let l ← (l.unwind (-1)).dropKey
  return { l with keyAllowed := false }.mark t 3

/-- The start of a flow collection. -/
def flowStart (l : Lexer) (t : Token) : Except Fault Lexer := do
  let l ← l.noteKey
  return { l with depth := l.depth + 1, keyAllowed := true }.mark t 1

/-- The end of a flow collection; one that closes nothing is a fault further on. -/
def flowEnd (l : Lexer) (t : Token) : Except Fault Lexer := do
  let l ← l.dropKey
  return { l with depth := l.depth - 1, keyAllowed := false }.mark t 1

/-- A comma in a flow collection. -/
def flowEntry (l : Lexer) : Except Fault Lexer := do
  let l ← { l with keyAllowed := true }.dropKey
  return l.mark .flowEntry 1

/-- A hyphen in front of an item. -/
def blockEntry (l : Lexer) : Except Fault Lexer := do
  if !l.inFlow && !l.keyAllowed then throw .malformed
  let l ← { l.openHere .blockSequenceStart with keyAllowed := true }.dropKey
  return l.mark .blockEntry 1

/-- A question mark in front of a key. -/
def explicitKey (l : Lexer) : Except Fault Lexer := do
  if !l.inFlow && !l.keyAllowed then throw .malformed
  let l ← { l.openHere .blockMappingStart with keyAllowed := !l.inFlow }.dropKey
  return l.mark .key 1

/-- A colon: it makes the possible key in front of it a key, or follows an explicit one. -/
def colon (l : Lexer) : Except Fault Lexer := do
  match l.simpleKey? with
  | some key =>
    -- The key was read already, so its tokens go in front of it.
    let l := l.forgetKey.insert key.position .key
    let l :=
      if l.inFlow then l
      else match l.openBlock? key.column with
        | some opened => opened.insert key.position .blockMappingStart
        | none => l
    return { l with keyAllowed := false }.mark .value 1
  | none =>
    if !l.inFlow && !l.keyAllowed then throw .malformed
    let l ← { l.openHere .blockMappingStart with keyAllowed := !l.inFlow }.dropKey
    return l.mark .value 1

/-- An item that may be a key, after which no key may start. -/
def keyLike (l : Lexer) (scan : Cursor → Except Fault (Token × Cursor)) : Except Fault Lexer := do
  let l ← l.noteKey
  let (t, cursor) ← scan l.cursor
  return { l with keyAllowed := false, cursor }.emit t

/-- A block scalar. -/
def block (l : Lexer) (folded : Bool) : Except Fault Lexer := do
  let l ← { l with keyAllowed := true }.dropKey
  let (text, cursor) ← blockScalar folded l.indent l.cursor
  return { l with cursor }.emit (.scalar text false)

/-- A plain scalar. -/
def plain (l : Lexer) : Except Fault Lexer := do
  let l ← l.noteKey
  let (text, newLine, cursor) := plainScalar l.inFlow (l.indent + 1) l.cursor
  return { l with keyAllowed := newLine, cursor }.emit (.scalar text true)

/-- Whether a plain scalar starts here. -/
def startsPlain (l : Lexer) : Bool :=
  let ch := l.cursor.peek
  -- A hyphen, a question mark or a colon starts one only in front of a character.
  !(isBlankOrEnd ch || "-?:,[]#&*!|>'\"%@\x60\x7b\x7d".toList.contains ch) ||
    (!isBlankOrEnd (l.cursor.peekAt 1) &&
      (ch == '-' || (!l.inFlow && (ch == '?' || ch == ':'))))

/-- The token that starts at the character `ch`. -/
def item (l : Lexer) (ch : Char) : Except Fault Lexer :=
  let standsAlone := isBlankOrEnd (l.cursor.peekAt 1)
  let atMargin := l.cursor.column == 0
  if ch == '%' && atMargin then l.directive
  else if atMargin && l.cursor.isMarker '-' then l.documentMarker .documentStart
  else if atMargin && l.cursor.isMarker '.' then l.documentMarker .documentEnd
  else if ch == '[' then l.flowStart .flowSequenceStart
  else if ch == '{' then l.flowStart .flowMappingStart
  else if ch == ']' then l.flowEnd .flowSequenceEnd
  else if ch == '}' then l.flowEnd .flowMappingEnd
  else if ch == ',' then l.flowEntry
  else if ch == '-' && standsAlone then l.blockEntry
  else if ch == '?' && (l.inFlow || standsAlone) then l.explicitKey
  else if ch == ':' && (l.inFlow || standsAlone) then l.colon
  else if ch == '*' then
    l.keyLike fun c => (anchorName c).map fun (name, c) => (.alias name, c)
  else if ch == '&' then
    l.keyLike fun c => (anchorName c).map fun (name, c) => (.anchor name, c)
  else if ch == '!' then
    l.keyLike fun c => (tag c).map fun ((handle, suffix), c) => (.tag handle suffix, c)
  else if ch == '|' && !l.inFlow then l.block false
  else if ch == '>' && !l.inFlow then l.block true
  else if ch == '\'' || ch == '"' then
    l.keyLike fun c => (quotedScalar c).map fun (text, c) => (.scalar text false, c)
  else if l.startsPlain then l.plain
  else .error .malformed

/-- How many tokens nothing will come in front of: those before the first that may turn out to be a
key. -/
def settled (l : Lexer) : Nat :=
  l.keys.foldl (fun n key => min n key.2.position) l.tokens.size

/-- Reads the next tokens; true at the end of the text. -/
def next (l : Lexer) : Except Fault (Lexer × Bool) := do
  let l ← (l.skipToToken (l.cursor.rest.length + 1)).dropStaleKeys
  let l := l.unwind l.cursor.column
  let ch := l.cursor.peek
  if ch == endMark then return (← l.streamEnd, true)
  return (← l.item ch, false)

/-- Reads tokens up to the end of the text or the first fault, in front of which only the settled
tokens count, `known` of them so far. -/
def run (fuel known : Nat) (l : Lexer) : Array Token × Option Fault :=
  match fuel with
  | 0 => (l.tokens, some .malformed)
  | fuel + 1 =>
    match l.dropStaleKeys with
    | .error fault => (l.tokens.take known, some fault)
    | .ok l =>
      match l.next with
      -- What is not settled is hidden: the tokens behind may still have changed its meaning.
      | .error fault => (l.tokens.take l.settled, some fault)
      | .ok (after, true) => (after.tokens, none)
      | .ok (after, false) => run fuel l.settled after

end Lexer

/-- Characters that a YAML text may hold. -/
def isTextChar (c : Char) : Bool :=
  let n := c.toNat
  n == 0x9 || n == 0xa || n == 0xd || (0x20 ≤ n && n ≤ 0x7e) || n == 0x85 ||
    (0xa0 ≤ n && n ≤ 0xd7ff) || (0xe000 ≤ n && n ≤ 0xfffd) || 0x10000 ≤ n

/-- The tokens of a text and the fault behind them, if there is one.  A byte order mark in front is
not part of the text, and every token but the last takes at least one character. -/
def tokenize (text : String) : List Token × Option Fault :=
  let cs := text.toList
  if !cs.all isTextChar then ([], some .malformed)
  else
    let start : Cursor := { rest := cs }
    let start := if cs.head? == some (Char.ofNat 0xfeff) then start.step else start
    let (tokens, fault) := ({ cursor := start } : Lexer).run (cs.length + 2) 0
    (tokens.toList, fault)

end ClientGen.Yaml
