/-!
# Path templates and routes

A path template such as `/pets/{id}` is read as a sequence of pieces: single characters and
placeholders.  `PathTemplate.route` writes each placeholder with a colon, `PathTemplate.parameters`
lists their names, and `PathTemplate.isValid` accepts the paths whose braces all belong to
placeholders within one segment.
-/

namespace ClientGen.PathTemplate

/-- A part of a path: a character that stands for itself or a placeholder. -/
inductive Piece where
  | char (c : Char)
  | placeholder (name : List Char)
  deriving Repr, DecidableEq

/-- Whether the character is a brace. -/
def isBrace (c : Char) : Bool :=
  c == '{' || c == '}'

/-- The name of the placeholder whose opening brace stands in front of the characters: one or more
characters other than braces, and then a closing brace. -/
def placeholder? (cs : List Char) : Option (List Char) :=
  let name := cs.takeWhile fun c => !isBrace c
  if !name.isEmpty && (cs.drop name.length).head? == some '}' then some name else none

/-- The pieces of a path; the first `skip` characters belong to a placeholder already read. -/
def piecesFrom (skip : Nat) : List Char → List Piece
  | [] => []
  | c :: rest =>
    match skip with
    | skip + 1 => piecesFrom skip rest
    | 0 =>
      if c = '{' then
        match placeholder? rest with
        | some name => .placeholder name :: piecesFrom (name.length + 1) rest
        | none => .char c :: piecesFrom 0 rest
      else .char c :: piecesFrom 0 rest

/-- The pieces of a path. -/
def pieces (path : String) : List Piece :=
  piecesFrom 0 path.toList

/-- A piece as a route has it. -/
def Piece.route : Piece → List Char
  | char c => [c]
  | placeholder name => ':' :: name

/-- The route of a path: placeholders are written with a colon. -/
def route (path : String) : String :=
  String.ofList ((pieces path).flatMap Piece.route)

/-- The name of a placeholder. -/
def Piece.name? : Piece → Option String
  | char _ => none
  | placeholder name => some (String.ofList name)

/-- The names of the placeholders of a path, in order. -/
def parameters (path : String) : List String :=
  (pieces path).filterMap Piece.name?

/-- Whether a template may hold the piece: no brace outside placeholders, no slash inside. -/
def Piece.isProper : Piece → Bool
  | char c => !isBrace c
  | placeholder name => !name.contains '/'

/-- Whether a path is a template: it starts with a slash and its pieces are proper. -/
def isValid (path : String) : Bool :=
  path.toList.head? == some '/' && (pieces path).all Piece.isProper

end ClientGen.PathTemplate
