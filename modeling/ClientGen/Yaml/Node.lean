import ClientGen.Yaml.Lexer
import ClientGen.Yaml.Scalar

/-!
# From tokens to nodes

A document is a graph of tagged nodes, each known by its number: an alias gives the number of the
node that it stands for, which may be a collection that is still open, so a collection may contain
itself. `Graph.ofText?` reads the single document of a text.
-/

namespace ClientGen.Yaml

/-- What a node holds; the parts of collections are given by number. -/
inductive Content where
  | scalar (text : String)
  | sequence (items : List Nat)
  | mapping (entries : List (Nat × Nat))
  deriving Inhabited

/-- A node of a document. -/
structure Node where
  tag : Tag
  content : Content

/-- The nodes of a document by number. -/
abbrev Graph := Array Node

namespace Graph

/-- The tag of a node. -/
def tag (g : Graph) (n : Nat) : Tag :=
  (g[n]?.map (·.tag)).getD .unknown

/-- What a node holds. -/
def content (g : Graph) (n : Nat) : Content :=
  (g[n]?.map (·.content)).getD (.scalar "")

/-- The entries of a mapping. -/
def entries (g : Graph) (n : Nat) : List (Nat × Nat) :=
  match g.content n with
  | .mapping entries => entries
  | _ => []

/-- The graph in which a node holds something else. -/
def setContent (g : Graph) (n : Nat) (content : Content) : Graph :=
  g.modify n fun node => { node with content }

/-- The graph in which a node has another tag. -/
def setTag (g : Graph) (n : Nat) (tag : Tag) : Graph :=
  g.modify n fun node => { node with tag }

end Graph

/-- What is left of the tokens, the nodes read so far with the names given to them, and the meaning
of tag handles. -/
structure Source where
  tokens : List Token
  fault : Option Fault
  nodes : Graph := #[]
  anchors : List (String × Nat) := []
  handles : List (String × String) := [("!", "!"), ("!!", "tag:yaml.org,2002:")]

namespace Source

/-- The fault to report where the tokens fit no rule: the one behind them when they are at an
end. -/
def stuck (s : Source) : Fault :=
  if s.tokens.isEmpty then s.fault.getD .malformed else .malformed

/-- The next token. -/
def next? (s : Source) : Option Token :=
  s.tokens.head?

/-- Moves past a token. -/
def drop (s : Source) : Source :=
  { s with tokens := s.tokens.drop 1 }

/-- Whether the next token is one of those. -/
def isAt (s : Source) (tokens : List Token) : Bool :=
  s.next?.any tokens.contains

/-- Adds a node without a name. -/
def add (s : Source) (tag : Tag) (content : Content) : Nat × Source :=
  (s.nodes.size, { s with nodes := s.nodes.push ⟨tag, content⟩ })

/-- Adds a node and gives it a name; a name is given once. -/
def addNamed (s : Source) (anchor : Option String) (tag : Tag) (content : Content) :
    Except Fault (Nat × Source) :=
  let (n, added) := s.add tag content
  match anchor with
  | none => .ok (n, added)
  | some name =>
    if s.anchors.any (·.1 == name) then .error .malformed
    else .ok (n, { added with anchors := (name, n) :: s.anchors })

/-- Adds the node of a place where nothing is written. -/
def addEmpty (s : Source) : Nat × Source :=
  s.add (.ofPlain "") (.scalar "")

/-- Lets a node hold something else. -/
def fill (s : Source) (n : Nat) (content : Content) : Source :=
  { s with nodes := s.nodes.setContent n content }

end Source

/-- A name and a tag in front of a node, in either order.  Behind one of them there has to be a
further token. -/
def readProperties (s : Source) :
    Except Fault (Option String × Option (Option String × String) × Source) :=
  match s.tokens with
  | .anchor name :: .tag handle suffix :: _ => .ok (some name, some (handle, suffix), s.drop.drop)
  | .tag handle suffix :: .anchor name :: _ => .ok (some name, some (handle, suffix), s.drop.drop)
  | [.anchor _] | [.tag _ _] => .error s.drop.stuck
  | .anchor name :: _ => .ok (some name, none, s.drop)
  | .tag handle suffix :: _ => .ok (none, some (handle, suffix), s.drop)
  | _ => .ok (none, none, s)

/-- The full name of a tag; its handle has to have a meaning. -/
def tagName (s : Source) : Option (Option String × String) → Except Fault (Option String)
  | none => .ok none
  | some (none, suffix) => .ok (some suffix)
  | some (some handle, suffix) =>
    match s.handles.find? (·.1 == handle) with
    | some (_, expansion) => .ok (some (expansion ++ suffix))
    | none => .error .malformed

/-- The tag of a collection. -/
def collectionTag (default : Tag) (tag : Option String) : Tag :=
  match tag with
  | none => default
  | some name => if name == "!" then default else .ofName name

/-- The tag of a scalar: a plain one without tag, or any with the bare tag, goes by its looks. -/
def scalarTag (tag : Option String) (isPlain : Bool) (text : String) : Tag :=
  match tag with
  | none => if isPlain then .ofPlain text else .str
  | some name => if name == "!" then .ofPlain text else .ofName name

mutual

/-- The number of a node; block collections are allowed in `block` position, and items without
further indentation where `indentless`. -/
def readNode (fuel : Nat) (block indentless : Bool) (s : Source) : Except Fault (Nat × Source) :=
  match fuel with
  | 0 => .error .malformed
  | fuel + 1 =>
    match s.next? with
    | some (.alias name) =>
      match s.anchors.find? (·.1 == name) with
      | some (_, n) => .ok (n, s.drop)
      | none => .error .malformed
    | _ => do
      let (anchor, written, s) ← readProperties s
      let tag ← tagName s written
      match s.next? with
      | some (.scalar text isPlain) =>
        s.drop.addNamed anchor (scalarTag tag isPlain text) (.scalar text)
      | some .flowSequenceStart =>
        -- The name is given before the items are read, so that they may refer to it.
        let (n, s) ← s.drop.addNamed anchor (collectionTag .seq tag) (.sequence [])
        let (items, s) ← readFlowItems fuel true s
        return (n, s.fill n (.sequence items))
      | some .flowMappingStart =>
        let (n, s) ← s.drop.addNamed anchor (collectionTag .map tag) (.mapping [])
        let (entries, s) ← readFlowEntries fuel true s
        return (n, s.fill n (.mapping entries))
      | next =>
        if indentless && next == some .blockEntry then
          let (n, s) ← s.addNamed anchor (collectionTag .seq tag) (.sequence [])
          let (items, s) ← readItems fuel false s
          return (n, s.fill n (.sequence items))
        else if block && next == some .blockSequenceStart then
          let (n, s) ← s.drop.addNamed anchor (collectionTag .seq tag) (.sequence [])
          let (items, s) ← readItems fuel true s
          return (n, s.fill n (.sequence items))
        else if block && next == some .blockMappingStart then
          let (n, s) ← s.drop.addNamed anchor (collectionTag .map tag) (.mapping [])
          let (entries, s) ← readEntries fuel s
          return (n, s.fill n (.mapping entries))
        -- A name or a tag alone makes an empty scalar.
        else if (anchor.isSome || tag.isSome) && next.isSome then
          s.addNamed anchor (scalarTag tag true "") (.scalar "")
        else throw s.stuck

/-- The node here, or an empty one where one of the tokens `ends` comes next. -/
def readPart (fuel : Nat) (block indentless : Bool) (ends : List Token) (s : Source) :
    Except Fault (Nat × Source) :=
  match fuel with
  | 0 => .error .malformed
  | fuel + 1 => if s.isAt ends then .ok s.addEmpty else readNode fuel block indentless s

/-- The value behind a key: an empty node where there is none. -/
def readValue (fuel : Nat) (block : Bool) (ends : List Token) (s : Source) :
    Except Fault (Nat × Source) :=
  match fuel with
  | 0 => .error .malformed
  | fuel + 1 =>
    if s.isAt [.value] then readPart fuel block block ends s.drop else .ok s.addEmpty

/-- The items of a block sequence; one that is `indented` has an end of its own. -/
def readItems (fuel : Nat) (indented : Bool) (s : Source) : Except Fault (List Nat × Source) :=
  match fuel with
  | 0 => .error .malformed
  | fuel + 1 =>
    match s.next? with
    | some .blockEntry => do
      let ends : List Token :=
        if indented then [.blockEntry, .blockEnd] else [.blockEntry, .key, .value, .blockEnd]
      let (item, s) ← readPart fuel true false ends s.drop
      let (items, s) ← readItems fuel indented s
      return (item :: items, s)
    | some .blockEnd => .ok ([], if indented then s.drop else s)
    | some _ => if indented then .error .malformed else .ok ([], s)
    | none => .error s.stuck

/-- The entries of a block mapping. -/
def readEntries (fuel : Nat) (s : Source) : Except Fault (List (Nat × Nat) × Source) :=
  match fuel with
  | 0 => .error .malformed
  | fuel + 1 => do
    match s.next? with
    | some .key =>
      let (key, s) ← readPart fuel true true [.key, .value, .blockEnd] s.drop
      let (value, s) ← readValue fuel true [.key, .value, .blockEnd] s
      let (entries, s) ← readEntries fuel s
      return ((key, value) :: entries, s)
    | some .blockEnd => return ([], s.drop)
    | _ => throw s.stuck

/-- The items of a flow sequence; a key among them makes a mapping of one entry. -/
def readFlowItems (fuel : Nat) (first : Bool) (s : Source) : Except Fault (List Nat × Source) :=
  match fuel with
  | 0 => .error .malformed
  | fuel + 1 => do
    if s.next? == some .flowSequenceEnd then return ([], s.drop)
    if !first && s.next? != some .flowEntry then throw s.stuck
    let s := if first then s else s.drop
    match s.next? with
    | some .flowSequenceEnd => return ([], s.drop)
    | some .key =>
      let (n, s) := s.drop.add .map (.mapping [])
      let (key, s) ← readPart fuel false false [.value, .flowEntry, .flowSequenceEnd] s
      let (value, s) ← readValue fuel false [.flowEntry, .flowSequenceEnd] s
      let (items, s) ← readFlowItems fuel false (s.fill n (.mapping [(key, value)]))
      return (n :: items, s)
    | _ =>
      let (item, s) ← readNode fuel false false s
      let (items, s) ← readFlowItems fuel false s
      return (item :: items, s)

/-- The entries of a flow mapping; an item that is no key has no value. -/
def readFlowEntries (fuel : Nat) (first : Bool) (s : Source) :
    Except Fault (List (Nat × Nat) × Source) :=
  match fuel with
  | 0 => .error .malformed
  | fuel + 1 => do
    if s.next? == some .flowMappingEnd then return ([], s.drop)
    if !first && s.next? != some .flowEntry then throw s.stuck
    let s := if first then s else s.drop
    match s.next? with
    | some .flowMappingEnd => return ([], s.drop)
    | some .key =>
      let (key, s) ← readPart fuel false false [.value, .flowEntry, .flowMappingEnd] s.drop
      let (value, s) ← readValue fuel false [.flowEntry, .flowMappingEnd] s
      let (entries, s) ← readFlowEntries fuel false s
      return ((key, value) :: entries, s)
    | _ =>
      let (key, s) ← readNode fuel false false s
      let (value, s) := s.addEmpty
      let (entries, s) ← readFlowEntries fuel false s
      return ((key, value) :: entries, s)

end

/-- The directives in front of a document: at most one version, of major number one, and each tag
handle once. -/
def readDirectives (versioned : Bool) (given : List (String × String)) :
    List Token → Except Fault (List (String × String) × List Token)
  | .directive (.version major _) :: rest =>
    if versioned || major ≠ 1 then .error .malformed else readDirectives true given rest
  | .directive (.tagHandle handle expansion) :: rest =>
    if given.any (·.1 == handle) then .error .malformed
    else readDirectives versioned ((handle, expansion) :: given) rest
  | .directive .other :: rest => readDirectives versioned given rest
  | tokens => .ok (given, tokens)

/-- Nothing but ends of documents may follow the document. -/
def readEnd (s : Source) : Except Fault Unit :=
  match s.tokens.dropWhile (· == .documentEnd) with
  | .streamEnd :: _ => .ok ()
  | tokens =>
    match readDirectives false [] tokens with
    | .ok (_, rest) => .error { s with tokens := rest }.stuck
    | .error fault => .error fault

/-- Whether a token stands between documents. -/
def standsBetween : Token → Bool
  | .directive _ | .documentStart | .streamEnd => true
  | _ => false

/-- The root of the document of the tokens; nothing when there are no more than ends of documents.
-/
def readDocument (s : Source) : Except Fault (Option (Nat × Graph)) := do
  -- A token takes part in a bounded number of nested readings.
  let fuel := 8 * s.tokens.length + 8
  if s.tokens.isEmpty then throw s.stuck
  if !s.next?.any standsBetween then
    let (root, s) ← readNode fuel true false s
    readEnd s
    return some (root, s.nodes)
  if s.next? == some .streamEnd then return none
  let (given, tokens) ← readDirectives false [] s.tokens
  let s := { s with tokens, handles := given ++ s.handles }
  if s.next? != some .documentStart then throw s.stuck
  let s := s.drop
  let isEmpty := s.next?.any fun t => standsBetween t || t == .documentEnd
  let (root, s) ← if isEmpty then pure s.addEmpty else readNode fuel true false s
  readEnd s
  return some (root, s.nodes)

/-- The root and the nodes of the single document of a text, if it has a document. -/
def Graph.ofText? (text : String) : Except Fault (Option (Nat × Graph)) :=
  let (tokens, fault) := tokenize text
  readDocument { tokens, fault }

end ClientGen.Yaml
