import ClientGen.FilePath
import ClientGen.Files.Access
import ClientGen.Text.Quoted

/-!
# Files in memory

A `FileTree` has the files and directories below the root, each under the names that lead to it, and
a working directory.  Paths are followed name by name: two points lead back out of a directory, and
what is no directory leads nowhere.  `FileTree.access` gives the calls on the files of a tree as
actions that carry the tree along.
-/

namespace ClientGen

/-- What stands in a directory. -/
inductive FileEntry where
  | file (octets : List UInt8)
  | directory
  deriving DecidableEq, Inhabited

/-- Files and directories under the names that lead to them from the root, in the order in which
they were made.  The working directory is a directory below the root, whose name at the start of a
path stands for it. -/
structure FileTree where
  home : String
  entries : List (List String × FileEntry)

/-- Why the system refuses a call. -/
inductive Refusal where
  | notFound
  | notDirectory
  | isDirectory
  | alreadyThere
  | nameTooLong
  deriving Repr, DecidableEq

namespace Refusal

/-- The number of a reason. -/
def number : Refusal → Nat
  | notFound => 2
  | alreadyThere => 17
  | notDirectory => 20
  | isDirectory => 21
  | nameTooLong => 36

/-- The wording of a reason. -/
def text : Refusal → String
  | notFound => "No such file or directory"
  | alreadyThere => "File exists"
  | notDirectory => "Not a directory"
  | isDirectory => "Is a directory"
  | nameTooLong => "File name too long"

/-- The fault that the refusal of a path is. -/
def fault (refusal : Refusal) (path : String) : FileFault :=
  .refused ("[Errno " ++ toString refusal.number ++ "] " ++ refusal.text ++ ": " ++
    Text.quoted path)

end Refusal

namespace FileTree

/-- A tree with an empty working directory of the given name. -/
def empty (home : String) : FileTree := ⟨home, []⟩

/-- The most octets that a name has. -/
def maxName : Nat := 255

/-- The most octets that a path has. -/
def maxPath : Nat := 4095

/-- What stands at a place. -/
def entry? (tree : FileTree) (place : List String) : Option FileEntry :=
  if place = [] ∨ place = [tree.home] then some .directory
  else (tree.entries.find? fun entry => entry.1 == place).map (·.2)

/-- Puts something at a place, in the stead of what stands there. -/
def put (tree : FileTree) (place : List String) (entry : FileEntry) : FileTree :=
  if tree.entries.any fun old => old.1 == place then
    { tree with entries := tree.entries.map fun old =>
        if old.1 == place then (place, entry) else old }
  else { tree with entries := tree.entries ++ [(place, entry)] }

/-- Takes away what stands at a place and below it. -/
def remove (tree : FileTree) (place : List String) : FileTree :=
  { tree with entries := tree.entries.filter fun old => !place.isPrefixOf old.1 }

/-- Where the following of a path starts, and the names to follow. -/
def start (tree : FileTree) (path : String) : List String × List String :=
  let parts := FilePath.parts path
  if FilePath.isAbsolute path || parts.head? = some tree.home then ([], parts)
  else ([tree.home], parts)

/-- The place that a name leads to from a place. -/
def step (tree : FileTree) (place : List String) (name : String) :
    Except Refusal (List String) :=
  match tree.entry? place with
  | some .directory =>
    -- The root is its own parent.
    if name = ".." then .ok place.dropLast
    else if maxName < name.utf8ByteSize then .error .nameTooLong
    else .ok (place ++ [name])
  | some (.file _) => .error .notDirectory
  | none => .error .notFound

/-- Follows names from a place; the last one need not lead to anything. -/
def follow (tree : FileTree) : List String → List String → Except Refusal (List String)
  | place, [] => .ok place
  | place, name :: rest =>
    match tree.step place name with
    | .ok next => follow tree next rest
    | .error refusal => .error refusal

/-- The place that a path leads to; there may be nothing. -/
def locate (tree : FileTree) (path : String) : Except Refusal (List String) :=
  if maxPath < path.utf8ByteSize then .error .nameTooLong
  else
    let (place, names) := tree.start path
    tree.follow place names

/-- What stands at the end of a path. -/
def look (tree : FileTree) (path : String) : Except Refusal FileEntry :=
  match tree.locate path with
  | .ok place =>
    match tree.entry? place with
    | some entry => .ok entry
    | none => .error .notFound
  | .error refusal => .error refusal

/-- Whether a path may be given to the system at all. -/
def isPassable (path : String) : Bool :=
  !path.toList.contains '\x00'

/-- The fault of a path that may not be given to the system. -/
def nullFault : FileFault :=
  .other ⟨.value, "embedded null byte"⟩

/-- Whether what stands at the end of a path passes a test; nothing does not. -/
def test (tree : FileTree) (accepts : FileEntry → Bool) (path : String) : Except FileFault Bool :=
  let path := FilePath.normal path
  if !isPassable path then .ok false
  else match tree.look path with
    | .ok entry => .ok (accepts entry)
    | .error .nameTooLong => .error (Refusal.nameTooLong.fault path)
    | .error _ => .ok false

/-- Whether an entry is a directory. -/
def isDirectoryEntry : FileEntry → Bool
  | .directory => true
  | .file _ => false

/-- The text of the file at the end of a path. -/
def readText (tree : FileTree) (path : String) : Except FileFault String :=
  let path := FilePath.normal path
  if !isPassable path then .error nullFault
  else match tree.look path with
    | .ok (.file octets) => FileAccess.textOf octets
    | .ok .directory => .error (Refusal.isDirectory.fault path)
    | .error refusal => .error (refusal.fault path)

/-- The place at which a file may be written: there is a directory for it, and no directory is
there. -/
def writablePlace (tree : FileTree) (path : String) : Except Refusal (List String) :=
  match tree.locate path with
  | .error refusal => .error refusal
  | .ok place =>
    match tree.entry? place with
    | some .directory => .error .isDirectory
    | _ => .ok place

/-- Writes the text of a file at the end of a path. -/
def writeText (tree : FileTree) (path text : String) : Except FileFault Unit × FileTree :=
  let path := FilePath.normal path
  if !isPassable path then (.error nullFault, tree)
  else match tree.writablePlace path with
    | .ok place => (.ok (), tree.put place (.file text.toUTF8.toList))
    | .error refusal => (.error (refusal.fault path), tree)

/-- Makes the directory at the end of a path alone. -/
def makeOne (tree : FileTree) (path : String) : Except Refusal FileTree :=
  match tree.locate path with
  | .error refusal => .error refusal
  | .ok place =>
    match tree.entry? place with
    | some .directory => .ok tree
    | some (.file _) => .error .alreadyThere
    | none => .ok (tree.put place .directory)

/-- The path without its last name. -/
def parent (path : String) : String :=
  FilePath.normal (FilePath.root path ++ Text.join "/" (FilePath.parts path).dropLast)

/-- Makes the directory at the end of a path and those that it stands in; `depth` is how many names
the path has. -/
def makeWithin : Nat → FileTree → String → Except FileFault Unit × FileTree
  | 0, tree, path =>
    match tree.makeOne path with
    | .ok tree => (.ok (), tree)
    | .error refusal => (.error (refusal.fault path), tree)
  | depth + 1, tree, path =>
    match tree.makeOne path with
    | .ok tree => (.ok (), tree)
    | .error .notFound =>
      match makeWithin depth tree (parent path) with
      | (.ok (), tree) =>
        match tree.makeOne path with
        | .ok tree => (.ok (), tree)
        | .error refusal => (.error (refusal.fault path), tree)
      | (.error fault, tree) => (.error fault, tree)
    | .error refusal => (.error (refusal.fault path), tree)

/-- Makes the directory at the end of a path and those that it stands in, unless they are there. -/
def makeDirectory (tree : FileTree) (path : String) : Except FileFault Unit × FileTree :=
  let path := FilePath.normal path
  if !isPassable path then (.error nullFault, tree)
  else makeWithin (FilePath.parts path).length tree path

/-- The calls on the files of a tree. -/
def access : FileAccess (StateM FileTree) where
  isPresent path := return (← get).test (fun _ => true) path
  isDirectory path := return (← get).test isDirectoryEntry path
  isFile path := return (← get).test (fun entry => !isDirectoryEntry entry) path
  readText path := return (← get).readText path
  writeText path text := modifyGet fun tree => tree.writeText path text
  makeDirectory path := modifyGet fun tree => tree.makeDirectory path

end FileTree

end ClientGen
