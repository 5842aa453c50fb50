import ClientGen.Failure
import ClientGen.Text.Utf8

/-!
# Access to files

What a run asks of the place where its files are: whether there is something at a path, the text of
a file, and to write texts and make directories.  Every call may fail.  A `FileAccess m` gives these
calls as actions of `m`, so that a run works on files in memory as it does on those of a machine.
-/

namespace ClientGen

/-- Why a call on files fails. -/
inductive FileFault where
  /-- The system refuses. -/
  | refused (message : String)
  /-- The octets of a file are no text. -/
  | notUtf8 (place : Text.Utf8.Located)
  | other (u : Unexpected)

namespace FileFault

/-- The wording of a fault. -/
def message : FileFault → String
  | refused message => message
  | notUtf8 place => place.message
  | other u => u.message

/-- The nature of a fault. -/
def nature : FileFault → FaultNature
  | refused _ => .system
  | notUtf8 _ => .encoding
  | other u => u.nature

/-- A fault that no stage reports. -/
def unexpected (fault : FileFault) : Unexpected :=
  ⟨fault.nature, fault.message⟩

end FileFault

/-- The calls on files. -/
structure FileAccess (m : Type → Type) where
  /-- Whether there is a file or directory at a path. -/
  isPresent : String → m (Except FileFault Bool)
  isDirectory : String → m (Except FileFault Bool)
  isFile : String → m (Except FileFault Bool)
  readText : String → m (Except FileFault String)
  writeText : String → String → m (Except FileFault Unit)
  /-- Makes a directory and those that it stands in, unless they are there. -/
  makeDirectory : String → m (Except FileFault Unit)

namespace FileAccess

/-- The characters of a text with a line feed for every end of a line that a carriage return
starts. -/
def unifyLineEnds : List Char → List Char
  | '\r' :: '\n' :: rest => '\n' :: unifyLineEnds rest
  | c :: rest => (if c = '\r' then '\n' else c) :: unifyLineEnds rest
  | [] => []

/-- The text of the octets of a file. -/
def textOf (octets : List UInt8) : Except FileFault String :=
  match Text.Utf8.decode octets with
  | .ok text => .ok (String.ofList (unifyLineEnds text.toList))
  | .error place => .error (.notUtf8 place)

end FileAccess

end ClientGen
