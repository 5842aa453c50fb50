import ClientGen.Document
import ClientGen.Files.Access

/-!
# Reading documents

A document is read from the file at a path, which has to be there.
-/

namespace ClientGen.Document

variable {m : Type → Type} [Monad m]

/-- The document of what reading a file gives. -/
def ofReading (path : String) : Except FileFault String → Except Problem Document
  | .ok text => parse path text
  | .error (.notUtf8 place) => .error (.failure ((ReadFault.notUtf8 place).failure path))
  | .error (.refused message) =>
    .error (.failure ((ReadFault.unreadable path message).failure path))
  | .error (.other u) => .error (.unexpected u)

/-- Reads the document at a path. -/
def read (files : FileAccess m) (path : String) : m (Except Problem Document) := do
  match ← files.isPresent path with
  | .error fault => return .error (.unexpected fault.unexpected)
  | .ok false => return .error (.failure ((ReadFault.missing path).failure path))
  | .ok true =>
    match Format.ofPath path with
    | .error fault => return .error (.failure (fault.failure path))
    | .ok _ => return ofReading path (← files.readText path)

/-- Reads the document at a path, which has to be an object at the top. -/
def readObject (files : FileAccess m) (path : String) : m (Except Problem Document) := do
  return (← read files path) >>= requireObject

end ClientGen.Document
