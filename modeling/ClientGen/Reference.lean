import ClientGen.Text.Search
import ClientGen.Value

/-!
# References

An object with a text under `$ref` is a reference.  `references` lists the references of a value in
document order, each once, and `isInternal` tells those that point into the document itself from the
others.
-/

namespace ClientGen.Reference

/-- The key of a reference. -/
def key : String := "$ref"

/-- The reference that an object with the fields is. -/
def ofFields? (fields : List (String × Value)) : Option String :=
  (Entries.get? key fields).bind Value.str?

/-- The reference that a value is. -/
def of? : Value → Option String
  | .object fields => ofFields? fields
  | _ => none

/-- Whether a reference points into the document itself. -/
def isInternal (ref : String) : Bool :=
  Text.startsWith "#/" ref

/-- Adds a text at the end unless it is there. -/
def addOnce (text : String) (texts : List String) : List String :=
  if texts.contains text then texts else texts ++ [text]

mutual

/-- The references of a value in document order. -/
def occurrences : Value → List String
  | .object fields => (ofFields? fields).toList ++ fieldOccurrences fields
  | .list items => itemOccurrences items
  | _ => []

/-- The references of the fields of an object. -/
def fieldOccurrences : List (String × Value) → List String
  | [] => []
  | (_, value) :: rest => occurrences value ++ fieldOccurrences rest

/-- The references of the items of a list. -/
def itemOccurrences : List Value → List String
  | [] => []
  | item :: rest => occurrences item ++ itemOccurrences rest

end

/-- The references of a value in document order, each once. -/
def references (value : Value) : List String :=
  (occurrences value).foldl (fun found ref => addOnce ref found) []

/-- References by whether they point into the document itself. -/
structure Classified where
  internal : List String
  external : List String
  deriving Repr, DecidableEq

/-- Splits references by whether they point into the document itself. -/
def classify (refs : List String) : Classified :=
  ⟨refs.filter isInternal, refs.filter fun ref => !isInternal ref⟩

end ClientGen.Reference
