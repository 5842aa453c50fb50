import ClientGen.Yaml.Object

/-!
# The values of YAML texts

The objects of a document become one value.  As a document, it has texts as keys inside objects and
lists, and a collection that contains itself is a fault .  As settings, it has its keys as they are,
and a collection that is met inside itself is left empty there. Main definition: `load`.
-/

namespace ClientGen.Yaml

/-- How objects become a value. -/
inductive Use where
  | document
  | settings
  deriving Repr, DecidableEq

/-- The mapping with the given entries: an object when every key is a text. -/
def mappingValue (entries : List (Value × Value)) : Value :=
  match entries.mapM fun (key, value) => key.str?.map (·, value) with
  | some fields => .object fields
  | none => .mapping entries

/-- The text of a key. -/
def keyText (key : Value) : Except Fault String :=
  match key with
  | .int n => if Numeral.isLong n then .error .longKey else .ok key.plain
  | key => .ok key.plain

namespace Store

/-- The value of a scalar object. -/
def leafValue (s : Store) (n : Nat) : Value :=
  match s.object? n with
  | some (.leaf value _) => value
  | _ => .null

/-- The value of the object of a node inside the collections `outer`.  Keys become texts where
`textKeys`; inside pairs they stay as they are. -/
def value (s : Store) (use : Use) (fuel : Nat) (textKeys : Bool) (outer : List Nat) (n : Nat) :
    Except Fault Value :=
  match fuel, s.object? n with
  | _, some (.leaf value _) => .ok value
  | _, some (.set keys) => .ok (.set (keys.map s.leafValue))
  | 0, _ | _, none => .ok .null
  | fuel + 1, some object => do
    let isInside := outer.contains n
    if isInside && use = .document then throw .recursion
    let part := s.value use fuel textKeys (n :: outer)
    match object with
    | .list items => return .list (← (if isInside then [] else items).mapM part)
    | .pairs entries =>
      let plain := s.value use fuel false (n :: outer)
      return .list (← (if isInside then [] else entries).mapM fun (key, item) => do
        return .tuple [← plain key, ← plain item])
    | .table entries =>
      let entries := if isInside then [] else entries
      if textKeys then
        return .object (Entries.ofList (← entries.mapM fun (key, item) => do
          let name ← keyText (s.leafValue key)
          return (name, ← part item)))
      else
        return mappingValue (← entries.mapM fun (key, item) => do
          return (s.leafValue key, ← part item))
    | .leaf value _ => return value
    | .set keys => return .set (keys.map s.leafValue)

end Store

/-- The value of the single document of a text for a use; null when there is no document. -/
def load (use : Use) (text : String) : Except Fault Value := do
  match ← Graph.ofText? text with
  | none => return .null
  | some (root, g) =>
    let s ← Store.ofGraph g root
    s.value use (g.size + 2) (use = .document) [] root

end ClientGen.Yaml
