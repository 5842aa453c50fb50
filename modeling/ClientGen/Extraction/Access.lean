import ClientGen.Decimal.Numeral
import ClientGen.Failure
import ClientGen.Shape

/-!
# Access to the parts of values

What is read from a document may have any type.  The functions here read fields, entries and items
of a value where it has them, and otherwise say what is wrong.
-/

namespace ClientGen.Extraction

/-- Why an API cannot be extracted. -/
inductive Fault where
  | noField (name : String)
  | noIndex (value : Value)
  | notIterable (value : Value)
  | noMethod (value : Value) (method : String)
  | noPair (position : Nat)
  | pairLength (position length : Nat)
  | notHashable (value : Value)
  | invalid (title : String) (faults : List Shape.Fault)
  | place (value : Value)
  | statusCode (text : String) (fault : Numeral.Fault)
  | malformed (message : String)

/-- The name of the class of a value in messages about what it cannot do. -/
def className : Value → String
  | .date _ => "datetime.date"
  | .moment _ => "datetime.datetime"
  | value => value.typeName

namespace Fault

/-- The wording of a value that is read as an object although it is none. -/
def indexMessage : Value → String
  | .str _ => "string indices must be integers, not 'str'"
  | .list _ => "list indices must be integers or slices, not str"
  | .tuple _ => "tuple indices must be integers or slices, not str"
  | .octets _ => "byte indices must be integers or slices, not str"
  | value => "'" ++ className value ++ "' object is not subscriptable"

/-- The wording of a fault. -/
def message : Fault → String
  | noField name => Text.quoted name
  | noIndex value => indexMessage value
  | notIterable value => "'" ++ className value ++ "' object is not iterable"
  | noMethod value method =>
    "'" ++ className value ++ "' object has no attribute '" ++ method ++ "'"
  | noPair position =>
    "cannot convert dictionary update sequence element #" ++ toString position ++ " to a sequence"
  | pairLength position length =>
    "dictionary update sequence element #" ++ toString position ++ " has length " ++
      toString length ++ "; 2 is required"
  | notHashable value => "unhashable type: '" ++ className value ++ "'"
  | invalid title faults => Shape.report title faults
  | place value => value.inspect ++ " is not a valid ParameterLocation"
  | statusCode text fault => fault.message 10 text
  | malformed message => message

/-- The nature of a fault. -/
def nature : Fault → FaultNature
  | noField _ => .key
  | noIndex _ | notIterable _ | noPair _ | notHashable _ => .type
  | noMethod _ _ => .attribute
  | invalid _ _ => .input
  | pairLength _ _ | place _ | statusCode _ _ | malformed _ => .value

/-- A fault that no stage reports. -/
def unexpected (fault : Fault) : Unexpected :=
  ⟨fault.nature, fault.message⟩

/-- The failure of extraction that a fault is. -/
def failure (file : String) : Fault → Failure
  | malformed message => { kind := .malformedOperation, message, file }
  | fault =>
    { kind := .extractionFailed
      message := "Failed to extract API data: " ++ fault.message
      file }

end Fault

/-- The field of an object, which has to be there. -/
def field (name : String) : Value → Except Fault Value
  | .object fields =>
    match Entries.get? name fields with
    | some value => .ok value
    | none => .error (.noField name)
  | .mapping entries =>
    match entries.find? fun entry => entry.1.sameKey (.str name) with
    | some (_, value) => .ok value
    | none => .error (.noField name)
  | value => .error (.noIndex value)

/-- The field of an object, or null. -/
def fieldOrNull (name : String) (value : Value) : Value :=
  (value.field? name).getD .null

/-- The field of a value that has to be an object, or null. -/
def getField (name : String) (value : Value) : Except Fault Value :=
  if value.isObject then .ok (fieldOrNull name value) else .error (.noMethod value "get")

/-- Whether an object has the field. -/
def hasField (name : String) (value : Value) : Bool :=
  (value.field? name).isSome

/-- The entries of an object. -/
def entries (method : String) : Value → Except Fault (List (Value × Value))
  | .object fields => .ok (fields.map fun field => (.str field.1, field.2))
  | .mapping entries => .ok entries
  | value => .error (.noMethod value method)

/-- The entries of an object; null and other values that count as absent have none. -/
def entriesOrNone (method : String) (value : Value) : Except Fault (List (Value × Value)) :=
  if value.isTruthy then entries method value else .ok []

/-- What a value consists of when one goes through it: items, keys, or characters. -/
def items : Value → Except Fault (List Value)
  | .list items => .ok items
  | .tuple items => .ok items
  | .set members => .ok members
  | .str s => .ok (s.toList.map fun c => .str (String.singleton c))
  | .object fields => .ok (fields.map fun field => .str field.1)
  | .mapping entries => .ok (entries.map (·.1))
  | .octets bytes => .ok (bytes.map fun b => .int b.toNat)
  | value => .error (.notIterable value)

/-- What a value consists of; null and other values that count as absent have nothing. -/
def itemsOrNone (value : Value) : Except Fault (List Value) :=
  if value.isTruthy then items value else .ok []

/-- Whether a value may be a key. -/
def isHashable : Value → Bool
  | .list _ | .object _ | .mapping _ | .set _ => false
  | .tuple items => items.all fun item =>
      match item with
      | .list _ | .object _ | .mapping _ | .set _ => false
      | _ => true
  | _ => true

/-- Stores a value under a key of any type: in place when the key is there, else at the end. -/
def putKey (key value : Value) : List (Value × Value) → List (Value × Value)
  | [] => [(key, value)]
  | entry :: rest =>
    if entry.1.sameKey key then (entry.1, value) :: rest else entry :: putKey key value rest

/-- Adds pairs to entries; the first one has the given position. -/
def addPairs (position : Nat) (entries : List (Value × Value)) :
    List Value → Except Fault (List (Value × Value))
  | [] => .ok entries
  | pair :: rest =>
    match items pair with
    | .error _ => .error (.noPair position)
    | .ok [key, value] =>
      if isHashable key then addPairs (position + 1) (putKey key value entries) rest
      else .error (.notHashable key)
    | .ok parts => .error (.pairLength position parts.length)

/-- Adds the entries of an object, or pairs, to entries. -/
def addEntries (entries : List (Value × Value)) : Value → Except Fault (List (Value × Value))
  | .object fields =>
    .ok (fields.foldl (fun all field => putKey (.str field.1) field.2 all) entries)
  | .mapping more => .ok (more.foldl (fun all entry => putKey entry.1 entry.2 all) entries)
  | value =>
    match items value with
    | .ok pairs => addPairs 0 entries pairs
    | .error fault => .error fault

end ClientGen.Extraction
