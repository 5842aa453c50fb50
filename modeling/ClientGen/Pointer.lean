import ClientGen.Decimal.Numeral
import ClientGen.Text.Lines
import ClientGen.Text.Search
import ClientGen.Url.Percent
import ClientGen.Value.Inspect

/-!
# Pointers into values

A pointer is empty or a sequence of segments, each after a slash.  A segment is decoded (percent
escapes first, then `~1` for a slash and `~0` for a tilde) and names a key of an object or the
position of a list.  `follow` looks a pointer up and `encode` writes one.
-/

namespace ClientGen.Pointer

/-- A step into a value. -/
inductive Step where
  | key (name : String)
  | position (i : Nat)
  deriving Repr, DecidableEq

/-- Why a pointer selects nothing. -/
inductive Fault where
  | noSlash (pointer : String)
  | noKey (segment : String)
  | noPosition (segment : String)
  | noParts (typeName : String)
  deriving Repr, DecidableEq

/-- The wording of a fault. -/
def Fault.message : Fault → String
  | noSlash pointer => "JSON pointer must start with '/': " ++ Text.quoted pointer
  | noKey segment => "key '" ++ segment ++ "' not found"
  | noPosition segment => "invalid array index '" ++ segment ++ "'"
  | noParts typeName => "cannot navigate into " ++ typeName

/-- The name that a segment stands for. -/
def decodeSegment (segment : String) : String :=
  Text.replace "~0" "~" (Text.replace "~1" "/" (Url.Percent.decode segment))

/-- The item of a list at a position; negative positions count from its end. -/
def itemAt? (items : List Value) (i : Int) : Option Value :=
  if 0 ≤ i then items[i.toNat]?
  else if -i ≤ items.length then items[(items.length - i.natAbs)]?
  else none

/-- Takes the step of a decoded segment. -/
def enter (segment : String) : Value → Except Fault Value
  | .object fields =>
    match Entries.get? segment fields with
    | some value => .ok value
    | none => .error (.noKey segment)
  | .list items =>
    match (Numeral.integer? segment).bind (itemAt? items) with
    | some value => .ok value
    | none => .error (.noPosition segment)
  | value => .error (.noParts value.typeName)

/-- Takes the steps of decoded segments. -/
def walk (root : Value) : List String → Except Fault Value
  | [] => .ok root
  | segment :: rest =>
    match enter segment root with
    | .ok value => walk value rest
    | .error fault => .error fault

/-- The decoded segments of a pointer. -/
def segments (pointer : String) : Except Fault (List String) :=
  match pointer.toList with
  | [] => .ok []
  | '/' :: rest =>
    .ok ((Text.splitChars '/' rest).map fun segment => decodeSegment (String.ofList segment))
  | _ => .error (.noSlash pointer)

/-- The value that a pointer selects. -/
def follow (root : Value) (pointer : String) : Except Fault Value :=
  match segments pointer with
  | .ok parts => walk root parts
  | .error fault => .error fault

/-! ### Writing pointers -/

/-- A segment for a key: `~` is written `~0`, `/` is written `~1` and `%` is written `%25`. -/
def encodeChar (c : Char) : List Char :=
  if c = '~' then ['~', '0'] else if c = '/' then ['~', '1'] else if c = '%' then ['%', '2', '5']
  else [c]

/-- The segment of a step. -/
def Step.segment : Step → List Char
  | key name => name.toList.flatMap encodeChar
  | position i => (toString i).toList

/-- The pointer of some steps. -/
def encode (steps : List Step) : String :=
  String.ofList (steps.flatMap fun step => '/' :: step.segment)

/-- The part of a value to which a step leads. -/
def Step.into? : Step → Value → Option Value
  | key name, .object fields => Entries.get? name fields
  | position i, .list items => items[i]?
  | _, _ => none

/-- The part of a value to which steps lead. -/
def select? (root : Value) : List Step → Option Value
  | [] => some root
  | step :: rest => (step.into? root).bind fun value => select? value rest

end ClientGen.Pointer
