import ClientGen.Json.Writer
import ClientGen.Text.Utf8

/-!
# Values that JSON can say

What JSON has no form for is given one: dates and moments become texts in the standard form, with
the letter Z for universal time, octets become the text that they encode, and collections become
lists or objects.  Octets that encode no text have no form.  Where numbers have to be finite, others
become null.
-/

namespace ClientGen.Json

/-- A moment in the standard form. -/
def momentText (m : Moment) : String :=
  if m.offset = some 0 then { m with offset := none }.text "T" ++ "Z" else m.text "T"

/-- The fault of octets that encode no text: the first octet that belongs to no character. -/
structure OctetFault where
  octet : UInt8
  position : Nat
  deriving Repr, DecidableEq

/-- The wording of a fault. -/
def OctetFault.message (fault : OctetFault) : String :=
  "'utf-8' codec can't decode byte 0x" ++ String.ofList (Text.hex 2 fault.octet.toNat) ++
    " in position " ++ toString fault.position ++ ": invalid utf-8"

mutual

/-- A value that JSON can say. -/
def standard : Value → Except OctetFault Value
  | .date d => .ok (.str d.text)
  | .moment m => .ok (.str (momentText m))
  | .octets bytes =>
    match Text.Utf8.decode bytes with
    | .ok text => .ok (.str text)
    | .error place => .error ⟨place.octet, place.start⟩
  | .set members => Value.list <$> standardItems members
  | .tuple items => Value.list <$> standardItems items
  | .list items => Value.list <$> standardItems items
  | .object fields => Value.object <$> standardFields fields
  | .mapping entries => Value.object <$> standardEntries entries
  | value => .ok value

/-- Values that JSON can say. -/
def standardItems : List Value → Except OctetFault (List Value)
  | [] => .ok []
  | item :: rest => return (← standard item) :: (← standardItems rest)

/-- Fields with values that JSON can say. -/
def standardFields : List (String × Value) → Except OctetFault (List (String × Value))
  | [] => .ok []
  | (name, value) :: rest => return (name, ← standard value) :: (← standardFields rest)

/-- Entries with values that JSON can say, under texts. -/
def standardEntries : List (Value × Value) → Except OctetFault (List (String × Value))
  | [] => .ok []
  | (key, value) :: rest => return (keyText key, ← standard value) :: (← standardEntries rest)

end

mutual

/-- A value with null in place of its numbers that are not finite. -/
def finite : Value → Value
  | .float x => if x.isNaN || x.isInf then .null else .float x
  | .set members => .set (finiteItems members)
  | .tuple items => .tuple (finiteItems items)
  | .list items => .list (finiteItems items)
  | .object fields => .object (finiteFields fields)
  | .mapping entries => .mapping (finiteEntries entries)
  | value => value

/-- Values with null in place of numbers that are not finite. -/
def finiteItems : List Value → List Value
  | [] => []
  | item :: rest => finite item :: finiteItems rest

/-- Fields with null in place of numbers that are not finite. -/
def finiteFields : List (String × Value) → List (String × Value)
  | [] => []
  | (name, value) :: rest => (name, finite value) :: finiteFields rest

/-- Entries with null in place of numbers that are not finite. -/
def finiteEntries : List (Value × Value) → List (Value × Value)
  | [] => []
  | (key, value) :: rest => (key, finite value) :: finiteEntries rest

end

end ClientGen.Json
