import ClientGen.Calendar

/-!
# Document values

The values that documents are made of: what JSON can say, and the further scalars and collections of
YAML (dates, moments, octets, sets and pairs).  Objects keep their fields in order with distinct
names; `mapping` holds collections some of whose keys are not texts, which only occur in
configuration files and inside pairs.  `Entries` has the operations on ordered fields.  Main
statements: reading a field after writing it (`Entries.get?_put_self`, `Entries.get?_put_of_ne`).
-/

namespace ClientGen

/-- A document value. -/
inductive Value where
  | null
  | bool (b : Bool)
  | int (n : Int)
  | float (x : Float)
  | str (s : String)
  | list (items : List Value)
  | object (fields : List (String × Value))
  | date (d : Date)
  | moment (m : Moment)
  | octets (bytes : List UInt8)
  | set (members : List Value)
  | tuple (items : List Value)
  | mapping (entries : List (Value × Value))
  deriving Inhabited

namespace Entries

variable {α : Type}

/-- The value stored under a name. -/
def get? (name : String) : List (String × α) → Option α
  | [] => none
  | (key, value) :: rest => if key = name then some value else get? name rest

/-- Stores a value under a name: in place when the name is present, else at the end. -/
def put (name : String) (value : α) : List (String × α) → List (String × α)
  | [] => [(name, value)]
  | (key, old) :: rest =>
    if key = name then (key, value) :: rest else (key, old) :: put name value rest

/-- Fields laid on top of others: each replaces the one of its name, or comes at the end. -/
def overlay (above below : List (String × α)) : List (String × α) :=
  above.foldl (fun entries field => put field.1 field.2 entries) below

/-- The fields given by a list of pairs; a repeated name keeps its first place and its last
value. -/
def ofList (pairs : List (String × α)) : List (String × α) :=
  overlay pairs []

/-- The names in order. -/
def keys (entries : List (String × α)) : List String :=
  entries.map (·.1)

@[simp] theorem get?_nil (name : String) : get? name ([] : List (String × α)) = none := rfl

theorem get?_put_self (name : String) (value : α) (entries : List (String × α)) :
    get? name (put name value entries) = some value := by
  induction entries with
  | nil => simp [put, get?]
  | cons entry rest ih =>
    obtain ⟨key, old⟩ := entry
    by_cases h : key = name <;> simp [put, get?, h, ih]

theorem get?_put_of_ne {name other : String} (h : other ≠ name) (value : α)
    (entries : List (String × α)) : get? other (put name value entries) = get? other entries := by
  induction entries with
  | nil => simp [put, get?, Ne.symm h]
  | cons entry rest ih =>
    obtain ⟨key, old⟩ := entry
    by_cases hk : key = name
    · subst hk
      simp [put, get?, Ne.symm h]
    · by_cases ho : key = other
      · subst ho
        simp [put, get?, hk]
      · simp [put, get?, hk, ho, ih]

/-- A value that is found is stored under its name. -/
theorem mem_of_get? {name : String} {value : α} {entries : List (String × α)}
    (h : get? name entries = some value) : (name, value) ∈ entries := by
  induction entries with
  | nil => simp at h
  | cons entry rest ih =>
    obtain ⟨key, old⟩ := entry
    by_cases hk : key = name
    · simp only [get?, hk, if_true, Option.some.injEq] at h
      simp [hk, h]
    · simp only [get?, hk, if_false] at h
      exact List.mem_cons_of_mem _ (ih h)

end Entries

namespace Value

/-- The field of an object; nothing for other values. -/
def field? (name : String) : Value → Option Value
  | object fields => Entries.get? name fields
  | _ => none

/-- Whether the value is an object. -/
def isObject : Value → Bool
  | object _ => true
  | mapping _ => true
  | _ => false

/-- Whether the value counts as present where only presence matters: neither null nor false nor
zero nor an empty text or collection. -/
def isTruthy : Value → Bool
  | null => false
  | bool b => b
  | int n => n != 0
  | float x => !(x == 0.0)
  | str s => !s.isEmpty
  | list items => !items.isEmpty
  | object fields => !fields.isEmpty
  | date _ => true
  | moment _ => true
  | octets bytes => !bytes.isEmpty
  | set members => !members.isEmpty
  | tuple items => !items.isEmpty
  | mapping entries => !entries.isEmpty

/-- The string of a value that is one. -/
def str? : Value → Option String
  | str s => some s
  | _ => none

mutual

/-- How deeply a value is nested. -/
def height : Value → Nat
  | list items => heightOfItems items + 1
  | tuple items => heightOfItems items + 1
  | set members => heightOfItems members + 1
  | object fields => heightOfFields fields + 1
  | mapping entries => heightOfEntries entries + 1
  | _ => 0

/-- The greatest height among values. -/
def heightOfItems : List Value → Nat
  | [] => 0
  | item :: rest => max item.height (heightOfItems rest)

/-- The greatest height among the values of fields. -/
def heightOfFields : List (String × Value) → Nat
  | [] => 0
  | (_, value) :: rest => max value.height (heightOfFields rest)

/-- The greatest height among keys and values. -/
def heightOfEntries : List (Value × Value) → Nat
  | [] => 0
  | (key, value) :: rest => max (max key.height value.height) (heightOfEntries rest)

end

end Value

end ClientGen
