import ClientGen.Text.Lines
import ClientGen.Value.Inspect

/-!
# Shapes of values

A `Shape` says which values may stand at a place: scalars, lists, tables with free names, records
with known members, and alternatives between shapes.  Records are named, so that shapes may be
recursive: `ρ` is the type of their names and a function `ρ → Record ρ` gives their members.
`Fault` says where a value has not its shape, and why.
-/

namespace ClientGen

/-- Which names the entries of a table may have. -/
inductive KeyRule where
  /-- Any name. -/
  | free
  /-- Path templates; names that start with `x-` are left out. -/
  | pathTemplate
  deriving Repr, DecidableEq

/-- What values may stand at a place. -/
inductive Shape (ρ : Type) where
  | any
  | text (minLength : Nat)
  | integer (least : Option Int)
  | number (positive : Bool)
  | truth
  | word (allowed : List String)
  | list (item : Shape ρ)
  | tuple (item : Shape ρ)
  | table (keys : KeyRule) (item : Shape ρ)
  | record (name : ρ)
  | nullable (inner : Shape ρ)
  | choice (branches : List (String × Shape ρ))
  | tagged (field : String) (variants : List (String × ρ))

/-- A member of a record; it is found under its name and, failing that, under its second name. -/
structure Member (ρ : Type) where
  name : String
  secondName : String
  required : Bool
  shape : Shape ρ

/-- A record: the title that messages give it, its members, and whether it refuses further ones. -/
structure Record (ρ : Type) where
  title : String
  members : List (Member ρ)
  closed : Bool

namespace Shape

/-- Why a value has not the shape of its place. -/
inductive Cause where
  | missing
  | notText
  | notUnicode
  | shortText (least : Nat)
  | notInteger
  | unreadableInteger
  | hugeInteger
  | fractionalInteger
  | infiniteInteger
  | notNumber
  | unreadableNumber
  | notPositive
  | tooSmall (least : Int)
  | notTruth
  | unreadableTruth
  | notList
  | notTuple
  | notTable
  | notRecord (title : String)
  | notTagged
  | noTag (field : String)
  | unknownTag (field tag : String) (expected : List String)
  | notAmong (allowed : List String)
  | extraMember
  | keyNotText
  | pathTemplate (key : String)

private def quote (s : String) : String :=
  "'" ++ s ++ "'"

/-- Words in quotes, the last one after `or`. -/
def alternatives : List String → String
  | [] => ""
  | [only] => quote only
  | [first, last] => quote first ++ " or " ++ quote last
  | first :: rest => quote first ++ ", " ++ alternatives rest

/-- The wording of a cause. -/
def Cause.message : Cause → String
  | missing => "Field required"
  | notText => "Input should be a valid string"
  | notUnicode => "Input should be a valid string, unable to parse raw data as a unicode string"
  | shortText least =>
    "String should have at least " ++ toString least ++
      (if least = 1 then " character" else " characters")
  | notInteger => "Input should be a valid integer"
  | unreadableInteger => "Input should be a valid integer, unable to parse string as an integer"
  | hugeInteger => "Unable to parse input string as an integer, exceeded maximum size"
  | fractionalInteger => "Input should be a valid integer, got a number with a fractional part"
  | infiniteInteger => "Input should be a finite number"
  | notNumber => "Input should be a valid number"
  | unreadableNumber => "Input should be a valid number, unable to parse string as a number"
  | notPositive => "Input should be greater than 0"
  | tooSmall least => "Input should be greater than or equal to " ++ toString least
  | notTruth => "Input should be a valid boolean"
  | unreadableTruth => "Input should be a valid boolean, unable to interpret input"
  | notList => "Input should be a valid list"
  | notTuple => "Input should be a valid tuple"
  | notTable => "Input should be a valid dictionary"
  | notRecord title => "Input should be a valid dictionary or instance of " ++ title
  | notTagged => "Input should be a valid dictionary or object to extract fields from"
  | noTag field => "Unable to extract tag using discriminator " ++ quote field
  | unknownTag field tag expected =>
    "Input tag " ++ quote tag ++ " found using " ++ quote field ++
      " does not match any of the expected tags: " ++
      String.intercalate ", " (expected.map quote)
  | notAmong allowed => "Input should be " ++ alternatives allowed
  | extraMember => "Extra inputs are not permitted"
  | keyNotText => "Keys should be strings"
  | pathTemplate key =>
    "Value error, Invalid path template " ++ Text.quoted key ++
      ": must start with '/' and use balanced \x7bparam\x7d segments"

/-- The identifier of a cause. -/
def Cause.name : Cause → String
  | missing => "missing"
  | notText => "string_type"
  | notUnicode => "string_unicode"
  | shortText _ => "string_too_short"
  | notInteger => "int_type"
  | unreadableInteger => "int_parsing"
  | hugeInteger => "int_parsing_size"
  | fractionalInteger => "int_from_float"
  | infiniteInteger => "finite_number"
  | notNumber => "float_type"
  | unreadableNumber => "float_parsing"
  | notPositive => "greater_than"
  | tooSmall _ => "greater_than_equal"
  | notTruth => "bool_type"
  | unreadableTruth => "bool_parsing"
  | notList => "list_type"
  | notTuple => "tuple_type"
  | notTable => "dict_type"
  | notRecord _ => "model_type"
  | notTagged => "model_attributes_type"
  | noTag _ => "union_tag_not_found"
  | unknownTag _ _ _ => "union_tag_invalid"
  | notAmong _ => "literal_error"
  | extraMember => "extra_forbidden"
  | keyNotText => "invalid_key"
  | pathTemplate _ => "value_error"

/-- A place where a value has not its shape: the names, positions and branches that lead there, the
cause and the value found. -/
structure Fault where
  place : List String
  cause : Cause
  input : Value

/-- The same fault, seen from one step further outside. -/
def Fault.under (step : String) (fault : Fault) : Fault :=
  { fault with place := step :: fault.place }

/-- The place of a fault with points between its steps. -/
def Fault.location (fault : Fault) : String :=
  Text.join "." fault.place

/-- A fault as a report shows it: a line for the place, and one for the cause and the value. -/
def Fault.block (fault : Fault) : String :=
  fault.location ++ "\n  " ++ fault.cause.message ++ " [type=" ++ fault.cause.name ++
    ", input_value=" ++ excerpt fault.input.inspect ++
    ", input_type=" ++ fault.input.typeName ++ "]"

/-- The report of the faults of something. -/
def report (title : String) (faults : List Fault) : String :=
  Text.join "\n"
    ((toString faults.length ++ " validation error" ++ (if faults.length = 1 then "" else "s") ++
      " for " ++ title) :: faults.map Fault.block)

end Shape

end ClientGen
