import ClientGen.Value

/-!
# Schemas of an API

The schemas that generated code declares: scalars, arrays, objects, enumerations and references to
other schemas by name, each with what is known about it besides its type.
-/

namespace ClientGen

/-- What a schema says besides its type.  The description may be any value, as may example and
default; null stands for none. -/
structure SchemaInfo where
  description : Value := .null
  sample : Value := .null
  default : Value := .null
  minimum : Option Float := none
  maximum : Option Float := none
  minLength : Option Int := none
  maxLength : Option Int := none
  pattern : Option String := none
  nullable : Bool := false
  deprecated : Bool := false

/-- What an object schema says about properties that it does not name. -/
inductive Additional (σ : Type) where
  | unsaid
  | allowed (b : Bool)
  | schema (s : σ)

/-- A schema. -/
inductive Schema where
  | primitive (info : SchemaInfo) (type format : Option String)
  | array (info : SchemaInfo) (items : Option Schema)
  | object (info : SchemaInfo) (properties : List (String × Schema)) (required : List String)
      (additional : Additional Schema)
  | enumeration (info : SchemaInfo) (values : List Value) (type : Option String)
  | reference (info : SchemaInfo) (ref name : String)

namespace Schema

/-- What a schema says besides its type. -/
def info : Schema → SchemaInfo
  | primitive info _ _ => info
  | array info _ => info
  | object info _ _ _ => info
  | enumeration info _ _ => info
  | reference info _ _ => info

/-- The same schema with other things said about it. -/
def withInfo (info : SchemaInfo) : Schema → Schema
  | primitive _ type format => primitive info type format
  | array _ items => array info items
  | object _ properties required additional => object info properties required additional
  | enumeration _ values type => enumeration info values type
  | reference _ ref name => reference info ref name

/-- Whether null is a value of the schema. -/
def isNullable (schema : Schema) : Bool :=
  schema.info.nullable

/-- The word for the kind of a schema. -/
def kindName : Schema → String
  | primitive _ _ _ => "primitive"
  | array _ _ => "array"
  | object _ _ _ _ => "object"
  | enumeration _ _ _ => "enum"
  | reference _ _ _ => "reference"

end Schema

end ClientGen
