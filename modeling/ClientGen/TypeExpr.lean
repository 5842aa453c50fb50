import ClientGen.Api.Schema
import ClientGen.Literal
import ClientGen.Naming

/-!
# Types of generated code

A schema is mapped to a type expression, and a type expression is written as code.  Named types are
written lazily where they are declared, and with the module they come from elsewhere.
-/

namespace ClientGen

/-- A type of generated code. -/
inductive TypeExpr where
  | unknown
  | named (name : String)
  | primitive (constructor : String)
  | array (item : TypeExpr)
  | record (value : TypeExpr)
  | inlineObject
  | literals (values : List Value)
  | nullOr (type : TypeExpr)

namespace TypeExpr

/-- The pattern of mail addresses. -/
def mailPattern : String := "^[^\\s@]+@[^\\s@]+\\.[^\\s@]+$"

/-- The types of texts with a format. -/
def formatTypes : List (String × String) :=
  [("date-time", "S.DateTimeUtc"), ("date", "S.Date"), ("uuid", "S.UUID"),
   ("email", "S.String.pipe(S.pattern(/" ++ mailPattern ++ "/))")]

/-- The types of scalars. -/
def scalarTypes : List (String × String) :=
  [("string", "S.String"), ("integer", "S.Int"), ("number", "S.Number"),
   ("boolean", "S.Boolean")]

/-- The type of a scalar, which a format may make more precise. -/
def ofScalar (type format : Option String) : TypeExpr :=
  let formatted := if type = some "string" then format.bind (Entries.get? · formatTypes) else none
  match formatted <|> type.bind (Entries.get? · scalarTypes) with
  | some constructor => .primitive constructor
  | none => .unknown

/-- A type, with null among its values or not. -/
def orNull (nullable : Bool) (type : TypeExpr) : TypeExpr :=
  if nullable then .nullOr type else type

mutual

/-- The type of a schema. -/
def ofSchema : Schema → TypeExpr
  | .reference info _ name => orNull info.nullable (.named (Naming.pascal name))
  | .primitive info type format => orNull info.nullable (ofScalar type format)
  | .array info items => orNull info.nullable (.array (ofOptional items))
  | .object info properties _ additional =>
    orNull info.nullable
      (if properties.isEmpty then .record (ofAdditional additional) else .inlineObject)
  | .enumeration info values _ => orNull info.nullable (.literals values)

/-- The type of a schema that may be missing. -/
def ofOptional : Option Schema → TypeExpr
  | some schema => ofSchema schema
  | none => .unknown

/-- The type of the properties that a schema does not name. -/
def ofAdditional : Additional Schema → TypeExpr
  | .schema schema => ofSchema schema
  | .allowed _ => .unknown
  | .unsaid => .unknown

end

/-- How named types are written. -/
inductive NameStyle where
  /-- Lazily and by their bare name. -/
  | bare
  /-- With the module they come from. -/
  | qualified
  deriving Repr, DecidableEq

/-- The type of an object that has no name of its own. -/
def inlineObjectText : String :=
  "S.Struct(\x7b /* inline object: extract to a named component schema */ \x7d)"

/-- A type as code. -/
def render (style : NameStyle) : TypeExpr → String
  | unknown => "S.Unknown"
  | named name =>
    match style with
    | .bare => "S.suspend(() => " ++ name ++ ")"
    | .qualified => "Schemas." ++ name
  | primitive constructor => constructor
  | array item => "S.Array(" ++ item.render style ++ ")"
  | record value => "S.Record(\x7b key: S.String, value: " ++ value.render style ++ " \x7d)"
  | inlineObject => inlineObjectText
  | literals values =>
    if values.isEmpty then "S.Never"
    else "S.Literal(" ++ String.intercalate ", " (values.map Literal.ofValue) ++ ")"
  | nullOr type => "S.NullOr(" ++ type.render style ++ ")"

/-- The values that a type names. -/
def values : TypeExpr → List Value
  | array type | record type | nullOr type => type.values
  | literals values => values
  | _ => []

/-- The type of a schema as code. -/
def schemaText (style : NameStyle) (schema : Option Schema) : String :=
  (ofOptional schema).render style

end TypeExpr

end ClientGen
