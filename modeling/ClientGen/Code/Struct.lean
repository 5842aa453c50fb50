import ClientGen.Api
import ClientGen.Text.Lines
import ClientGen.TypeExpr
import ClientGen.TypeNote

/-!
# Structs of generated code

A struct has one field on a line for each property or parameter; a field that is not required is
optional.
-/

namespace ClientGen.Code

/-- A field of a struct: its name, its type as code, and whether it is required. -/
structure StructField where
  name : String
  type : String
  required : Bool

/-- A field on its line. -/
def StructField.line (field : StructField) : String :=
  "\t" ++ Literal.key field.name ++ ": " ++
    (if field.required then field.type else "S.optional(" ++ field.type ++ ")") ++ ","

/-- A struct with fields. -/
def struct (fields : List StructField) : String :=
  "S.Struct(\x7b\n" ++ Text.join "\n" (fields.map StructField.line) ++ "\n\x7d)"

/-- The field of a property. -/
def propertyField (required : List String) (property : String × Schema) : StructField :=
  { name := property.1
    type := TypeExpr.schemaText .bare (some property.2) ++
      TypeNote.schemaText "\t" (some property.2)
    required := required.contains property.1 }

/-- The declaration of a component schema: an object with properties becomes a struct. -/
def component (schema : Schema) : String :=
  let annotations := TypeNote.schemaText "" (some schema)
  match schema with
  | .object info (first :: rest) required _ =>
    let text := struct ((first :: rest).map (propertyField required))
    (if info.nullable then "S.NullOr(" ++ text ++ ")" else text) ++ annotations
  | schema => TypeExpr.schemaText .bare (some schema) ++ annotations

/-- The values in the type of a schema and its annotations. -/
def schemaValues (schema : Schema) : List Value :=
  (TypeExpr.ofSchema schema).values ++ TypeNote.values schema.info

/-- The values in the declaration of a component schema. -/
def componentValues (schema : Schema) : List Value :=
  match schema with
  | .object info (first :: rest) _ _ =>
    (first :: rest).flatMap (fun property => schemaValues property.2) ++ TypeNote.values info
  | schema => schemaValues schema

/-- Types of parameters that arrive as text. -/
def textEncoded : List (String × String) :=
  [("S.Int", "S.NumberFromString.pipe(S.int())"), ("S.Number", "S.NumberFromString"),
   ("S.Boolean", "S.BooleanFromString")]

/-- The type of a parameter. -/
def parameterType (parameter : Parameter) : String :=
  match parameter.schema with
  | none => "S.String"
  | some schema =>
    let encoded (constructor : String) : Option String := Entries.get? constructor textEncoded
    let own := TypeExpr.schemaText .qualified (some schema)
    match TypeExpr.ofSchema schema with
    | .primitive constructor => (encoded constructor).getD own
    | .nullOr (.primitive constructor) =>
      match encoded constructor with
      | some text => "S.NullOr(" ++ text ++ ")"
      | none => own
    | _ => own

/-- The annotations of a parameter: its own, and those of its schema that it has none of. -/
def parameterAnnotations (parameter : Parameter) : String :=
  let own : List TypeNote.Field :=
    (match parameter.description with
     | some text => if text.isEmpty then [] else [("description", Literal.ofText text)]
     | none => []) ++
      TypeNote.present "examples" parameter.sample TypeNote.single
  let inherited := (TypeNote.ofSchema parameter.schema).filter fun field =>
    !own.any fun mine => mine.1 == field.1
  TypeNote.render "\t" (own ++ inherited)

/-- The values in the field of a parameter. -/
def parameterValues (parameter : Parameter) : List Value :=
  parameter.sample :: (parameter.schema.map schemaValues).getD []

/-- The field of a parameter. -/
def parameterField (parameter : Parameter) : StructField :=
  { name := parameter.name
    type := parameterType parameter ++ parameterAnnotations parameter
    required := parameter.required }

end ClientGen.Code
