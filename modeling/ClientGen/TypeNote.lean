import ClientGen.Api.Schema
import ClientGen.Literal

/-!
# Annotations of generated types

What a schema says besides its type is written behind the type as annotations, each on a line of its
own: description, examples, default, and the bounds of its values in one annotation.
-/

namespace ClientGen.TypeNote

/-- An annotation: its key and its value as code. -/
abbrev Field := String × String

/-- An annotation that is there when a value is. -/
def present (key : String) (value : Value) (render : String → String) : List Field :=
  match value with
  | .null => []
  | value => [(key, render (Literal.ofValue value))]

/-- A list of one example. -/
def single (literal : String) : String :=
  "[" ++ literal ++ "]"

/-- The bounds that a schema sets. -/
def bounds (info : SchemaInfo) : List (String × Value) :=
  [("minimum", info.minimum.map Value.float), ("maximum", info.maximum.map Value.float),
   ("minLength", info.minLength.map Value.int), ("maxLength", info.maxLength.map Value.int),
   ("pattern", info.pattern.map Value.str)].filterMap fun (key, value) =>
    value.map fun v => (key, v)

/-- The annotation of the bounds. -/
def boundFields (info : SchemaInfo) : List Field :=
  match bounds info with
  | [] => []
  | list =>
    [("jsonSchema", "\x7b " ++
      String.intercalate ", " (list.map fun bound => bound.1 ++ ": " ++ Literal.ofValue bound.2) ++
      " \x7d")]

/-- The annotations of what a schema says. -/
def ofInfo (info : SchemaInfo) : List Field :=
  (if info.description.isTruthy then [("description", Literal.ofValue info.description)] else []) ++
    present "examples" info.sample single ++ present "default" info.default (fun s => s) ++
    boundFields info

/-- The values in the annotations of what a schema says. -/
def values (info : SchemaInfo) : List Value :=
  [info.description, info.sample, info.default] ++ (bounds info).map (·.2)

/-- The annotations of a schema that may be missing. -/
def ofSchema (schema : Option Schema) : List Field :=
  match schema with
  | some s => ofInfo s.info
  | none => []

/-- Annotations as they stand behind a type. -/
def render (indent : String) (fields : List Field) : String :=
  if fields.isEmpty then ""
  else
    ".annotations(\x7b\n" ++
      String.join (fields.map fun field => indent ++ "\t" ++ field.1 ++ ": " ++ field.2 ++ ",\n") ++
      indent ++ "\x7d)"

/-- The annotations of a schema as they stand behind its type. -/
def schemaText (indent : String) (schema : Option Schema) : String :=
  render indent (ofSchema schema)

end ClientGen.TypeNote
