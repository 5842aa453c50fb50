import ClientGen.Net.Parameter
import ClientGen.Packed.Frame
import ClientGen.Text.Blank
import ClientGen.Text.Case
import ClientGen.Text.Charset

/-!
# The content of a response

The body of a response may have been packed, in one way after the other.  The header that lists the
ways has the first one in front, so `ContentEncoding.decode` undoes them from the last one on.
Names that stand for no way of packing are left out.

A content type may have the name of a character set among its parameters.  `ContentType.charset?`
finds the name, and `ContentType.decode` reads octets in the set, or in UTF-8 when there is none of
that name.
-/

namespace ClientGen.Net

/-! ### Encodings -/

/-- A way of packing a body. -/
inductive ContentEncoding where
  | gzip
  | deflate
  deriving Repr, DecidableEq

namespace ContentEncoding

/-- The way with some name. -/
def ofName? (name : String) : Option ContentEncoding :=
  match Text.lower (Text.trim name) with
  | "gzip" => some gzip
  | "deflate" => some deflate
  | _ => none

/-- The ways that a header lists, in the order in which they were taken. -/
def ofHeader (header : String) : List ContentEncoding :=
  (header.splitOn ",").filterMap ofName?

/-- Undoes one way of packing. -/
def unpack : ContentEncoding → List UInt8 → Except Packed.Fault (List UInt8)
  | gzip => Packed.gunzip
  | deflate => Packed.unframeOrInflate

/-- Undoes ways of packing that were taken in the given order. -/
def decode (encodings : List ContentEncoding) (octets : List UInt8) :
    Except Packed.Fault (List UInt8) :=
  encodings.foldrM (fun encoding packed => encoding.unpack packed) octets

end ContentEncoding

/-! ### Types -/

namespace ContentType

/-- Why octets cannot be read as the content type says. -/
inductive Fault where
  /-- The parameters are faulty. -/
  | parameter (fault : Parameter.Fault)
  /-- There is a NUL in the name of a character set. -/
  | nul
  /-- The octets are faulty in their character set. -/
  | octets (fault : Text.Charset.Fault)
  deriving Repr, DecidableEq

/-- The wording of a fault. -/
def Fault.message : Fault → String
  | parameter fault => fault.message
  | nul => "embedded null character"
  | octets fault => fault.message

/-- Looks up a character set. -/
def lookUp (name : String) : Except Fault (Option Text.Charset) :=
  if name.contains '\x00' then .error .nul else .ok (Text.Charset.ofName? name)

/-- Reads numbers of octets without any fault. -/
def decodeAll? (charset : Text.Charset) (text : List Char) : Option (List Char) :=
  match charset.decode (text.map fun c => UInt8.ofNat c.toNat) with
  | .ok chars => if chars.contains Text.replacement then none else some chars
  | .error _ => none

/-- The characters of a parameter; octets that are faulty in their set are characters themselves. -/
def textChars : ParameterText → Except Fault (List Char)
  | .plain text => .ok text
  | .octets charset text => do
    let set ← lookUp (if charset.isEmpty then "ascii" else String.ofList charset)
    return (set.bind fun set => decodeAll? set text).getD text

/-- The name of the character set, in small letters of ASCII. -/
def charset? (contentType : String) : Except Fault (Option String) := do
  let parameters ← (Parameter.ofHeader contentType).mapError .parameter
  match parameters.find? fun p => p.name.map Char.toLower = "charset".toList with
  | none => return none
  | some parameter =>
    let name ← textChars parameter.text
    return if name.all fun c => c.toNat < 128 then some (String.ofList (name.map Char.toLower))
      else none

/-- Reads octets as a content type says. -/
def decode (contentType : Option String) (octets : List UInt8) : Except Fault String := do
  let name ← match contentType with
    | some contentType => charset? contentType
    | none => .ok none
  let charset ← match name with
    | some name => lookUp name
    | none => .ok none
  let chars ← ((charset.getD Text.Charset.utf8).decode octets).mapError .octets
  return String.ofList chars

end ContentType

end ClientGen.Net
