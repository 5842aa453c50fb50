import ClientGen.Text.Hex
import ClientGen.Text.Utf8

/-!
# Percent escapes

`decode` reads the escapes of a text: a run of ASCII characters becomes octets, which are read as
UTF-8, and other characters stand for themselves.  `encode` writes the characters that may not
stand in a part of a URL as escapes and leaves the escapes that are already there.
-/

namespace ClientGen.Url.Percent

/-- The octet of an escape whose percent sign stands in front of the characters. -/
def escape? : List Char → Option UInt8
  | a :: b :: _ => do
    let high ← Text.hexValue? a
    let low ← Text.hexValue? b
    return UInt8.ofNat (16 * high + low)
  | _ => none

/-- Decodes characters; `run` holds the octets of the ASCII run at hand, in reverse, and the first
`skip` characters belong to an escape already read. -/
def decodeFrom (run : List UInt8) (skip : Nat) : List Char → List Char
  | [] => (Text.Utf8.decodeLossy run.reverse).toList
  | c :: rest =>
    match skip with
    | skip + 1 => decodeFrom run skip rest
    | 0 =>
      if c.toNat < 128 then
        match if c = '%' then escape? rest else none with
        | some octet => decodeFrom (octet :: run) 2 rest
        | none => decodeFrom (UInt8.ofNat c.toNat :: run) 0 rest
      else (Text.Utf8.decodeLossy run.reverse).toList ++ c :: decodeFrom [] 0 rest

/-- Reads the escapes of a text. -/
def decode (s : String) : String :=
  String.ofList (decodeFrom [] 0 s.toList)

/-- The escape of an octet. -/
def escapeOctet (b : UInt8) : List Char :=
  '%' :: (Text.hex 2 b.toNat).map Char.toUpper

/-- Escapes the characters that are not safe; the first `skip` characters belong to an escape that
stays. -/
def encodeFrom (safe : Char → Bool) (skip : Nat) : List Char → List Char
  | [] => []
  | c :: rest =>
    match skip with
    | skip + 1 => c :: encodeFrom safe skip rest
    | 0 =>
      if c = '%' && (escape? rest).isSome then c :: encodeFrom safe 2 rest
      else if safe c then c :: encodeFrom safe 0 rest
      else (String.singleton c).toUTF8.toList.flatMap escapeOctet ++ encodeFrom safe 0 rest

/-- Escapes the characters that are not safe; escapes that are there already stay. -/
def encode (safe : Char → Bool) (cs : List Char) : List Char :=
  encodeFrom safe 0 cs

end ClientGen.Url.Percent
