import ClientGen.Text.Case

/-!
# Addresses of documents

A URL is split into scheme, authority, path, query and fragment; the scheme ends at the first colon
when only letters, digits, `+`, `-` and `.` stand before it, and the authority follows two slashes.
The host of an authority stands behind the last `@` and in front of the port.
-/

namespace ClientGen.Url

/-- The parts of a URL. -/
structure Parts where
  scheme : List Char
  authority : List Char
  path : List Char
  query : List Char
  fragment : List Char
  deriving Repr, DecidableEq

/-- Why a text is no URL. -/
inductive Fault where
  /-- Only one of two brackets around a numeric host is there. -/
  | bracket
  /-- The authority holds a character that stands for one with a meaning in URLs. -/
  | disguised (authority : List Char)

/-- The wording of a fault. -/
def Fault.message : Fault → String
  | bracket => "Invalid IPv6 URL"
  | disguised authority =>
    "netloc '" ++ String.ofList authority ++
      "' contains invalid characters under NFKC normalization"

/-- Whether a scheme may hold the character. -/
def isSchemeChar (c : Char) : Bool :=
  c.isAlphanum || c == '+' || c == '-' || c == '.'

/-- Characters that are dropped wherever they stand: tabs and ends of lines. -/
def isIgnored (c : Char) : Bool :=
  c == '\t' || c == '\r' || c == '\n'

/-- Cuts at the first character of some kind, which is dropped; nothing when there is none. -/
def cutAt (p : Char → Bool) : List Char → Option (List Char × List Char)
  | [] => none
  | c :: rest =>
    if p c then some ([], rest)
    else (cutAt p rest).map fun (before, after) => (c :: before, after)

/-- Cuts at the first occurrence of a character; the second part is empty when there is none. -/
def partition (c : Char) (cs : List Char) : List Char × List Char :=
  (cutAt (· == c) cs).getD (cs, [])

/-- What follows the last occurrence of a character, or everything. -/
def afterLast (c : Char) (cs : List Char) : List Char :=
  (cs.reverse.takeWhile (· ≠ c)).reverse

/-- Takes the scheme off a URL. -/
def splitScheme (cs : List Char) : Option (List Char × List Char) :=
  match cutAt (· == ':') cs with
  | some (scheme, rest) =>
    if scheme.head?.any Char.isAlpha && scheme.all isSchemeChar then
      some (scheme.map Char.toLower, rest)
    else none
  | none => none

/-- Whether the character ends an authority. -/
def endsAuthority (c : Char) : Bool :=
  c == '/' || c == '?' || c == '#'

/-- Takes the authority off a URL without its scheme. -/
def splitAuthority : List Char → List Char × List Char
  | '/' :: '/' :: rest => rest.span fun c => !endsAuthority c
  | cs => ([], cs)

/-- Characters whose compatibility form holds one of `/ ? # @ :`. -/
def disguises : List Nat :=
  [0x2047, 0x2048, 0x2049, 0x2100, 0x2101, 0x2105, 0x2106, 0x2a74, 0xfe13, 0xfe16, 0xfe55, 0xfe56,
   0xfe5f, 0xfe6b, 0xff03, 0xff0f, 0xff1a, 0xff1f, 0xff20]

/-- What is wrong with an authority. -/
def authorityFault? (authority : List Char) : Option Fault :=
  if authority.contains '[' != authority.contains ']' then some .bracket
  else if authority.any fun c => disguises.contains c.toNat then some (.disguised authority)
  else none

/-- Splits a URL; one without a scheme gets the default. -/
def splitChars (defaultScheme : List Char) (cs : List Char) : Except Fault Parts :=
  let kept := cs.filter fun c => !isIgnored c
  let (scheme, rest) := (splitScheme kept).getD (defaultScheme, kept)
  let (authority, rest) := splitAuthority rest
  match authorityFault? authority with
  | some fault => .error fault
  | none =>
    let (rest, fragment) := partition '#' rest
    let (path, query) := partition '?' rest
    .ok ⟨scheme, authority, path, query, fragment⟩

/-- Splits a URL. -/
def split (url : String) : Except Fault Parts :=
  splitChars [] url.toList

/-- The host and port of an authority without its user. -/
def hostAndPort (cs : List Char) : List Char :=
  match cutAt (· == '[') cs with
  | some (_, bracketed) => (partition ']' bracketed).1
  | none => (partition ':' cs).1

/-- The host of a URL in lower case, its zone excepted; empty when there is none. -/
def Parts.host (parts : Parts) : String :=
  let host := hostAndPort (afterLast '@' parts.authority)
  let name := host.takeWhile (· ≠ '%')
  Text.lower (String.ofList name) ++ String.ofList (host.drop name.length)

end ClientGen.Url
