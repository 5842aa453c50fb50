import ClientGen.Decimal.Numeral
import ClientGen.Net.Address
import ClientGen.Net.HostName
import ClientGen.Url.Join
import ClientGen.Url.Percent

/-!
# Locations of requests

A URL that is requested is brought into a uniform shape first: scheme and host are in lower case, a
host name is spelled out in ASCII, the port is left out where it is the usual one, `.` and `..` are
taken out of the path, and characters that may not stand where they do are escaped.
`Location.redirect` finds the next location of a redirected request.
-/

namespace ClientGen.Net

/-- A location in uniform shape. -/
structure Location where
  scheme : List Char
  user : List Char
  host : List Char
  port : Option Int
  path : List Char
  query : Option (List Char)
  fragment : Option (List Char)
  deriving Repr, DecidableEq

/-- Why a text is no location. -/
inductive LocationFault where
  | tooLong
  | control (c : Char) (position : Nat)
  | fragmentControl (c : Char) (position : Nat)
  | shortHost (host : String)
  | longHost (host : String)
  | hostName (host : String)
  | port (text : String)
  | unrooted
  | slashes
  | colon
  deriving Repr, DecidableEq

/-- The wording of a fault. -/
def LocationFault.message : LocationFault → String
  | tooLong => "URL too long"
  | control c position =>
    "Invalid non-printable ASCII character in URL, " ++ Text.quoted (String.singleton c) ++
      " at position " ++ toString position ++ "."
  | fragmentControl c position =>
    "Invalid non-printable ASCII character in URL fragment component, " ++
      Text.quoted (String.singleton c) ++ " at position " ++ toString position ++ "."
  | shortHost host => "Invalid IPv4 address: " ++ Text.quoted host
  | longHost host => "Invalid IPv6 address: " ++ Text.quoted host
  | hostName host => "Invalid IDNA hostname: " ++ Text.quoted host
  | port text => "Invalid port: " ++ Text.quoted text
  | unrooted => "For absolute URLs, path must be empty or begin with '/'"
  | slashes => "Relative URLs cannot have a path starting with '//'"
  | colon => "Relative URLs cannot have a path starting with ':'"

namespace Location

/-- The most characters of a location. -/
def maxLength : Nat := 65536

/-- Letters, digits and the four marks that never need an escape. -/
def isUnreserved (c : Char) : Bool :=
  c.isAlphanum || "-._~".toList.contains c

/-- Whether a character is printable ASCII and none of those excluded. -/
def isSafeBut (excluded : String) (c : Char) : Bool :=
  0x20 < c.toNat && c.toNat < 0x7f && !excluded.toList.contains c

/-- Characters that may stand in a fragment. -/
def isFragmentChar (c : Char) : Bool := isSafeBut "\"<>\x60" c

/-- Characters that may stand in a query. -/
def isQueryChar (c : Char) : Bool := isSafeBut "\"#<>" c

/-- Characters that may stand in a path. -/
def isPathChar (c : Char) : Bool := isSafeBut "\"#<>?\x60\x7b\x7d" c

/-- Characters that may stand in the user part. -/
def isUserChar (c : Char) : Bool := isSafeBut "\"#<>?\x60\x7b\x7d/;=@[\\]^|" c

/-- Characters that may stand in a host name. -/
def isHostChar (c : Char) : Bool :=
  isUnreserved c || "!$&'()*+,;=\"\x60\x7b\x7d%|\\".toList.contains c

/-- Takes a scheme off: everything in front of the first colon, when it has the form of one. -/
def cutScheme (cs : List Char) : List Char × List Char :=
  let scheme := cs.takeWhile Url.isSchemeChar
  match cs.drop scheme.length with
  | ':' :: rest =>
    if scheme.isEmpty || scheme.head?.any Char.isAlpha then (scheme, rest) else ([], cs)
  | _ => ([], cs)

/-- Takes an optional part off that starts with a character. -/
def cutPart (mark : Char) (stop : Char → Bool) : List Char → Option (List Char) × List Char
  | [] => (none, [])
  | c :: rest =>
    if c = mark then
      let part := rest.takeWhile fun d => !stop d
      (some part, rest.drop part.length)
    else (none, c :: rest)

/-- The user, host and port of an authority; the user ends at the last `@`. -/
def cutAuthority (authority : List Char) : List Char × List Char × List Char :=
  let rest := Url.afterLast '@' authority
  let user := authority.take (authority.length - rest.length - 1)
  let bracketed := rest.head? = some '[' && rest.contains ']'
  let host :=
    -- Colons between brackets belong to the host.
    if bracketed then (rest.reverse.dropWhile (· ≠ ']')).reverse
    else rest.takeWhile (· != ':')
  let rest := rest.drop host.length
  (user, host, if rest.head? = some ':' then rest.drop 1 else rest)

/-- Takes one character of a host into account when four groups of digits with one character
between neighbours are looked for: an even state stands in front of a group, an odd one inside. -/
def shortStep (states : List Nat) (c : Char) : List Nat :=
  (List.range 8).filter fun next =>
    states.any fun state =>
      if state % 2 = 0 then next == state + 1 && c.isDigit
      else (next == state && c.isDigit) || next == state + 1

/-- Whether a host consists of four groups of digits with one character between neighbours, which
may be a digit as well. -/
def looksShort (host : List Char) : Bool :=
  (host.foldl shortStep [0]).contains 7

/-- The host in uniform shape. -/
def uniformHost (host : List Char) : Except LocationFault (List Char) :=
  if host.isEmpty then .ok []
  else if looksShort host then
    if (short? host).isSome then .ok host else .error (.shortHost (String.ofList host))
  else if host.head? = some '[' && host.getLast? = some ']' then
    let inside := (host.drop 1).dropLast
    if (long? inside).isSome then .ok inside else .error (.longHost (String.ofList host))
  else
    let name := (Text.lower (String.ofList host)).toList
    if host.all fun c => c.toNat < 128 then .ok (Url.Percent.encode isHostChar name)
    else match HostName.spelled? name with
      | some spelled => .ok spelled
      | none => .error (.hostName (String.ofList host))

/-- The usual ports of schemes. -/
def usualPorts : List (String × Int) :=
  [("ftp", 21), ("http", 80), ("https", 443), ("ws", 80), ("wss", 443)]

/-- The port, unless it is the usual one. -/
def uniformPort (scheme port : List Char) : Except LocationFault (Option Int) :=
  if port.isEmpty then .ok none
  else match Numeral.integer? (String.ofList port) with
    | none => .error (.port (String.ofList port))
    | some n =>
      .ok (if usualPorts.any fun usual => usual.1 == String.ofList scheme && usual.2 == n then none
        else some n)

/-- Takes `.` and `..` out of a path. -/
def uniformPath (path : List Char) : List Char :=
  let parts := Text.splitChars '/' path
  if parts.contains ['.'] || parts.contains ['.', '.'] then
    Url.joinSegments (parts.foldl (fun done part =>
      if part = ['.'] then done
      else if part = ['.', '.'] then (if done = [] ∨ done = [[]] then done else done.dropLast)
      else done ++ [part]) [])
  else path

/-- What is wrong with a path. -/
def pathFault? (path : List Char) (hasScheme hasAuthority : Bool) : Option LocationFault :=
  if hasAuthority && !path.isEmpty && path.head? != some '/' then some .unrooted
  else if !hasScheme && !hasAuthority && path.take 2 == ['/', '/'] then some .slashes
  else if !hasScheme && !hasAuthority && path.head? == some ':' then some .colon
  else none

/-- The first control character of a text, with its position. -/
def control? (cs : List Char) : Option (Char × Nat) :=
  (cs.zipIdx).find? fun (c, _) => c.toNat < 0x20 || c.toNat == 0x7f

/-- Reads a location. -/
def read (url : String) : Except LocationFault Location := do
  let cs := url.toList
  if maxLength < cs.length then throw .tooLong
  if let some (c, position) := control? cs then throw (.control c position)
  let (rawScheme, rest) := cutScheme cs
  let (authority, rest) := Url.splitAuthority rest
  let rawPath := rest.takeWhile fun c => c != '?' && c != '#'
  let (query, rest) := cutPart '?' (· == '#') (rest.drop rawPath.length)
  let (fragment, _) := cutPart '#' (fun _ => false) rest
  let (user, rawHost, rawPort) := cutAuthority authority
  let host ← uniformHost rawHost
  let port ← uniformPort rawScheme rawPort
  let hasScheme := !rawScheme.isEmpty
  let hasAuthority := !user.isEmpty || !host.isEmpty || port.isSome
  if let some fault := pathFault? rawPath hasScheme hasAuthority then throw fault
  -- A relative path keeps its points: what they mean is not known yet.
  let path := if hasScheme || hasAuthority then uniformPath rawPath else rawPath
  return {
    scheme := rawScheme.map Char.toLower
    user := Url.Percent.encode isUserChar user
    host, port
    path := Url.Percent.encode isPathChar path
    query := query.map (Url.Percent.encode isQueryChar)
    fragment := fragment.map (Url.Percent.encode isFragmentChar) }

/-- The authority of a location. -/
def authority (l : Location) : List Char :=
  (if l.user.isEmpty then [] else l.user ++ ['@']) ++
    (if l.host.contains ':' then '[' :: l.host ++ [']'] else l.host) ++
    (match l.port with
     | none => []
     | some n => ':' :: (toString n).toList)

/-- The URL of a location. -/
def url (l : Location) : String :=
  String.ofList
    ((if l.scheme.isEmpty then [] else l.scheme ++ [':']) ++
      (if l.authority.isEmpty then [] else '/' :: '/' :: l.authority) ++ l.path ++
      (match l.query with | none => [] | some q => '?' :: q) ++
      (match l.fragment with | none => [] | some f => '#' :: f))

/-- Whether a location does not say by itself where it is. -/
def isRelative (l : Location) : Bool :=
  l.scheme.isEmpty || l.host.isEmpty

/-- Why a request cannot be redirected: the target is no location, or none comes out of it together
with the location that was requested. -/
inductive RedirectFault where
  | target (fault : LocationFault)
  | result (fault : LocationFault)
  deriving Repr, DecidableEq

/-- A location that was given relative to another one. -/
def resolve (base l : Location) : Except LocationFault Location :=
  match Url.join base.url l.url with
  | .ok joined => read joined
  | .error _ => .ok l

/-- A location that has a scheme but no host, on the host of another one. -/
def onHostOf (other l : Location) : Except LocationFault Location :=
  if l.scheme.isEmpty || !l.host.isEmpty then .ok l
  else match pathFault? l.path true true with
    | some fault => .error fault
    | none => .ok { l with host := other.host }

/-- A location with the fragment of another one unless it has its own. -/
def withFragmentOf (other l : Location) : Except LocationFault Location :=
  let fragment := (Url.Percent.decode (String.ofList (other.fragment.getD []))).toList
  if !(l.fragment.getD []).isEmpty || fragment.isEmpty then .ok l
  else match control? fragment with
    | some (c, position) => .error (.fragmentControl c position)
    | none => .ok { l with fragment := some (Url.Percent.encode isFragmentChar fragment) }

/-- The location to which a request is redirected: what the target lacks comes from the location
that was requested, a fragment included. -/
def redirect (requested : Location) (target : String) : Except RedirectFault Location :=
  match Location.read target with
  | .error fault => .error (.target fault)
  | .ok read =>
    let completed := do
      let hosted ← onHostOf requested read
      let absolute ← if hosted.isRelative then resolve requested hosted else pure hosted
      withFragmentOf requested absolute
    completed.mapError .result

/-- The location of a request: one that does not say where it is counts from the root. -/
def requested (l : Location) : Location :=
  if l.isRelative then
    { scheme := [], user := [], host := [], port := none
      path := '/' :: l.path.dropWhile (· = '/'), query := l.query, fragment := none }
  else l

end Location

end ClientGen.Net
