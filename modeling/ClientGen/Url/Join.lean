import ClientGen.Text.Lines
import ClientGen.Url

/-!
# Putting URLs together

`unsplit` writes a URL from its parts, `withoutFragment` takes a fragment off, and `join` reads a
reference that stands in a document with a URL of its own: parts that the reference lacks come from
there, and its path is relative to the directory of the document.
-/

namespace ClientGen.Url

/-- Schemes whose URLs name an authority; the empty one is among them. -/
def authoritySchemes : List String :=
  ["", "ftp", "http", "gopher", "nntp", "telnet", "imap", "wais", "file", "mms", "https", "shttp",
   "snews", "prospero", "rtsp", "rtspu", "rsync", "svn", "svn+ssh", "sftp", "nfs", "git",
   "git+ssh", "ws", "wss"]

/-- Schemes whose references may be relative; the empty one is among them. -/
def relativeSchemes : List String :=
  ["", "ftp", "http", "gopher", "nntp", "imap", "wais", "file", "https", "shttp", "mms", "prospero",
   "rtsp", "rtspu", "sftp", "svn", "svn+ssh", "ws", "wss"]

/-- Schemes whose paths may end with parameters; the empty one is among them. -/
def parameterSchemes : List String :=
  ["", "ftp", "hdl", "prospero", "http", "https", "shttp", "rtsp", "rtspu", "sip", "sips", "mms",
   "sftp", "tel"]

/-- Whether a list of schemes has the scheme. -/
def isAmong (schemes : List String) (scheme : List Char) : Bool :=
  schemes.contains (String.ofList scheme)

/-- The first character, unless the text is empty, with everything in front of the text. -/
def prepend (lead : List Char) (text : List Char) : List Char :=
  if text.isEmpty then [] else lead ++ text

/-- A path with its authority; a path behind an authority starts with a slash. -/
def withAuthority (scheme authority path : List Char) : List Char :=
  -- Two slashes in front of a path would be read as those of an authority.
  if !authority.isEmpty ||
      (!scheme.isEmpty && isAmong authoritySchemes scheme && path.take 2 != ['/', '/']) then
    let rooted := if !path.isEmpty && path.head? != some '/' then '/' :: path else path
    '/' :: '/' :: authority ++ rooted
  else path

/-- Writes a URL from its parts; empty ones leave no mark. -/
def unsplit (parts : Parts) : List Char :=
  (if parts.scheme.isEmpty then [] else parts.scheme ++ [':']) ++
    withAuthority parts.scheme parts.authority parts.path ++
    prepend ['?'] parts.query ++ prepend ['#'] parts.fragment

/-- Splits the parameters off the last segment of a path. -/
def splitParameters (path : List Char) : List Char × List Char :=
  let segment := afterLast '/' path
  match cutAt (· == ';') segment with
  | some (before, parameters) =>
    (path.take (path.length - segment.length) ++ before, parameters)
  | none => (path, [])

/-- The path and parameters of a URL. -/
def Parts.pathAndParameters (parts : Parts) : List Char × List Char :=
  if isAmong parameterSchemes parts.scheme then splitParameters parts.path else (parts.path, [])

/-- A path with parameters. -/
def withParameters (path parameters : List Char) : List Char :=
  path ++ prepend [';'] parameters

/-- Takes the fragment off a URL. -/
def withoutFragment (url : String) : Except Fault (String × String) :=
  if url.toList.contains '#' then do
    let parts ← split url
    let (path, parameters) := parts.pathAndParameters
    let rest : Parts := { parts with path := withParameters path parameters, fragment := [] }
    return (String.ofList (unsplit rest), String.ofList parts.fragment)
  else .ok (url, "")

/-- Takes one segment of a path into account: `..` removes the one before it. -/
def addSegment (done : List (List Char)) (segment : List Char) : List (List Char) :=
  if segment = ['.', '.'] then done.dropLast
  else if segment = ['.'] then done
  else done ++ [segment]

/-- Drops the empty segments between the first and the last one. -/
def dropEmptyInside : List (List Char) → List (List Char)
  | [] => []
  | first :: rest =>
    first :: (rest.dropLast.filter (!·.isEmpty) ++ rest.getLast?.toList)

/-- The segments of a path that is read relative to another one. -/
def segments (base path : List Char) : List (List Char) :=
  if path.head? = some '/' then Text.splitChars '/' path
  else
    let parts := Text.splitChars '/' base
    -- The last segment of the base is the document itself.
    let directory := if parts.getLast? = some [] then parts else parts.dropLast
    dropEmptyInside (directory ++ Text.splitChars '/' path)

/-- Joins segments with slashes. -/
def joinSegments (parts : List (List Char)) : List Char :=
  List.intercalate ['/'] parts

/-- The path that a relative path stands for. -/
def joinPath (base path : List Char) : List Char :=
  let all := segments base path
  let resolved := all.foldl addSegment []
  -- A path that ends in points names a directory.
  let closed := match all.getLast? with
    | some ['.'] | some ['.', '.'] => resolved ++ [[]]
    | _ => resolved
  match joinSegments closed with
  | [] => ['/']
  | joined => joined

/-- The URL that a reference stands for in a document with a URL of its own. -/
def join (base reference : String) : Except Fault String :=
  if base.isEmpty then .ok reference
  else if reference.isEmpty then .ok base
  else do
    let outer ← split base
    let inner ← splitChars outer.scheme reference.toList
    if inner.scheme ≠ outer.scheme || !isAmong relativeSchemes inner.scheme then
      return reference
    let (basePath, baseParameters) := outer.pathAndParameters
    let (path, parameters) := inner.pathAndParameters
    let write (authority path parameters query : List Char) : String :=
      String.ofList (unsplit
        { inner with authority, path := withParameters path parameters, query })
    let inherits := isAmong authoritySchemes inner.scheme
    if inherits && !inner.authority.isEmpty then
      return write inner.authority path parameters inner.query
    let authority := if inherits then outer.authority else inner.authority
    if path.isEmpty && parameters.isEmpty then
      let query := if inner.query.isEmpty then outer.query else inner.query
      return write authority basePath baseParameters query
    return write authority (joinPath basePath path) parameters inner.query

end ClientGen.Url
