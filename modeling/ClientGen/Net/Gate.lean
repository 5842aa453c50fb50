import ClientGen.Failure
import ClientGen.Net.Address
import ClientGen.Text.Blank
import ClientGen.Text.Search
import ClientGen.Url

/-!
# The gate to the network

Before anything is requested, its URL passes the gate: the scheme is `http` or `https`, the host is
neither this machine nor in a private network, and it belongs to an allowed domain where domains are
listed.
-/

namespace ClientGen.Net

/-- A host as it is compared: in lower case and without points at its end. -/
def plainHost (host : String) : String :=
  Text.dropTrailing '.' (Text.lower host)

/-- Whether a host is this machine or in a private network, by name or by address. -/
def isPrivateHost (host : String) : Bool :=
  let name := plainHost host
  name == "localhost" || Text.endsWith ".localhost" name || Text.endsWith ".local" name ||
    (Address.read name).any Address.isPrivate

/-- A domain as it is compared: in lower case, without blanks around it or points in front. -/
def plainDomain (domain : String) : String :=
  Text.dropLeading '.' (Text.trim (Text.lower domain))

/-- Whether a host is one of the domains or below one; every host is, when none is listed. -/
def isAllowedDomain (host : String) (domains : List String) : Bool :=
  domains.isEmpty ||
    let name := plainHost host
    domains.any fun domain =>
      name == plainDomain domain || Text.endsWith ("." ++ plainDomain domain) name

/-- Why a URL may not be requested. -/
inductive Refusal where
  | malformed
  | scheme (scheme : String)
  | noHost
  | privateHost
  | domain (host : String) (allowed : List String)

namespace Refusal

/-- The kind of failure that a refusal is. -/
def kind : Refusal → FailureKind
  | malformed | noHost => .fetchFailed
  | scheme _ => .unsafeProtocol
  | privateHost => .privateAddress
  | domain _ _ => .domainNotAllowed

/-- The wording of a refusal of a URL. -/
def message (url : String) : Refusal → String
  | malformed | noHost => "Invalid URL in external reference: " ++ url
  | scheme s =>
    "Unsafe protocol " ++ (if s.isEmpty then "(none)" else "'" ++ s ++ ":'") ++
      " in reference: " ++ url
  | privateHost => "Private/local address not allowed in external reference: " ++ url
  | domain host allowed =>
    "Domain '" ++ host ++ "' not in allowed domains list. Allowed: " ++
      String.intercalate ", " allowed

/-- The failure that a refusal of a URL is. -/
def failure (url : String) (refusal : Refusal) : Failure :=
  { kind := refusal.kind, message := refusal.message url }

end Refusal

/-- The host of a URL that may be requested, or why it may not. -/
def examine (url : String) (allowed : List String) : Except Refusal String :=
  match Url.split url with
  | .error _ => .error .malformed
  | .ok parts =>
    let scheme := String.ofList parts.scheme
    if scheme ≠ "http" ∧ scheme ≠ "https" then .error (.scheme scheme)
    else if parts.host.isEmpty then .error .noHost
    else if isPrivateHost parts.host then .error .privateHost
    else if !isAllowedDomain parts.host allowed then .error (.domain parts.host allowed)
    else .ok parts.host

/-- The host of a URL that may be requested, or the failure that its refusal is. -/
def checkUrl (url : String) (allowed : List String) : Except Failure String :=
  match examine url allowed with
  | .ok host => .ok host
  | .error refusal => .error (refusal.failure url)

end ClientGen.Net
