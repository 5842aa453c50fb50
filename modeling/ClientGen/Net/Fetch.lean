import ClientGen.Net.Content
import ClientGen.Net.Gate
import ClientGen.Net.Location
import ClientGen.Text.Quoted

/-!
# Fetching documents

A document is requested at its location, and at the locations it is redirected to, as often as the
limits allow.  Every request passes the gate first.  A `Transport` says what the servers answer,
which may change with every request (`Changing`); what was requested is recorded, also when nothing
comes of it.
-/

namespace ClientGen

/-- The nature of a fault in octets that are read as text. -/
def Text.Charset.Fault.nature : Text.Charset.Fault → FaultNature
  | .unmarked _ | .leftover | .irreplaceable | .undefined => .charset
  | .beyondAscii _ _ => .encoding
  | .misplaced => .runtime
  | .packing => .assertion
  | .letters => .type

namespace Net

/-- The nature of a fault in a content type. -/
def ContentType.Fault.nature : ContentType.Fault → FaultNature
  | .parameter _ => .type
  | .nul => .value
  | .octets fault => fault.nature

/-- What a server answers. -/
structure Response where
  status : Int
  headers : List (String × String)
  body : List UInt8

/-- How an exchange ends: with a response, or with a failure of the connection. -/
inductive Reply where
  | response (r : Response)
  | timeout
  | broken (message : String)

/-- What the servers answer to a request for a URL. -/
abbrev Transport := String → Reply

/-- Something that may change with every request: it depends on the URLs requested so far. -/
abbrev Changing (α : Type) := List String → α

/-- The limits of fetching; the timeout is as it is shown. -/
structure Limits where
  timeout : String
  redirects : Int
  domains : List String

/-- How fetching ends, and the URLs that were requested. -/
structure Fetched (α : Type) where
  requests : List String
  outcome : Except Problem α

/-- What fetches the text of a document from a URL. -/
abbrev Fetcher := String → Fetched String

/-- The value of a header, whatever the case of its name; several values are joined by commas. -/
def Response.header? (r : Response) (name : String) : Option String :=
  match r.headers.filter fun header => Text.lower header.1 == name with
  | [] => none
  | headers => some (Text.join ", " (headers.map (·.2)))

/-- A failed request for a URL. -/
def fetchFailure (url reason : String) : Problem :=
  .failure { kind := .fetchFailed, message := "Failed to fetch " ++ url ++ ": " ++ reason }

/-- The first fault in the names and values of the headers, which have to be ASCII. -/
def Response.headerFault? (r : Response) : Option Text.Ascii.Fault :=
  (r.headers.flatMap fun header => [header.1, header.2]).findSome? Text.Ascii.fault?

/-- A response as it is taken in: its headers are ASCII, and its body is unpacked; `url` is what was
asked for. -/
def Response.received (r : Response) (url : String) : Except Problem Response :=
  match r.headerFault? with
  | some fault => .error (.unexpected ⟨.ascii, fault.message⟩)
  | none =>
    let encodings := ((r.header? "content-encoding").map ContentEncoding.ofHeader).getD []
    match ContentEncoding.decode encodings r.body with
    | .ok body => .ok { r with body }
    | .error fault => .error (fetchFailure url fault.message)

/-- The statuses of redirections. -/
def redirectStatuses : List Int := [301, 302, 303, 307, 308]

/-- The target of a redirection. -/
def Response.target? (r : Response) : Option String :=
  if redirectStatuses.contains r.status then r.header? "location" else none

/-- The text of a response, in the character set it names or else in UTF-8. -/
def Response.text (r : Response) : Except Problem String :=
  if r.body.isEmpty then .ok ""
  else (ContentType.decode (r.header? "content-type") r.body).mapError fun fault =>
    .unexpected ⟨fault.nature, fault.message⟩

/-- The reason for giving up on redirections. -/
def tooManyRedirects : String := "Exceeded maximum allowed redirects."

/-- The response that a reply at a location is, with the location to which it redirects; `url` is
what was asked for. -/
def Reply.settle (limits : Limits) (url : String) (location : Location) :
    Reply → Except Problem (Response × Option Location)
  | .timeout =>
    .error (.failure
      { kind := .networkTimeout
        message := "Timed out after " ++ limits.timeout ++ "s fetching " ++ url })
  | .broken message => .error (fetchFailure url message)
  | .response answer =>
    match answer.received url with
    | .error problem => .error problem
    | .ok r =>
      match r.target? with
      | none => .ok (r, none)
      | some target =>
        match location.redirect target with
        | .error (.target fault) =>
          .error (fetchFailure url
            ("Invalid URL in location header: " ++ fault.message ++ "."))
        | .error (.result fault) => .error (.unexpected ⟨.location, fault.message⟩)
        | .ok next => .ok (r, some next)

/-- What an exchange comes to at a location: it ends there, or a redirection leads on. -/
inductive Hop where
  | ends (fetched : Fetched Response)
  | leads (next : Location)

/-- Sends a request to a location that passes the gate; `url` is what was asked for. -/
def hop (transport : Transport) (limits : Limits) (url : String) (location : Location) : Hop :=
  match checkUrl location.url limits.domains with
  | .error failure => .ends ⟨[], .error (.failure failure)⟩
  | .ok _ =>
    match (transport location.url).settle limits url location with
    | .error problem => .ends ⟨[location.url], .error problem⟩
    | .ok (r, none) => .ends ⟨[location.url], .ok r⟩
    | .ok (r, some next) =>
      -- Without redirections the response that asks for one is final.
      if limits.redirects ≤ 0 then .ends ⟨[location.url], .ok r⟩ else .leads next

/-- The whole exchange, given how it goes on where a redirection leads. -/
def Hop.finish (location : Location) (goOn : Location → Fetched Response) : Hop → Fetched Response
  | ends fetched => fetched
  | leads next =>
    let rest := goOn next
    { rest with requests := location.url :: rest.requests }

/-- Exchanges a request for its final response, following up to `left` redirections; `url` is what
was asked for, and `past` was requested before. -/
def exchange (servers : Changing Transport) (limits : Limits) (url : String) :
    Nat → List String → Location → Fetched Response
  | 0, past, location =>
    (hop (servers past) limits url location).finish location fun _ =>
      ⟨[], .error (fetchFailure url tooManyRedirects)⟩
  | left + 1, past, location =>
    (hop (servers past) limits url location).finish location
      (exchange servers limits url left (past ++ [location.url]))

/-- Fetches the text of a document from servers whose answers may change; `past` was requested
before. -/
def fetchFrom (servers : Changing Transport) (limits : Limits) (past : List String)
    (url : String) : Fetched String :=
  match Location.read url with
  | .error fault => ⟨[], .error (.unexpected ⟨.location, fault.message⟩)⟩
  | .ok location =>
    if limits.redirects < 0 then ⟨[], .error (fetchFailure url tooManyRedirects)⟩
    else
      let fetched := exchange servers limits url limits.redirects.toNat past location.requested
      ⟨fetched.requests, fetched.outcome.bind fun r =>
        if 200 ≤ r.status ∧ r.status < 300 then r.text
        else .error (.failure
          { kind := .fetchFailed
            message := "HTTP " ++ toString r.status ++ " fetching " ++ url })⟩

/-- Fetches the text of a document. -/
def fetch (transport : Transport) (limits : Limits) (url : String) : Fetched String :=
  fetchFrom (fun _ => transport) limits [] url

end Net

end ClientGen
