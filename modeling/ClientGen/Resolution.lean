import ClientGen.Document
import ClientGen.Net.Fetch
import ClientGen.Pointer
import ClientGen.Reference
import ClientGen.Shape

/-!
# Resolution of references

Resolution replaces references by what they refer to.  Bundling expands references within the
document, except those to component schemas, which stay as links once their targets are known to
exist; references to other documents stay as they are.  Full resolution expands every reference and
fetches the documents it needs.  A reference that is being expanded already is left in place and
counts as circular.  Keys beside a reference are laid over its target when that is an object.

The walk through a value is structural; only the expansion of a reference leads elsewhere.
`resolveWithin` bounds the nesting of expansions, and `resolve` takes a bound that is large enough
for the references of the document itself.
-/

namespace ClientGen

/-- The settings of a resolution. -/
structure ResolutionOptions where
  external : Bool := false
  lenient : Bool := false
  domains : List String := []
  redirects : Int := 0
  timeout : Float := 5.0

/-- The limits that the settings put on fetching. -/
def ResolutionOptions.limits (options : ResolutionOptions) : Net.Limits :=
  { timeout := Decimal.floatText .plain options.timeout
    redirects := options.redirects
    domains := options.domains }

/-- The outcome of a resolution. -/
structure Resolution where
  path : String
  resolved : Value
  references : List String
  circular : List String
  linked : List String
  errors : List String

namespace Resolution

/-- References that stay as links when a document is bundled. -/
def linkLead : String := "#/components/schemas/"

/-- What a resolution has put on record so far. -/
structure Journal where
  circular : List String
  linked : List String
  errors : List String
  documents : List (String × Value)
  requests : List String

/-- The journal at the start. -/
def Journal.start : Journal := ⟨[], [], [], [], []⟩

/-- A step of a resolution: it goes on with the journal and may end in a problem, which leaves the
journal as it is. -/
abbrev Run := ExceptT Problem (StateM Journal)

/-- The document that references are read in, with its URL unless it is the one at hand. -/
structure Context where
  root : Value
  url : Option String

/-- What a resolution works with. -/
structure Settings where
  external : Bool
  lenient : Bool
  domains : List String
  fetcher : Net.Fetcher

/-- How a target is resolved, given its document and the references that are being expanded. -/
abbrev Expander := Context → List String → Value → Run Value

/-- Ends in a failure or, leniently, puts it on record and keeps the value. -/
def failOr (settings : Settings) (failure : Failure) (kept : Value) : Run Value :=
  if settings.lenient then do
    modify fun journal => { journal with errors := journal.errors ++ [failure.message] }
    return kept
  else throw (.failure failure)

/-- The failure that a dangling reference is. -/
def dangling (ref : String) (fault : Pointer.Fault) : Failure :=
  { kind := .resolutionIncomplete
    message := "Cannot resolve $ref '" ++ ref ++ "': " ++ fault.message }

/-- Keeps a reference in place because it is being expanded already. -/
def keepCircular (ref : String) (kept : Value) : Run Value := do
  modify fun journal => { journal with circular := Reference.addOnce ref journal.circular }
  return kept

/-- Keeps a reference as a link to its target, which has to exist. -/
def link (settings : Settings) (context : Context) (ref pointer : String) (kept : Value) :
    Run Value :=
  match Pointer.follow context.root pointer with
  | .ok _ => do
    modify fun journal => { journal with linked := Reference.addOnce ref journal.linked }
    return kept
  | .error fault => failOr settings (dangling ref fault) kept

/-- The pointer of a reference into the document itself. -/
def localPointer? (ref : String) : Option String :=
  match ref.toList with
  | '#' :: pointer => some (String.ofList pointer)
  | _ => none

/-- The format of a fetched document: that of its path, or else YAML. -/
def formatOf (url : String) : Format :=
  match Url.split url with
  | .ok parts =>
    if Text.endsWith ".json" (Text.lower (String.ofList parts.path)) then .json else .yaml
  | .error _ => .yaml

/-- Ends in the problem of some outcome, if there is one. -/
def liftOutcome {α : Type} : Except Problem α → Run α
  | .ok a => return a
  | .error problem => throw problem

/-- The content of a fetched text. -/
def readFetched (url text : String) : Except Problem Value :=
  match parseContent (formatOf url) text with
  | .ok value => .ok value
  | .error (.text fault) =>
    .error (.failure
      { kind := .fetchFailed
        message := "Failed to parse external document " ++ url ++ ": " ++ fault.message })
  | .error (.scalar u) => .error (.unexpected u)

/-- The document of a URL, fetched unless it is at hand. -/
def load (settings : Settings) (url : String) : Run Value := do
  match Entries.get? url (← get).documents with
  | some document => return document
  | none =>
    let fetched := settings.fetcher url
    modify fun journal => { journal with requests := journal.requests ++ fetched.requests }
    let text ← liftOutcome fetched.outcome
    let document ← liftOutcome (readFetched url text)
    modify fun journal => { journal with documents := journal.documents ++ [(url, document)] }
    return document

/-- Fails where a URL is none. -/
def liftUrl {α : Type} : Except Url.Fault α → Run α
  | .ok a => return a
  | .error fault => throw (.unexpected ⟨.value, fault.message⟩)

/-- Passes a URL through the gate. -/
def passGate (url : String) (domains : List String) : Run Unit :=
  match Net.checkUrl url domains with
  | .ok _ => return ()
  | .error failure => throw (.failure failure)

/-- Resolves the target of a reference within a document.  The siblings of the reference are laid
over it. -/
def expandLocal (settings : Settings) (expand : Expander) (context : Context) (seen : List String)
    (ref pointer : String) (kept : Value) (overlay : Value → Run Value) : Run Value := do
  -- References of different documents may be spelled alike.
  let identity := context.url.getD "" ++ ref
  if seen.contains identity then keepCircular ref kept
  else
    match Pointer.follow context.root pointer with
    | .error fault => failOr settings (dangling ref fault) kept
    | .ok target => do
      let resolved ← expand context (identity :: seen) target
      overlay resolved

/-- Resolves the target of a reference in another document. -/
def expandExternal (settings : Settings) (expand : Expander) (context : Context)
    (seen : List String) (ref : String) (kept : Value) (overlay : Value → Run Value) :
    Run Value := do
  let absolute ← match context.url with
    | some base => liftUrl (Url.join base ref)
    | none => pure ref
  let (url, fragment) ← liftUrl (Url.withoutFragment absolute)
  let identity := url ++ "#" ++ fragment
  if seen.contains identity then keepCircular ref kept
  else
    passGate url settings.domains
    -- What fails while the document is fetched may be put on record; the gate's refusal may not.
    match ← ExceptT.lift (load settings url).run with
    | .error (.failure failure) => failOr settings failure kept
    | .error (.unexpected u) => throw (.unexpected u)
    | .ok document =>
      match Pointer.follow document fragment with
      | .error fault => failOr settings (dangling ref fault) kept
      | .ok target => do
        let resolved ← expand ⟨document, some url⟩ (identity :: seen) target
        overlay resolved

/-- Resolves a reference; `kept` is the object it stands in. -/
def resolveReference (settings : Settings) (expand : Expander) (context : Context)
    (seen : List String) (ref : String) (kept : Value) (overlay : Value → Run Value) :
    Run Value :=
  match localPointer? ref with
  | some pointer =>
    -- Only the document at hand has components that a bundle can link to.
    if context.url.isNone && !settings.external && Text.startsWith linkLead ref then
      link settings context ref pointer kept
    else expandLocal settings expand context seen ref pointer kept overlay
  | none =>
    if settings.external then expandExternal settings expand context seen ref kept overlay
    else return kept

/-- Lays fields over a value, when that is an object. -/
def overlayWith (siblings : Run (List (String × Value))) (hasSiblings : Bool) :
    Value → Run Value
  | .object fields => do
    if hasSiblings then
      return .object (Entries.overlay (← siblings) fields)
    else return .object fields
  | value => return value

/-- The fields of an object other than a reference. -/
def hasSiblings (fields : List (String × Value)) : Bool :=
  fields.any fun field => field.1 != Reference.key

mutual

/-- Resolves the references of a value. -/
def walk (settings : Settings) (expand : Expander) (context : Context) (seen : List String) :
    Value → Run Value
  | .object fields =>
    match Reference.ofFields? fields with
    | some ref =>
      resolveReference settings expand context seen ref (.object fields)
        (overlayWith (walkFields settings expand context seen true fields) (hasSiblings fields))
    | none => Value.object <$> walkFields settings expand context seen false fields
  | .list items => Value.list <$> walkItems settings expand context seen items
  | value => return value

/-- Resolves the references of the fields of an object, leaving a reference among them out where it
is known to be one. -/
def walkFields (settings : Settings) (expand : Expander) (context : Context) (seen : List String)
    (isReference : Bool) : List (String × Value) → Run (List (String × Value))
  | [] => return []
  | (name, value) :: rest => do
    if isReference && name == Reference.key then
      walkFields settings expand context seen isReference rest
    else
      let resolved ← walk settings expand context seen value
      let more ← walkFields settings expand context seen isReference rest
      return (name, resolved) :: more

/-- Resolves the references of the items of a list. -/
def walkItems (settings : Settings) (expand : Expander) (context : Context) (seen : List String) :
    List Value → Run (List Value)
  | [] => return []
  | item :: rest => do
    let resolved ← walk settings expand context seen item
    let more ← walkItems settings expand context seen rest
    return resolved :: more

end

/-- The fault of expansions that are nested too deeply. -/
def tooDeep : Problem := .unexpected ⟨.recursion, "maximum nesting of references exceeded"⟩

/-- Resolves the references of a value, with at most `depth` expansions inside one another. -/
def resolveValue (settings : Settings) : Nat → Expander
  | 0, context, seen, value =>
    walk settings (fun _ _ _ => throw tooDeep) context seen value
  | depth + 1, context, seen, value =>
    walk settings (resolveValue settings depth) context seen value

/-- Passes every reference of a document that leads out of it through the gate. -/
def passGates (options : ResolutionOptions) : List String → Run Unit
  | [] => return ()
  | ref :: rest => do
    let (url, _) ← liftUrl (Url.withoutFragment ref)
    passGate url options.domains
    passGates options rest

/-- Resolves a document, with at most `depth` expansions inside one another. -/
def resolveDocument (options : ResolutionOptions) (fetcher : Net.Fetcher) (depth : Nat)
    (content : Value) : Run Value := do
  if options.external then
    passGates options (Reference.classify (Reference.references content)).external
  resolveValue ⟨options.external, options.lenient, options.domains, fetcher⟩ depth
    ⟨content, none⟩ [] content

/-- The problem, attributed to a file where it is a failure. -/
def attributed (path : String) : Problem → Problem
  | .failure failure => .failure (failure.withFile path)
  | problem => problem

/-- The faults of a document that is no object, before or after it is resolved. -/
def shapeFaults (content resolved : Value) : List Shape.Fault :=
  (if content.isObject then [] else [⟨["original"], .notTable, content⟩]) ++
    (if resolved.isObject then [] else [⟨["resolved"], .notTable, resolved⟩])

/-- The outcome of a resolution, from its result and its journal. -/
def conclude (path : String) (content : Value) (journal : Journal) :
    Except Problem Value → Except Problem Resolution
  | .error problem => .error (attributed path problem)
  | .ok resolved =>
    match shapeFaults content resolved with
    | [] => .ok
        { path, resolved
          references := Reference.references content
          circular := journal.circular
          linked := journal.linked
          errors := journal.errors }
    | faults => .error (.unexpected ⟨.input, Shape.report "ResolvedDocument" faults⟩)

/-- Resolves the references of a document, with at most `depth` expansions inside one another. -/
def resolveWithin (depth : Nat) (options : ResolutionOptions) (fetcher : Net.Fetcher)
    (path : String) (content : Value) : Net.Fetched Resolution :=
  let (result, journal) := (resolveDocument options fetcher depth content).run.run .start
  ⟨journal.requests, conclude path content journal result⟩

/-- How deeply expansions may be nested in fetched documents.  What servers hold is not known
beforehand, so no bound can be read off the document at hand; this one is beyond what the stack of
a machine is expected to hold, whose size is not modelled.  A resolution that does not reach it
comes to the same with any larger bound (`resolveWithin_eq`). -/
def fetchedDepth : Nat := 10000

/-- How deeply expansions may be nested: a chain of expansions within the document enters no
reference twice. -/
def depthFor (options : ResolutionOptions) (content : Value) : Nat :=
  (Reference.references content).length + (if options.external then fetchedDepth else 0)

/-- Resolves the references of a document. -/
def resolve (options : ResolutionOptions) (fetcher : Net.Fetcher) (path : String)
    (content : Value) : Net.Fetched Resolution :=
  resolveWithin (depthFor options content) options fetcher path content

/-! ### What is left -/

/-- The references that are left in a resolved document. -/
def remaining (r : Resolution) : List String :=
  Reference.references r.resolved

/-- Insists on a document without references other than circular ones and links, where these are
allowed. -/
def check (r : Resolution) (allowLinks allowCircular : Bool) : Except Failure Resolution :=
  let circular := r.remaining.filter fun ref => r.circular.contains ref
  let residual := r.remaining.filter fun ref =>
    !r.circular.contains ref && !(allowLinks && r.linked.contains ref)
  if !circular.isEmpty && !allowCircular then
    .error
      { kind := .circularUnresolved
        message := "Circular references could not be inlined: " ++ Text.join ", " circular
        file := r.path
        details := circular }
  else if !residual.isEmpty then
    .error
      { kind := .resolutionIncomplete
        message := "Reference resolution incomplete. Remaining unresolved references: " ++
          Text.join ", " residual
        file := r.path
        details := residual }
  else .ok r

end Resolution

end ClientGen
