import ClientGen.Api
import ClientGen.Naming
import ClientGen.PathTemplate
import ClientGen.Text.Case
import ClientGen.Text.Lines

/-!
# Groups of operations

The operations of an API are grouped by their first tag.  Groups of declared tags come first, in the
order of the declarations, and the others in the order in which they appear.  Every group has a
stem, numbered where two would have the same file, from which its class and file are named.
-/

namespace ClientGen

/-- The tag of operations without tags. -/
def defaultTag : String := "default"

/-- Operations with a tag; `stem` is what their class and file are named by. -/
structure Group where
  tag : String
  stem : String
  operations : List Operation

namespace Group

/-- The stem of a tag. -/
def stemOf (tag : String) : String :=
  let stem := Naming.pascal tag
  if stem.isEmpty then "Group" else stem

/-- The name of the class of a group. -/
def className (group : Group) : String :=
  group.stem ++ "Api"

/-- The name of the module of a group. -/
def moduleName (group : Group) : String :=
  Naming.kebab group.stem ++ "-api"

/-- The name of the file of a group. -/
def fileName (group : Group) : String :=
  group.moduleName ++ ".ts"

end Group

/-- What tells parameters apart: name and place. -/
def Parameter.identity (parameter : Parameter) : String × ParameterPlace :=
  (parameter.name, parameter.place)

/-- The last of some parameters with an identity. -/
def lastWith? (identity : String × ParameterPlace) (parameters : List Parameter) :
    Option Parameter :=
  parameters.reverse.find? fun parameter => parameter.identity = identity

/-- Lays parameters of an operation over shared ones: the first shared parameter with an identity
gives way to the last own one with it.  `done` holds the identities that were replaced already. -/
def overlay (own : List Parameter) (done : List (String × ParameterPlace)) :
    List Parameter → List Parameter
  | [] => own.filter fun parameter => !done.contains parameter.identity
  | shared :: rest =>
    match if done.contains shared.identity then none else lastWith? shared.identity own with
    | some mine => mine :: overlay own (shared.identity :: done) rest
    | none => shared :: overlay own done rest

/-- The parameters of an operation, with those that its path shares among its operations. -/
def mergeParameters (shared own : List Parameter) : List Parameter :=
  overlay own [] shared

/-- An operation with the parameters of its path. -/
def PathEntry.complete (path : PathEntry) (operation : Operation) : Operation :=
  if path.parameters.isEmpty then operation
  else { operation with parameters := mergeParameters path.parameters operation.parameters }

/-- The operations of an API, each with the parameters of its path. -/
def Api.completeOperations (api : Api) : List Operation :=
  api.paths.flatMap fun path => path.operations.map path.complete

/-- The tag by which an operation is grouped. -/
def Operation.groupTag (operation : Operation) : String :=
  operation.tags.head?.getD defaultTag

/-- Texts without repetitions, in the order of their first appearance. -/
def distinct (texts : List String) : List String :=
  texts.foldl (fun found text => if found.contains text then found else found ++ [text]) []

/-- The tags of the groups of an API in order. -/
def Api.groupTags (api : Api) : List String :=
  let used := distinct (api.completeOperations.map Operation.groupTag)
  let declared := (api.tags.map TagInfo.name).filter fun tag => used.contains tag
  declared ++ used.filter fun tag => !declared.contains tag

/-- Names for stems, each different from the others and from the taken ones in kebab-case. -/
def freshNames (taken : List String) : List String → List String
  | [] => []
  | stem :: rest =>
    let name := Naming.fresh stem taken
    name :: freshNames (Naming.kebab name :: taken) rest

/-- The groups of an API. -/
def Api.groups (api : Api) : List Group :=
  let tags := api.groupTags
  (tags.zip (freshNames [] (tags.map Group.stemOf))).map fun (tag, stem) =>
    { tag, stem
      operations := api.completeOperations.filter fun operation => operation.groupTag == tag }

/-- The name of the class of an API: a longer one where a group has the name that the title gives. -/
def Api.className (api : Api) (groups : List Group) : String :=
  let stem := Naming.pascal api.info.title
  if groups.any fun group => group.className == stem ++ "Api" then stem ++ "HttpApi"
  else stem ++ "Api"

/-! ### Names of endpoints -/

/-- A segment of a path that is no placeholder. -/
def isStaticSegment (segment : String) : Bool :=
  !segment.isEmpty && !Text.startsWith "\x7b" segment

/-- The name of an operation: the one it has, or one made of its method and path. -/
def Operation.endpointName (operation : Operation) : String :=
  match operation.operationId with
  | some id => if id.isEmpty then fromPath else id
  | none => fromPath
where
  /-- The name made of method and path. -/
  fromPath : String :=
    let method := Text.lower operation.method
    Naming.camel (Text.join " "
      (method :: (Text.split '/' operation.path).filter isStaticSegment))

/-- A name that says by which parameters of the path something is found. -/
def byParameters (name : String) (parameters : List String) : String :=
  name ++ "By" ++ Text.join "And" (parameters.map Naming.pascal)

/-- Names for the operations of a group, each different from the others and from the taken ones in
kebab-case. -/
def namesFrom (taken : List String) : List Operation → List String
  | [] => []
  | operation :: rest =>
    let own := operation.endpointName
    let parameters := PathTemplate.parameters operation.path
    let stem :=
      if taken.contains (Naming.kebab own) && !parameters.isEmpty then byParameters own parameters
      else own
    let name := Naming.fresh stem taken
    name :: namesFrom (Naming.kebab name :: taken) rest

/-- The names of the operations of a group. -/
def endpointNames (operations : List Operation) : List String :=
  namesFrom [] operations

end ClientGen
