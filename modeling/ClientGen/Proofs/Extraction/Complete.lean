import ClientGen.Proofs.Extraction.References

/-!
# Extraction is complete and keeps the order

`Api.IsComplete document api` says that an API has what its document declares and nothing else: its
operations are those that stand at the paths, path by path and for each path in the order of
`methods`; the responses of an operation and the component schemas are those of the tables of the
document that are objects and no references, in their order and under their names; and every
parameter that stands in a path is required.  An API that is extracted is complete
(`isComplete_of_extract`).
-/

namespace ClientGen

open Extraction
open Shape (entriesIn)

/-- An operation that a document declares: its method and path, and what stands there. -/
structure DeclaredOperation where
  method : String
  path : String
  value : Value

/-- The operations that are declared at a path: one for each method that is a field. -/
def declaredAt (path : String) (item : Value) : List DeclaredOperation :=
  methods.filterMap fun method =>
    (item.field? method).map fun value => ⟨capitals method, path, value⟩

/-- The operations that a document declares, path by path. -/
def declaredOperations (document : Value) : List DeclaredOperation :=
  (pathsIn document).flatMap fun path => declaredAt path.1.plain path.2

/-- The elements of a table in a value, by name. -/
def elementsAt (name : String) (value : Value) : List (String × Value) :=
  elements (entriesIn (fieldOrNull name value))

/-- The parameters of an API: those of its paths, of their operations, and of its components. -/
def Api.parameters (api : Api) : List Parameter :=
  (api.paths.flatMap fun path => path.parameters ++ path.operations.flatMap Operation.parameters) ++
    api.components.parameters.map (·.2)

/-- A response is read from an element of a table. -/
def Response.IsReadFrom (element : String × Value) (response : Response) : Prop :=
  response.status = element.1 ∧ readResponse element.1 element.2 = .ok response

/-- An operation is declared: it has the method, the path and the responses that are declared
where it stands. -/
structure Operation.IsDeclaredAs (declared : DeclaredOperation) (operation : Operation) : Prop where
  method_eq : operation.method = declared.method
  path_eq : operation.path = declared.path
  responses : List.Forall₂ Response.IsReadFrom (elementsAt "responses" declared.value)
    operation.responses

/-- An API has what a document declares, in the order of the document. -/
structure Api.IsComplete (document : Value) (api : Api) : Prop where
  /-- The operations are the declared ones. -/
  operations : List.Forall₂ Operation.IsDeclaredAs (declaredOperations document) api.operations
  /-- The component schemas are the declared ones, under their names. -/
  schemas : List.Forall₂ (fun element entry =>
      entry.1 = element.1 ∧ schema element.2 = .ok (some entry.2))
    (elementsAt "schemas" (fieldOrNull "components" document)) api.components.schemas
  /-- A path cannot be written without its parameters. -/
  required : ∀ parameter ∈ api.parameters, parameter.place = .path → parameter.required = true

namespace Extraction

/-! ### Operations and their responses -/

theorem status_of_readResponse {status : String} {value : Value} {response : Response}
    (h : readResponse status value = .ok response) : response.status = status := by
  unfold readResponse at h
  obtain ⟨content, -, h⟩ := bind_eq_ok.mp h
  obtain ⟨code, -, h⟩ := bind_eq_ok.mp h
  obtain ⟨schema, -, h⟩ := bind_eq_ok.mp h
  obtain ⟨headers, -, h⟩ := bind_eq_ok.mp h
  obtain ⟨part, -, h⟩ := bind_eq_ok.mp h
  cases h
  rfl

theorem isDeclaredAs_of_readOperation {method path : String} {value : Value} {operation : Operation}
    (h : readOperation method path value = .ok operation) :
    Operation.IsDeclaredAs ⟨capitals method, path, value⟩ operation := by
  have hread := readOperation_ok h
  obtain ⟨found, hfound, hresponses⟩ := hread.responses
  refine ⟨hread.method_eq, hread.path_eq, ?_⟩
  rw [hresponses, List.forall₂_map_right_iff]
  refine (forall₂_of_readEntries hfound).imp fun element entry hentry => ?_
  exact ⟨status_of_readResponse hentry.2, hentry.2⟩

/-- What is made of the fields that are there, of those that are asked for. -/
theorem filterMap_field? {α : Type} (item : Value) (make : String → Value → α)
    (names : List String) :
    names.filterMap (fun name => (item.field? name).map (make name)) =
      (names.filter fun name => hasField name item).map fun name =>
        make name (fieldOrNull name item) := by
  induction names with
  | nil => rfl
  | cons name rest ih =>
    rw [List.filterMap_cons, ih]
    cases hfield : item.field? name with
    | none => rw [List.filter_cons_of_neg (by simp [hasField, hfield]), Option.map_none]
    | some value =>
      rw [List.filter_cons_of_pos (by simp [hasField, hfield]), Option.map_some, List.map_cons]
      simp only [fieldOrNull, hfield, Option.getD_some]

theorem isDeclaredAs_of_readPath {path : String} {item : Value} {entry : PathEntry}
    (h : readPath path item = .ok entry) :
    List.Forall₂ Operation.IsDeclaredAs (declaredAt path item) entry.operations := by
  have hdeclared : declaredAt path item = _ := filterMap_field? item
    (fun method value => (⟨capitals method, path, value⟩ : DeclaredOperation)) methods
  rw [hdeclared, List.forall₂_map_left_iff]
  exact (forall₂_of_mapM (readPath_ok h).operations).imp fun method operation hoperation =>
    isDeclaredAs_of_readOperation hoperation

theorem isDeclaredAs_of_readPaths {document : Value} {paths : List PathEntry}
    (h : readPaths document = .ok paths) :
    List.Forall₂ Operation.IsDeclaredAs (declaredOperations document)
      (paths.flatMap PathEntry.operations) := by
  -- Path by path: the operations that are declared at a path are those that are read there.
  have hpaths := forall₂_of_mapM (readPaths_ok h)
  clear h
  unfold declaredOperations
  generalize pathsIn document = table at hpaths
  induction hpaths with
  | nil => exact .nil
  | cons hpath _ ih =>
    rw [List.flatMap_cons, List.flatMap_cons]
    exact List.rel_append (isDeclaredAs_of_readPath hpath) ih

/-! ### Parameters -/

/-- A parameter that stands in a path is required. -/
def IsRequiredInPath (parameter : Parameter) : Prop :=
  parameter.place = .path → parameter.required = true

theorem isRequiredInPath_of_readParameter (value : Value) :
    Yields IsRequiredInPath (readParameter value) := by
  unfold readParameter
  refine .skip fun _ => .skip fun place => .skip fun name => .skip fun inner =>
    .skip fun schema => .skip fun part => .ok ?_
  rintro rfl
  rfl

theorem isRequiredInPath_of_readParameters (value : Value) :
    Yields (fun parameters => ∀ parameter ∈ parameters, IsRequiredInPath parameter)
      (readParameters value) := by
  unfold readParameters
  exact .skip fun items => .mapM fun item _ => isRequiredInPath_of_readParameter item

theorem isRequiredInPath_of_readPaths {document : Value} {paths : List PathEntry}
    (h : readPaths document = .ok paths) : ∀ path ∈ paths,
      ∀ parameter ∈ path.parameters ++ path.operations.flatMap Operation.parameters,
        IsRequiredInPath parameter := by
  intro path hpath parameter hparameter
  obtain ⟨entry, -, hentry⟩ := exists_of_mem_mapM (readPaths_ok h) hpath
  have hread := readPath_ok hentry
  rcases List.mem_append.mp hparameter with hshared | hown
  · exact isRequiredInPath_of_readParameters _ _ hread.parameters parameter hshared
  · obtain ⟨operation, hoperation, hparameter⟩ := List.mem_flatMap.mp hown
    obtain ⟨method, -, hmethod⟩ := exists_of_mem_mapM hread.operations hoperation
    exact isRequiredInPath_of_readParameters _ _ (readOperation_ok hmethod).parameters parameter
      hparameter

/-! ### APIs -/

/-- Components that count as absent have no tables. -/
theorem elementsAt_orEmpty (name : String) (components : Value) :
    elementsAt name (if components.isTruthy then components else .object []) =
      elementsAt name components := by
  split
  · rfl
  · rename_i hfalsy
    cases components with
    | object fields =>
      cases fields with
      | nil => rfl
      | cons first rest => exact absurd rfl hfalsy
    | _ => rfl

end Extraction

/-- **An API that is extracted is complete.** -/
theorem isComplete_of_extract {file : String} {document : Value} {api : Api}
    (h : Api.extract file document = .ok api) : api.IsComplete document := by
  have hread := readApi_ok (readApi_of_extract h)
  have hcomponents := readComponents_ok hread.components
  refine ⟨isDeclaredAs_of_readPaths hread.paths, ?_, ?_⟩
  · rw [← elementsAt_orEmpty]
    exact forall₂_of_readSchemas hcomponents.schemas
  · intro parameter hparameter
    rcases List.mem_append.mp hparameter with hpaths | hcomponent
    · obtain ⟨path, hpath, hparameter⟩ := List.mem_flatMap.mp hpaths
      exact isRequiredInPath_of_readPaths hread.paths path hpath parameter hparameter
    · obtain ⟨entry, hentry, rfl⟩ := List.mem_map.mp hcomponent
      exact yields_readEntries (fun _ => isRequiredInPath_of_readParameter) _ _
        hcomponents.parameters entry hentry

/-- A document with an extension among its paths, a path whose methods stand in another order, and
a reference and a text among its responses and schemas. -/
def guestBook : Value :=
  .object
    [("info", .object [("title", .str "Guests"), ("version", .str "1")]),
      ("paths", .object
        [("x-note", .object [("get", .object [("responses", .object [])])]),
          ("/guests/{name}", .object
            [("delete", .object [("responses", .object [])]),
              ("get", .object
                [("parameters", .list [.object
                    [("name", .str "name"), ("in", .str "path"), ("required", .bool false)]]),
                  ("responses", .object
                    [("404", .object [("$ref", .str "#/components/responses/Missing")]),
                      ("200", .object [("description", .str "A guest")]),
                      ("x-note", .str "no more")])])])]),
      ("components", .object [("schemas", .object
        [("guest", .object [("type", .str "string")]),
          ("Host", .object [("$ref", .str "#/components/schemas/guest")]),
          ("Room", .str "none"),
          ("Guest", .object [("type", .str "integer")])])])]

/-- What the guest book declares is extracted, in its order. -/
theorem isComplete_guestBook :
    ∃ api, Api.extract "" guestBook = .ok api ∧
      api.operations.map (fun operation =>
          (operation.method, operation.path, operation.responses.map (·.status))) =
        [("GET", "/guests/{name}", ["200"]), ("DELETE", "/guests/{name}", [])] ∧
      api.components.schemas.map (·.1) = ["guest", "Guest"] ∧
      api.parameters.map (·.required) = [true] ∧ api.IsComplete guestBook := by
  have hread : (Api.extract "" guestBook).toOption.map (fun api =>
      (api.operations.map (fun operation =>
          (operation.method, operation.path, operation.responses.map (·.status))),
        api.components.schemas.map (·.1), api.parameters.map (·.required))) =
      some ([("GET", "/guests/{name}", ["200"]), ("DELETE", "/guests/{name}", [])],
        ["guest", "Guest"], [true]) := by
    decide +kernel
  obtain ⟨api, hextract, hseen⟩ := exists_ok_of_map_toOption hread
  obtain ⟨hoperations, hrest⟩ := Prod.ext_iff.mp hseen
  obtain ⟨hschemas, hrequired⟩ := Prod.ext_iff.mp hrest
  exact ⟨api, hextract, hoperations, hschemas, hrequired, isComplete_of_extract hextract⟩

end ClientGen
