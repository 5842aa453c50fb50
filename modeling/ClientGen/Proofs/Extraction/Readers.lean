import ClientGen.Extraction
import ClientGen.Proofs.Outcome
import ClientGen.Proofs.Shape
import Mathlib.Data.List.Forall2

/-!
# What is read from a document

A reader that succeeds is taken apart here once: what the operation, the path, the components or the
API that it gives is made of (`readOperation_ok`, `readPath_ok`, `readComponents_ok`, `readApi_ok`).
From a table its elements are read, the entries that are objects and no references, one by one and
in order (`forall₂_of_readEntries`).
-/

namespace ClientGen.Extraction

open Shape (entriesIn)

/-! ### Tables -/

theorem entries_of_isObject {value : Value} (method : String) (h : value.isObject = true) :
    entries method value = .ok (entriesIn value) := by
  cases value with
  | object fields | mapping fields => rfl
  | _ => cases h

theorem entriesOrNone_of_isObject {value : Value} (method : String) (h : value.isObject = true) :
    entriesOrNone method value = .ok (entriesIn value) := by
  cases value with
  | object fields | mapping fields => cases fields <;> rfl
  | _ => cases h

/-- The entries of an object are read. -/
theorem eq_entriesIn_of_entriesOrNone {method : String} {value : Value}
    {table : List (Value × Value)} (h : entriesOrNone method value = .ok table) :
    table = entriesIn value := by
  cases value with
  | object fields | mapping fields =>
    rw [entriesOrNone_of_isObject method rfl] at h
    cases h
    rfl
  | _ =>
    unfold entriesOrNone at h
    split at h
    · cases h
    · cases h
      rfl

/-- The elements of a table: its entries that are objects and no references, by name. -/
def elements (table : List (Value × Value)) : List (String × Value) :=
  (table.filter fun entry => isEntry entry.2).map fun entry => (entry.1.plain, entry.2)

theorem elements_cons (name value : Value) (rest : List (Value × Value)) :
    elements ((name, value) :: rest) =
      if isEntry value then (name.plain, value) :: elements rest else elements rest := by
  unfold elements
  rw [List.filter_cons]
  split <;> rfl

/-- The elements of a table are read one by one. -/
theorem forall₂_of_readEntries {α : Type} {read : String → Value → Except Fault α}
    {table : List (Value × Value)} {found : List (String × α)}
    (h : readEntries read table = .ok found) :
    List.Forall₂ (fun element entry => entry.1 = element.1 ∧ read element.1 element.2 = .ok entry.2)
      (elements table) found := by
  unfold readEntries at h
  rw [elements, List.forall₂_map_left_iff]
  refine (forall₂_of_mapM h).imp fun element entry hentry => ?_
  obtain ⟨part, hpart, heq⟩ := bind_eq_ok.mp hentry
  cases heq
  exact ⟨rfl, hpart⟩

/-! ### Operations and paths -/

/-- A method in capitals. -/
def capitals (method : String) : String :=
  String.ofList (method.toList.map Char.toUpper)

/-- The table of the responses of an operation that has one. -/
theorem responsesOf_ok {label : String} {operation : Value} {table : List (Value × Value)}
    (h : responsesOf label operation = .ok table) :
    table = entriesIn (fieldOrNull "responses" operation) ∧
      fieldOrNull "responses" operation ≠ .null := by
  unfold responsesOf at h
  dsimp only at h
  split at h
  · rename_i hobject
    rw [entries_of_isObject "items" hobject] at h
    cases h
    refine ⟨rfl, fun hnull => ?_⟩
    rw [hnull] at hobject
    cases hobject
  · cases h

/-- What an operation is made of that is read from a value. -/
structure IsOperationOf (method path : String) (value : Value) (operation : Operation) : Prop where
  method_eq : operation.method = capitals method
  path_eq : operation.path = path
  responses_ne_null : fieldOrNull "responses" value ≠ .null
  parameters : readParameters (fieldOrNull "parameters" value) = .ok operation.parameters
  responses : ∃ found, readEntries readResponse (entriesIn (fieldOrNull "responses" value)) =
    .ok found ∧ operation.responses = found.map (·.2)

theorem readOperation_ok {method path : String} {value : Value} {operation : Operation}
    (h : readOperation method path value = .ok operation) :
    IsOperationOf method path value operation := by
  unfold readOperation at h
  dsimp only at h
  split at h
  · cases h
  · obtain ⟨table, htable, h⟩ := bind_eq_ok.mp h
    obtain ⟨rfl, hresponses⟩ := responsesOf_ok htable
    obtain ⟨tags, -, h⟩ := bind_eq_ok.mp h
    obtain ⟨parameters, hparameters, h⟩ := bind_eq_ok.mp h
    -- A body is read or not; what follows is the same.
    split at h
    all_goals
      obtain ⟨body, -, h⟩ := bind_eq_ok.mp h
      obtain ⟨found, hfound, h⟩ := bind_eq_ok.mp h
      obtain ⟨security, -, h⟩ := bind_eq_ok.mp h
      obtain ⟨part, -, h⟩ := bind_eq_ok.mp h
      cases h
      exact ⟨rfl, rfl, hresponses, hparameters, found, hfound, rfl⟩

/-- What a path is made of that is read from a value. -/
structure IsPathOf (path : String) (item : Value) (entry : PathEntry) : Prop where
  operations : readOperations path item = .ok entry.operations
  parameters : readParameters (fieldOrNull "parameters" item) = .ok entry.parameters

theorem readPath_ok {path : String} {item : Value} {entry : PathEntry}
    (h : readPath path item = .ok entry) : IsPathOf path item entry := by
  unfold readPath at h
  split at h
  · cases h
  · obtain ⟨operations, hoperations, h⟩ := bind_eq_ok.mp h
    obtain ⟨parameters, hparameters, h⟩ := bind_eq_ok.mp h
    obtain ⟨part, -, h⟩ := bind_eq_ok.mp h
    cases h
    exact ⟨hoperations, hparameters⟩

/-- The paths of a document that are read: those that are no extensions. -/
def pathsIn (document : Value) : List (Value × Value) :=
  (entriesIn (fieldOrNull "paths" document)).filter fun path => !isExtension path.1.plain

theorem readPaths_ok {document : Value} {paths : List PathEntry}
    (h : readPaths document = .ok paths) :
    (pathsIn document).mapM (fun path => readPath path.1.plain path.2) = .ok paths := by
  unfold readPaths at h
  obtain ⟨table, htable, hread⟩ := bind_eq_ok.mp h
  cases eq_entriesIn_of_entriesOrNone htable
  exact hread

/-! ### Components and APIs -/

/-- What components are made of that are read from a value. -/
structure AreComponentsOf (value : Value) (components : Components) : Prop where
  schemas : readSchemas (entriesIn (fieldOrNull "schemas" value)) = .ok components.schemas
  responses : readEntries readResponse (entriesIn (fieldOrNull "responses" value)) =
    .ok components.responses
  parameters : readEntries (fun _ => readParameter) (entriesIn (fieldOrNull "parameters" value)) =
    .ok components.parameters

theorem readComponents_ok {value : Value} {components : Components}
    (h : readComponents value = .ok components) : AreComponentsOf value components := by
  have htable : ∀ {name : String} {table : List (Value × Value)},
      (do entriesOrNone "items" (← getField name value)) = .ok table →
        table = entriesIn (fieldOrNull name value) := by
    intro name table hread
    obtain ⟨part, hpart, hentries⟩ := bind_eq_ok.mp hread
    unfold getField at hpart
    split at hpart
    · cases hpart
      exact eq_entriesIn_of_entriesOrNone hentries
    · cases hpart
  unfold readComponents at h
  dsimp only at h
  obtain ⟨schemaTable, hschemaTable, h⟩ := bind_eq_ok.mp h
  obtain ⟨schemas, hschemas, h⟩ := bind_eq_ok.mp h
  obtain ⟨responseTable, hresponseTable, h⟩ := bind_eq_ok.mp h
  obtain ⟨responses, hresponses, h⟩ := bind_eq_ok.mp h
  obtain ⟨parameterTable, hparameterTable, h⟩ := bind_eq_ok.mp h
  obtain ⟨parameters, hparameters, h⟩ := bind_eq_ok.mp h
  obtain ⟨bodyTable, -, h⟩ := bind_eq_ok.mp h
  obtain ⟨bodies, -, h⟩ := bind_eq_ok.mp h
  cases h
  cases htable hschemaTable
  cases htable hresponseTable
  cases htable hparameterTable
  exact ⟨hschemas, hresponses, hparameters⟩

/-- What an API is made of that is read from a document. -/
structure IsApiOf (document : Value) (api : Api) : Prop where
  info : readInfo document = .ok api.info
  paths : readPaths document = .ok api.paths
  components : readComponents (if (fieldOrNull "components" document).isTruthy then
    fieldOrNull "components" document else .object []) = .ok api.components

theorem readApi_ok {document : Value} {api : Api} (h : readApi document = .ok api) :
    IsApiOf document api := by
  unfold readApi at h
  obtain ⟨info, hinfo, h⟩ := bind_eq_ok.mp h
  obtain ⟨servers, -, h⟩ := bind_eq_ok.mp h
  obtain ⟨paths, hpaths, h⟩ := bind_eq_ok.mp h
  obtain ⟨components, hcomponents, h⟩ := bind_eq_ok.mp h
  obtain ⟨security, -, h⟩ := bind_eq_ok.mp h
  obtain ⟨tags, -, h⟩ := bind_eq_ok.mp h
  obtain ⟨part, -, h⟩ := bind_eq_ok.mp h
  cases h
  exact ⟨hinfo, hpaths, hcomponents⟩

/-- An API that is extracted is read. -/
theorem readApi_of_extract {file : String} {document : Value} {api : Api}
    (h : Api.extract file document = .ok api) : readApi document = .ok api := by
  unfold Api.extract at h
  split at h
  · rename_i read hread
    cases h
    exact hread
  · cases h

end ClientGen.Extraction
