import ClientGen.Code.Artifact
import ClientGen.Extraction
import ClientGen.Proofs.Entries
import ClientGen.Proofs.Extraction.Readers

/-!
# References in an extracted API

`Api.references` collects every reference of an API, however deep, with the name that it was given.
The name is always the one that the reference ends with (`yields_readApi`), and it is looked up among
the component schemas, which are the components that are objects and no references
(`mem_keys_readSchemas`).  So the references of an API are defined exactly when the document has such
components under these names (`referencesDefined_iff`).
-/

namespace ClientGen

/-! ### The references of an API -/

namespace Schema

mutual

/-- The references in a schema, each with its name. -/
def references : Schema → List (String × String)
  | .reference _ ref name => [(ref, name)]
  | .array _ items => referencesOfOptional items
  | .object _ properties _ additional =>
    referencesOfProperties properties ++ referencesOfAdditional additional
  | .primitive _ _ _ => []
  | .enumeration _ _ _ => []

/-- The references in a schema that may be missing. -/
def referencesOfOptional : Option Schema → List (String × String)
  | some schema => references schema
  | none => []

/-- The references in the schemas of properties. -/
def referencesOfProperties : List (String × Schema) → List (String × String)
  | [] => []
  | (_, schema) :: rest => references schema ++ referencesOfProperties rest

/-- The references in the schema of the properties that an object does not name. -/
def referencesOfAdditional : Additional Schema → List (String × String)
  | .schema schema => references schema
  | .allowed _ => []
  | .unsaid => []

end

theorem mem_referencesOfProperties {node : String × String} {properties : List (String × Schema)} :
    node ∈ referencesOfProperties properties ↔
      ∃ property ∈ properties, node ∈ property.2.references := by
  induction properties with
  | nil => simp [referencesOfProperties]
  | cons property rest ih =>
    rw [referencesOfProperties, List.mem_append, ih, List.exists_mem_cons_iff]

theorem references_withInfo (info : SchemaInfo) (schema : Schema) :
    (schema.withInfo info).references = schema.references := by
  cases schema <;> simp only [withInfo, references]

end Schema

/-- The references of a parameter. -/
def Parameter.references (parameter : Parameter) : List (String × String) :=
  Schema.referencesOfOptional parameter.schema

/-- The references of a media type. -/
def MediaEntry.references (media : MediaEntry) : List (String × String) :=
  Schema.referencesOfOptional media.schema

/-- The references of a header. -/
def HeaderInfo.references (header : HeaderInfo) : List (String × String) :=
  Schema.referencesOfOptional header.schema

/-- The references of a body. -/
def RequestBody.references (body : RequestBody) : List (String × String) :=
  body.content.flatMap MediaEntry.references

/-- The references of a response. -/
def Response.references (response : Response) : List (String × String) :=
  Schema.referencesOfOptional response.schema ++ response.content.flatMap MediaEntry.references ++
    response.headers.flatMap HeaderInfo.references

/-- The references of an operation. -/
def Operation.references (operation : Operation) : List (String × String) :=
  operation.parameters.flatMap Parameter.references ++
    operation.body.toList.flatMap RequestBody.references ++
    operation.responses.flatMap Response.references

/-- The references of a path. -/
def PathEntry.references (path : PathEntry) : List (String × String) :=
  path.operations.flatMap Operation.references ++ path.parameters.flatMap Parameter.references

/-- The references of components. -/
def Components.references (components : Components) : List (String × String) :=
  (components.schemas.map (·.2)).flatMap Schema.references ++
    (components.responses.map (·.2)).flatMap Response.references ++
    (components.parameters.map (·.2)).flatMap Parameter.references ++
    (components.bodies.map (·.2)).flatMap RequestBody.references

/-- The references of an API, each with its name. -/
def Api.references (api : Api) : List (String × String) :=
  api.paths.flatMap PathEntry.references ++ api.components.references

namespace Extraction

/-! ### References are named by their last segment -/

/-- Every reference has the name that it ends with. -/
def AreNamed (nodes : List (String × String)) : Prop :=
  ∀ node ∈ nodes, node.2 = referenceName node.1

namespace AreNamed

theorem nil : AreNamed [] :=
  fun _ h => absurd h List.not_mem_nil

theorem append {nodes more : List (String × String)} (h : AreNamed nodes) (h' : AreNamed more) :
    AreNamed (nodes ++ more) :=
  fun node hnode => (List.mem_append.mp hnode).elim (h node) (h' node)

theorem flatMap {α : Type} {references : α → List (String × String)} {parts : List α}
    (h : ∀ part ∈ parts, AreNamed (references part)) : AreNamed (parts.flatMap references) := by
  intro node hnode
  obtain ⟨part, hpart, hnode⟩ := List.mem_flatMap.mp hnode
  exact h part hpart node hnode

theorem flatMap_snd {α : Type} {references : α → List (String × String)}
    {entries : List (String × α)} (h : ∀ entry ∈ entries, AreNamed (references entry.2)) :
    AreNamed ((entries.map (·.2)).flatMap references) := by
  refine .flatMap fun part hpart => ?_
  obtain ⟨entry, hentry, rfl⟩ := List.mem_map.mp hpart
  exact h entry hentry

end AreNamed

section Schema

variable {extract : Value → Except Fault (Option Schema)}
  (hextract : ∀ value, Yields (fun schema => AreNamed (Schema.referencesOfOptional schema))
    (extract value))

theorem yields_readReference (ref : String) (schema : Value) :
    Yields (fun schema => AreNamed schema.references) (readReference ref schema) := by
  unfold readReference
  refine .skip fun part => .ok ?_
  intro node hnode
  rw [Schema.references, List.mem_singleton] at hnode
  rw [hnode]

theorem yields_readEnumeration (values : List Value) (schema : Value) :
    Yields (fun schema => AreNamed schema.references) (readEnumeration values schema) := by
  unfold readEnumeration
  refine .skip fun part => .ok ?_
  rw [Schema.references]
  exact .nil

theorem yields_readPrimitive (schema : Value) :
    Yields (fun schema => AreNamed schema.references) (readPrimitive schema) := by
  unfold readPrimitive
  refine .skip fun part => .ok ?_
  rw [Schema.references]
  exact .nil

include hextract

theorem yields_readArray (schema : Value) :
    Yields (fun schema => AreNamed schema.references) (readArray extract schema) := by
  unfold readArray
  refine .bind (hextract _) fun item hitem => .skip fun part => .ok ?_
  rw [Schema.references]
  exact hitem

theorem yields_readProperties (entries : List (Value × Value)) :
    Yields (fun properties => ∀ property ∈ properties, AreNamed property.2.references)
      (readProperties extract entries) := by
  induction entries with
  | nil => exact .ok fun _ h => absurd h List.not_mem_nil
  | cons entry rest ih =>
    obtain ⟨name, value⟩ := entry
    rw [readProperties]
    refine .bind (hextract value) fun schema hschema => .bind ih fun more hmore => .ok ?_
    cases schema with
    | none => exact hmore
    | some schema => exact List.forall_mem_cons.mpr ⟨hschema, hmore⟩

theorem yields_readAdditional (value : Value) :
    Yields (fun additional => AreNamed (Schema.referencesOfAdditional additional))
      (readAdditional extract value) := by
  have hvalue : Yields (fun additional => AreNamed (Schema.referencesOfAdditional additional))
      (extract value >>= fun schema => pure (match schema with
        | some schema => Additional.schema schema
        | none => .unsaid)) := by
    refine .bind (hextract value) fun schema hschema => .ok ?_
    cases schema with
    | none => exact .nil
    | some schema => exact hschema
  cases value with
  | bool b => exact .ok .nil
  | _ => exact hvalue

theorem yields_readObject (schema : Value) (properties : Except Fault (List (Value × Value)))
    (required : Except Fault (List Value)) :
    Yields (fun schema => AreNamed schema.references)
      (readObject extract schema properties required) := by
  unfold readObject
  refine .skip fun entries =>
    .bind (yields_readProperties hextract entries) fun properties hproperties =>
    .bind (yields_readAdditional hextract _) fun additional hadditional =>
    .skip fun required => .skip fun part => .ok ?_
  rw [Schema.references]
  refine .append (fun node hnode => ?_) hadditional
  obtain ⟨property, hproperty, hnode⟩ := Schema.mem_referencesOfProperties.mp hnode
  obtain ⟨entry, hentry, hname⟩ := List.mem_filterMap.mp hproperty
  obtain ⟨name, -, rfl⟩ := Option.map_eq_some_iff.mp hname
  exact hproperties entry hentry node hnode

theorem yields_readOnlyMember (schema member : Value) :
    Yields (fun schema => AreNamed (Schema.referencesOfOptional schema))
      (readOnlyMember extract schema member) := by
  unfold readOnlyMember
  refine .bind (hextract member) fun inner hinner => ?_
  cases inner with
  | none => exact .ok .nil
  | some inner =>
    refine .ok ?_
    split
    · rw [Schema.referencesOfOptional, Schema.references_withInfo]
      exact hinner
    · exact hinner

theorem yields_readAllOf (schema : Value) (members : List Value) :
    Yields (fun schema => AreNamed (Schema.referencesOfOptional schema))
      (readAllOf extract schema members) := by
  unfold readAllOf
  split
  · exact .ok .nil
  · exact yields_readOnlyMember hextract schema _
  · split
    · refine .skip fun merged => ?_
      split
      · exact .map (yields_readObject hextract _ _ _) fun schema hschema => hschema
      · exact .ok .nil
    · exact .ok .nil

theorem yields_readByType (schema : Value) :
    Yields (fun schema => AreNamed schema.references) (readByType extract schema) := by
  unfold readByType
  dsimp only
  split
  · exact yields_readEnumeration _ schema
  · split
    · exact yields_readArray hextract schema
    · split
      · exact yields_readObject hextract schema _ _
      · exact yields_readPrimitive schema

theorem yields_readSchema (schema : Value) :
    Yields (fun schema => AreNamed (Schema.referencesOfOptional schema))
      (readSchema extract schema) := by
  unfold readSchema
  split
  · exact .map (yields_readReference _ schema) fun schema hschema => hschema
  · refine .bind (yields_readAllOf hextract schema _) fun merged hmerged => ?_
    cases merged with
    | some merged => exact .ok hmerged
    | none => exact .map (yields_readByType hextract schema) fun schema hschema => hschema

end Schema

/-- A schema that is read has references with the names that they end with, at any depth. -/
theorem yields_schema (value : Value) :
    Yields (fun schema => AreNamed (Schema.referencesOfOptional schema)) (schema value) := by
  have hwithin : ∀ depth value, Yields (fun schema => AreNamed (Schema.referencesOfOptional schema))
      (schemaWithin depth value) := by
    intro depth
    induction depth with
    | zero => exact fun value => .ok .nil
    | succ depth ih =>
      intro value
      rw [schemaWithin]
      split
      · exact yields_readSchema ih value
      · exact .ok .nil
  exact hwithin _ value

theorem yields_readParameter (parameter : Value) :
    Yields (fun parameter => AreNamed parameter.references) (readParameter parameter) := by
  unfold readParameter
  exact .skip fun _ => .skip fun place => .skip fun name => .skip fun value =>
    .bind (yields_schema value) fun schema hschema => .skip fun part => .ok hschema

theorem yields_readParameters (parameters : Value) :
    Yields (fun parameters => ∀ parameter ∈ parameters, AreNamed parameter.references)
      (readParameters parameters) := by
  unfold readParameters
  exact .skip fun items => .mapM fun parameter _ => yields_readParameter parameter

theorem yields_readMedia (entry : Value × Value) :
    Yields (fun media => AreNamed media.references) (readMedia entry) := by
  unfold readMedia
  exact .bind (yields_schema _) fun schema hschema => .ok hschema

theorem yields_readContent (content : Value) :
    Yields (fun content => ∀ media ∈ content, AreNamed media.references)
      (readContent content) := by
  unfold readContent
  exact .skip fun entries => .mapM fun entry _ => yields_readMedia entry

theorem yields_readBody (body : Value) :
    Yields (fun body => AreNamed body.references) (readBody body) := by
  unfold readBody
  exact .bind (yields_readContent _) fun content hcontent => .skip fun part =>
    .ok (AreNamed.flatMap hcontent)

theorem yields_readHeader (entry : Value × Value) :
    Yields (fun header => AreNamed header.references) (readHeader entry) := by
  unfold readHeader
  dsimp only
  split
  · exact .bind (yields_schema _) fun schema hschema => .skip fun part => .ok hschema
  · exact .ok .nil

theorem yields_readHeaders (headers : Value) :
    Yields (fun headers => ∀ header ∈ headers, AreNamed header.references)
      (readHeaders headers) := by
  unfold readHeaders
  exact .skip fun entries => .mapM fun entry _ => yields_readHeader entry

/-- The first schema among media types has references that are named if those of all have. -/
theorem areNamed_findSome? {content : List MediaEntry} {choose : MediaEntry → Option Schema}
    (hchoose : ∀ media schema, choose media = some schema → media.schema = some schema)
    (hcontent : ∀ media ∈ content, AreNamed media.references) :
    AreNamed (Schema.referencesOfOptional (content.findSome? choose)) := by
  cases hfound : content.findSome? choose with
  | none => exact .nil
  | some schema =>
    obtain ⟨media, hmedia, hschema⟩ := List.exists_of_findSome?_eq_some hfound
    have hnamed := hcontent media hmedia
    unfold MediaEntry.references at hnamed
    rwa [hchoose media schema hschema] at hnamed

theorem yields_primarySchema (response : Value) {content : List MediaEntry}
    (hcontent : ∀ media ∈ content, AreNamed media.references) :
    Yields (fun schema => AreNamed (Schema.referencesOfOptional schema))
      (primarySchema response content) := by
  unfold primarySchema
  dsimp only
  split
  · rename_i json hjson
    refine .ok (hjson ▸ areNamed_findSome? ?_ hcontent)
    intro media schema hschema
    split at hschema
    · exact hschema
    · cases hschema
  · refine .bind (yields_schema _) fun schema hschema => ?_
    cases schema with
    | some schema => exact .ok hschema
    | none => exact .ok (areNamed_findSome? (fun _ _ h => h) hcontent)

theorem yields_readResponse (status : String) (response : Value) :
    Yields (fun response => AreNamed response.references) (readResponse status response) := by
  unfold readResponse
  exact .bind (yields_readContent _) fun content hcontent => .skip fun code =>
    .bind (yields_primarySchema response hcontent) fun schema hschema =>
    .bind (yields_readHeaders _) fun headers hheaders => .skip fun part =>
    .ok ((hschema.append (.flatMap hcontent)).append (.flatMap hheaders))

theorem yields_readEntries {α : Type} {P : α → Prop} {read : String → Value → Except Fault α}
    (hread : ∀ name value, Yields P (read name value)) (table : List (Value × Value)) :
    Yields (fun entries => ∀ entry ∈ entries, P entry.2) (readEntries read table) := by
  unfold readEntries
  exact .mapM fun entry _ => .bind (hread _ _) fun part hpart => .ok hpart

theorem yields_readOperation (method path : String) (operation : Value) :
    Yields (fun operation => AreNamed operation.references)
      (readOperation method path operation) := by
  unfold readOperation
  dsimp only
  split
  · exact .error _
  · refine .skip fun responses => .skip fun tags => .bind (yields_readParameters _)
      fun parameters hparameters => ?_
    have hbody : Yields (fun body => AreNamed (body.toList.flatMap RequestBody.references))
        (some <$> readBody (fieldOrNull "requestBody" operation)) :=
      .map (yields_readBody _) fun body hbody => .flatMap (List.forall_mem_singleton.mpr hbody)
    have hnone : Yields (fun body => AreNamed (body.toList.flatMap RequestBody.references))
        (pure none : Except Fault (Option RequestBody)) := .ok .nil
    split
    · exact .bind hbody fun body hbody =>
        .bind (yields_readEntries yields_readResponse _) fun responses hresponses =>
        .skip fun security => .skip fun part =>
        .ok (((AreNamed.flatMap hparameters).append hbody).append (.flatMap_snd hresponses))
    · exact .bind hnone fun body hbody =>
        .bind (yields_readEntries yields_readResponse _) fun responses hresponses =>
        .skip fun security => .skip fun part =>
        .ok (((AreNamed.flatMap hparameters).append hbody).append (.flatMap_snd hresponses))

theorem yields_readPath (path : String) (item : Value) :
    Yields (fun path => AreNamed path.references) (readPath path item) := by
  unfold readPath
  dsimp only
  split
  · exact .error _
  · refine .bind (.mapM fun method _ => yields_readOperation method path _)
      fun operations hoperations =>
      .bind (yields_readParameters _) fun parameters hparameters => .skip fun part => .ok ?_
    exact (AreNamed.flatMap hoperations).append (.flatMap hparameters)

theorem yields_readPaths (document : Value) :
    Yields (fun paths => ∀ path ∈ paths, AreNamed path.references) (readPaths document) := by
  unfold readPaths
  exact .skip fun paths => .mapM fun path _ => yields_readPath _ _

/-! ### Components -/

/-- What is read as a schema is one exactly when it is an object. -/
theorem isSome_of_schemaWithin {depth : Nat} {value : Value} {schema? : Option Schema}
    (h : schemaWithin (depth + 1) value = .ok schema?) : schema?.isSome = value.isObject := by
  rw [schemaWithin] at h
  split at h
  · rename_i hobject
    rw [hobject]
    unfold readSchema at h
    split at h
    · obtain ⟨read, -, rfl⟩ := map_eq_ok.mp h
      rfl
    · obtain ⟨merged, -, h⟩ := bind_eq_ok.mp h
      cases merged with
      | some merged =>
        cases h
        rfl
      | none =>
        obtain ⟨read, -, rfl⟩ := map_eq_ok.mp h
        rfl
  · rename_i hobject
    cases h
    rw [Bool.not_eq_true] at hobject
    rw [hobject]
    rfl

theorem isSome_of_schema {value : Value} {schema? : Option Schema} (h : schema value = .ok schema?) :
    schema?.isSome = value.isObject :=
  isSome_of_schemaWithin h

theorem readSchemas_cons (name value : Value) (rest : List (Value × Value)) :
    readSchemas ((name, value) :: rest) =
      ((if isReference value then pure none else schema value) >>= fun schema? =>
        readSchemas rest >>= fun more => pure (match schema? with
          | some schema => (name.plain, schema) :: more
          | none => more)) := by
  rw [readSchemas]
  split <;> rfl

/-- Component schemas have references that are named. -/
theorem yields_readSchemas (table : List (Value × Value)) :
    Yields (fun schemas => ∀ entry ∈ schemas, AreNamed entry.2.references) (readSchemas table) := by
  induction table with
  | nil => exact .ok fun _ h => absurd h List.not_mem_nil
  | cons entry rest ih =>
    obtain ⟨name, value⟩ := entry
    rw [readSchemas_cons]
    have hvalue : Yields (fun schema => AreNamed (Schema.referencesOfOptional schema))
        (if isReference value then pure none else schema value) := by
      split
      · exact .ok .nil
      · exact yields_schema value
    refine .bind hvalue fun schema hschema => .bind ih fun more hmore => .ok ?_
    cases schema with
    | none => exact hmore
    | some schema => exact List.forall_mem_cons.mpr ⟨hschema, hmore⟩

/-- From an entry of a table a schema is read exactly when it is an element. -/
theorem isSome_of_readEntry {value : Value} {schema? : Option Schema}
    (h : (if isReference value then pure none else schema value) = Except.ok schema?) :
    schema?.isSome = isEntry value := by
  unfold isEntry
  split at h
  · rename_i href
    cases h
    rw [href]
    exact (Bool.and_false _).symm
  · rename_i href
    rw [isSome_of_schema h, Bool.eq_false_iff.mpr href]
    exact (Bool.and_true _).symm

/-- The component schemas are read from the elements of their table, none of which is left out. -/
theorem forall₂_of_readSchemas {table : List (Value × Value)} {schemas : List (String × Schema)}
    (h : readSchemas table = .ok schemas) :
    List.Forall₂ (fun element entry => entry.1 = element.1 ∧ schema element.2 = .ok (some entry.2))
      (elements table) schemas := by
  induction table generalizing schemas with
  | nil =>
    cases h
    exact .nil
  | cons entry rest ih =>
    obtain ⟨name, value⟩ := entry
    rw [readSchemas_cons] at h
    obtain ⟨schema?, hschema, h⟩ := bind_eq_ok.mp h
    obtain ⟨more, hmore, h⟩ := bind_eq_ok.mp h
    -- An entry without a schema is no element, so both lists go on alike.
    have hentry := isSome_of_readEntry hschema
    rw [elements_cons]
    cases schema? with
    | none =>
      cases h
      rw [← hentry, if_neg (by simp)]
      exact ih hmore
    | some read =>
      cases h
      have hvalue : schema value = .ok (some read) := by
        split at hschema
        · cases hschema
        · exact hschema
      rw [← hentry, if_pos Option.isSome_some]
      exact .cons ⟨rfl, hvalue⟩ (ih hmore)

theorem keys_readSchemas {table : List (Value × Value)} {schemas : List (String × Schema)}
    (h : readSchemas table = .ok schemas) :
    Entries.keys schemas = (elements table).map (·.1) := by
  have hread := forall₂_of_readSchemas h
  clear h
  generalize elements table = found at hread
  induction hread with
  | nil => rfl
  | cons hentry _ ih => exact congrArg₂ List.cons hentry.1 ih

/-- The names of component schemas are those of the entries that are objects and no references. -/
theorem mem_keys_readSchemas {table : List (Value × Value)} {schemas : List (String × Schema)}
    (h : readSchemas table = .ok schemas) (name : String) :
    name ∈ Entries.keys schemas ↔ ∃ entry ∈ table, entry.1.plain = name ∧ isEntry entry.2 = true := by
  rw [keys_readSchemas h, elements, List.map_map, List.mem_map]
  simp only [List.mem_filter, Function.comp_apply]
  refine exists_congr fun entry => ?_
  rw [and_assoc, and_comm (b := entry.1.plain = name)]

/-- The component schemas of a document, as they are read. -/
def componentTable (document : Value) : Except Fault (List (Value × Value)) := do
  let components := fieldOrNull "components" document
  entriesOrNone "items"
    (← getField "schemas" (if components.isTruthy then components else .object []))

/-- A document has a component schema under a name that is an object and no reference. -/
def HasComponent (document : Value) (name : String) : Prop :=
  ∃ table, componentTable document = .ok table ∧
    ∃ entry ∈ table, entry.1.plain = name ∧ isEntry entry.2 = true

theorem yields_readComponents (components : Value) :
    Yields (fun components => AreNamed components.references) (readComponents components) := by
  unfold readComponents
  dsimp only
  exact .skip fun schemaTable => .bind (yields_readSchemas _) fun schemas hschemas =>
    .skip fun responseTable =>
      .bind (yields_readEntries yields_readResponse _) fun responses hresponses =>
    .skip fun parameterTable =>
      .bind (yields_readEntries (fun _ => yields_readParameter) _) fun parameters hparameters =>
    .skip fun bodyTable =>
      .bind (yields_readEntries (fun _ => yields_readBody) _) fun bodies hbodies =>
    .ok ((((AreNamed.flatMap_snd hschemas).append (.flatMap_snd hresponses)).append
      (.flatMap_snd hparameters)).append (.flatMap_snd hbodies))

/-- The references of an API that is read have the names that they end with. -/
theorem yields_readApi (document : Value) :
    Yields (fun api => AreNamed api.references) (readApi document) := by
  unfold readApi
  exact .skip fun info => .skip fun servers => .bind (yields_readPaths document) fun paths hpaths =>
    .bind (yields_readComponents _) fun components hcomponents =>
    .skip fun security => .skip fun tags => .skip fun part =>
    .ok ((AreNamed.flatMap hpaths).append hcomponents)

/-- The component schemas of an API are read from those of its document. -/
theorem readSchemas_of_readApi {document : Value} {api : Api} (h : readApi document = .ok api) :
    ∃ table, componentTable document = .ok table ∧
      readSchemas table = .ok api.components.schemas := by
  have hcomponents := (readApi_ok h).components
  generalize api.components = components at hcomponents ⊢
  unfold readComponents at hcomponents
  dsimp only at hcomponents
  obtain ⟨table, htable, hcomponents⟩ := bind_eq_ok.mp hcomponents
  obtain ⟨schemas, hschemas, hcomponents⟩ := bind_eq_ok.mp hcomponents
  obtain ⟨_, -, hcomponents⟩ := bind_eq_ok.mp hcomponents
  obtain ⟨_, -, hcomponents⟩ := bind_eq_ok.mp hcomponents
  obtain ⟨_, -, hcomponents⟩ := bind_eq_ok.mp hcomponents
  obtain ⟨_, -, hcomponents⟩ := bind_eq_ok.mp hcomponents
  obtain ⟨_, -, hcomponents⟩ := bind_eq_ok.mp hcomponents
  obtain ⟨_, -, hcomponents⟩ := bind_eq_ok.mp hcomponents
  cases hcomponents
  exact ⟨table, htable, hschemas⟩

/-- A name is that of a component schema of an API exactly when its document has it. -/
theorem mem_keys_components_iff {document : Value} {api : Api} (h : readApi document = .ok api)
    (name : String) : name ∈ Entries.keys api.components.schemas ↔ HasComponent document name := by
  obtain ⟨table, htable, hschemas⟩ := readSchemas_of_readApi h
  rw [mem_keys_readSchemas hschemas]
  constructor
  · intro hentry
    exact ⟨table, htable, hentry⟩
  · rintro ⟨table', htable', hentry⟩
    cases htable.symm.trans htable'
    exact hentry

end Extraction

end ClientGen
