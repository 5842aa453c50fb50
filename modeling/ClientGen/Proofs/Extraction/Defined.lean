import ClientGen.Proofs.Extraction.References
import ClientGen.Proofs.Resolution.Residue

/-!
# Definitions of the schemas that code refers to

Generated code refers to a component schema by name, and declares the component schemas that were
extracted.  `Api.ReferencesDefined` says that every reference to a component schema is declared.  That
is so exactly when the bundled document has, under the name that each such reference ends with, a
component schema that is an object and no reference (`referencesDefined_iff`); it is not enough that
the pointer of the reference leads somewhere, since the name is not decoded like a pointer.

The components of a bundle are those of the document, unless they are references that a bundle
expands, so the same can be read off the document itself.
-/

namespace ClientGen

open Extraction

/-- Every reference to a component schema has its schema among the components, and code that
declares these declares the type to which the reference is mapped. -/
structure Api.ReferencesDefined (api : Api) : Prop where
  found : ∀ node ∈ api.references, Text.startsWith Resolution.linkLead node.1 = true →
    (api.lookup? node.1 node.2).isSome = true
  declared : ∀ declarations, Code.schemaDeclarations api = .ok declarations →
    ∀ node ∈ api.references, Text.startsWith Resolution.linkLead node.1 = true →
      ∃ declaration ∈ declarations, ∀ info,
        TypeExpr.ofSchema (.reference info node.1 node.2) =
          TypeExpr.orNull info.nullable (.named declaration.name)

/-! ### Declarations -/

/-- A declaration has the name of its component schema in capitals. -/
theorem name_of_schemaDeclaration {entry : String × Schema} {declaration : Code.Declaration}
    (h : Code.schemaDeclaration entry = .ok declaration) :
    declaration.name = Naming.pascal entry.1 := by
  unfold Code.schemaDeclaration at h
  dsimp only at h
  obtain ⟨comment, -, h⟩ := bind_eq_ok.mp h
  obtain ⟨checked, -, h⟩ := bind_eq_ok.mp h
  cases h
  rfl

/-- Every component schema is declared. -/
theorem exists_declaration {api : Api} {declarations : List Code.Declaration}
    (h : Code.schemaDeclarations api = .ok declarations) {name : String} {schema : Schema}
    (hschema : Entries.get? name api.components.schemas = some schema) :
    ∃ declaration ∈ declarations, declaration.name = Naming.pascal name := by
  obtain ⟨declaration, hmem, hdeclaration⟩ := exists_mem_of_mapM h (Entries.mem_of_get? hschema)
  exact ⟨declaration, hmem, name_of_schemaDeclaration hdeclaration⟩

/-- Component schemas that are found are declared. -/
theorem referencesDefined_of_found {api : Api}
    (hfound : ∀ node ∈ api.references, Text.startsWith Resolution.linkLead node.1 = true →
      (api.lookup? node.1 node.2).isSome = true) : api.ReferencesDefined where
  found := hfound
  declared declarations hdeclarations node hnode hlink := by
    obtain ⟨schema, hschema⟩ := Option.isSome_iff_exists.mp (hfound node hnode hlink)
    unfold Api.lookup? at hschema
    split at hschema
    · obtain ⟨declaration, hmem, hname⟩ := exists_declaration hdeclarations hschema
      refine ⟨declaration, hmem, fun info => ?_⟩
      rw [TypeExpr.ofSchema, hname]
    · cases hschema

/-- The references of an extracted API are defined exactly when the document has the components. -/
theorem referencesDefined_iff_hasComponent {file : String} {document : Value} {api : Api}
    (h : Api.extract file document = .ok api) :
    api.ReferencesDefined ↔
      ∀ node ∈ api.references, Text.startsWith Resolution.linkLead node.1 = true →
        HasComponent document (referenceName node.1) := by
  have hread := readApi_of_extract h
  have hlookup : ∀ node ∈ api.references, Text.startsWith Resolution.linkLead node.1 = true →
      ((api.lookup? node.1 node.2).isSome = true ↔
        HasComponent document (referenceName node.1)) := by
    intro node hnode hlink
    have hname := yields_readApi document api hread node hnode
    rw [← mem_keys_components_iff hread, ← hname]
    unfold Api.lookup?
    rw [show Text.startsWith "#/components/schemas/" node.1 = true from hlink, if_pos rfl,
      ← not_iff_not, ← Entries.get?_eq_none_iff]
    simp
  constructor
  · intro hdefined node hnode hlink
    exact (hlookup node hnode hlink).mp (hdefined.found node hnode hlink)
  · intro hcomponents
    exact referencesDefined_of_found fun node hnode hlink =>
      (hlookup node hnode hlink).mpr (hcomponents node hnode hlink)

/-! ### Components of documents and of bundles -/

/-- The fields of an object that is no reference. -/
def plainFields? : Value → Option (List (String × Value))
  | .object fields => if (Reference.ofFields? fields).isNone then some fields else none
  | _ => none

/-- The field of an object that is no reference. -/
def plainField? (name : String) (value : Value) : Option Value :=
  (plainFields? value).bind (Entries.get? name)

/-- The component schemas of a document whose components are no references. -/
def schemasOf? (document : Value) : Option (List (String × Value)) :=
  (plainField? "components" document).bind fun components =>
    (plainField? "schemas" components).bind plainFields?

theorem plainFields?_eq_some {value : Value} {fields : List (String × Value)} :
    plainFields? value = some fields ↔
      value = .object fields ∧ Reference.ofFields? fields = none := by
  unfold plainFields?
  split
  · split
    · rename_i hnone
      rw [Option.isNone_iff_eq_none] at hnone
      constructor
      · intro h
        cases h
        exact ⟨rfl, hnone⟩
      · rintro ⟨h, -⟩
        cases h
        rfl
    · rename_i hsome
      constructor
      · intro h
        cases h
      · rintro ⟨h, hnone⟩
        cases h
        rw [hnone] at hsome
        exact absurd rfl hsome
  · rename_i hobject
    constructor
    · intro h
      cases h
    · rintro ⟨rfl, -⟩
      exact absurd rfl (hobject fields)

theorem plainField?_eq_some {name : String} {value part : Value} :
    plainField? name value = some part ↔
      ∃ fields, value = .object fields ∧ Reference.ofFields? fields = none ∧
        Entries.get? name fields = some part := by
  unfold plainField?
  rw [Option.bind_eq_some_iff]
  simp only [plainFields?_eq_some, and_assoc]

theorem schemasOf?_eq_some {document : Value} {schemas : List (String × Value)} :
    schemasOf? document = some schemas ↔ ∃ components table,
      plainField? "components" document = some components ∧
        plainField? "schemas" components = some table ∧ plainFields? table = some schemas := by
  unfold schemasOf?
  simp only [Option.bind_eq_some_iff, exists_and_left]

theorem fieldOrNull_object (name : String) (fields : List (String × Value)) :
    fieldOrNull name (.object fields) = (Entries.get? name fields).getD .null := rfl

/-- The component schemas of a document are read where they are no references. -/
theorem hasComponent_iff {document : Value} {schemas : List (String × Value)}
    (h : schemasOf? document = some schemas) (name : String) :
    HasComponent document name ↔
      ∃ component, (name, component) ∈ schemas ∧ isEntry component = true := by
  obtain ⟨components, table, hcomponents, htable, hschemas⟩ := schemasOf?_eq_some.mp h
  obtain ⟨fields, rfl, -, hcomponents⟩ := plainField?_eq_some.mp hcomponents
  obtain ⟨parts, rfl, -, htable⟩ := plainField?_eq_some.mp htable
  obtain ⟨rfl, -⟩ := plainFields?_eq_some.mp hschemas
  have hread : componentTable (.object fields) =
      .ok (schemas.map fun field => (.str field.1, field.2)) := by
    have hnull : fieldOrNull "components" (.object fields) = .object parts := by
      rw [fieldOrNull_object, hcomponents]
      rfl
    have htruthy : (Value.object parts).isTruthy = true := by
      cases parts with
      | nil => cases htable
      | cons first rest => rfl
    have hfield : getField "schemas" (.object parts) = .ok (.object schemas) := by
      unfold getField
      rw [fieldOrNull_object, htable]
      rfl
    unfold componentTable
    dsimp only
    rw [hnull, if_pos htruthy, hfield]
    cases schemas <;> rfl
  constructor
  · rintro ⟨table, htable, entry, hentry, hname, hobject⟩
    cases hread.symm.trans htable
    obtain ⟨field, hfield, rfl⟩ := List.mem_map.mp hentry
    cases hname
    exact ⟨field.2, hfield, hobject⟩
  · rintro ⟨component, hmem, hobject⟩
    exact ⟨_, hread, _, List.mem_map.mpr ⟨_, hmem, rfl⟩, rfl, hobject⟩

namespace Resolution

section Bundle

variable {settings : Settings} {context : Context} {seen : List String}
  {value result : Value} {j k : Journal}

/-- The fields of an object that is no reference are resolved one by one, and it does not become a
reference. -/
theorem Resolves.plainFields?_eq_some {fields : List (String × Value)}
    (h : Resolves settings context seen value j result k)
    (hvalue : Reference.keysHoldNone value = true) (hplain : plainFields? value = some fields) :
    ∃ resolved, plainFields? result = some resolved ∧
      ResolvesFields settings context seen fields j resolved k := by
  obtain ⟨rfl, hnone⟩ := ClientGen.plainFields?_eq_some.mp hplain
  cases h with
  | atom hatom => cases hatom
  | object href hfields =>
    refine ⟨_, ClientGen.plainFields?_eq_some.mpr ⟨rfl, ?_⟩, hfields⟩
    exact hfields.each.ofFields?_eq_none hnone (Value.test_of_everyObject hvalue)
  | kept href | replaced href | overlaid href =>
    rw [hnone] at href
    cases href

theorem Resolves.plainField?_eq_some {name : String} {part : Value}
    (h : Resolves settings context seen value j result k)
    (hvalue : Reference.keysHoldNone value = true) (hpart : plainField? name value = some part) :
    Reference.keysHoldNone part = true ∧ ∃ part' j' k', plainField? name result = some part' ∧
      Resolves settings context seen part j' part' k' := by
  obtain ⟨fields, hfields, hget⟩ := Option.bind_eq_some_iff.mp hpart
  obtain ⟨resolved, hresolved, hturn⟩ := h.plainFields?_eq_some hvalue hfields
  obtain ⟨rfl, -⟩ := ClientGen.plainFields?_eq_some.mp hfields
  obtain ⟨part', j', k', hget', hresolves⟩ := hturn.each.get?_eq_some hget
  exact ⟨(Value.inherited_everyObject _).field hvalue (Entries.mem_of_get? hget), part', j', k',
    Option.bind_eq_some_iff.mpr ⟨resolved, hresolved, hget'⟩, hresolves⟩

/-- The component schemas of a resolved document are those of the document, resolved one by one. -/
theorem Resolves.schemasOf?_eq_some {schemas : List (String × Value)}
    (h : Resolves settings context seen value j result k)
    (hvalue : Reference.keysHoldNone value = true) (hschemas : schemasOf? value = some schemas) :
    Reference.keysHoldNone (.object schemas) = true ∧ ∃ resolved j' k',
      schemasOf? result = some resolved ∧
        InTurn (ResolvesField settings context seen) schemas j' resolved k' := by
  obtain ⟨components, table, hcomponents, htable, hschemas⟩ :=
    ClientGen.schemasOf?_eq_some.mp hschemas
  obtain ⟨hholds, components', _, _, hcomponents', hresolves⟩ :=
    h.plainField?_eq_some hvalue hcomponents
  obtain ⟨hholds, table', _, _, htable', hresolves⟩ := hresolves.plainField?_eq_some hholds htable
  obtain ⟨resolved, hresolved, hturn⟩ := hresolves.plainFields?_eq_some hholds hschemas
  obtain ⟨rfl, -⟩ := ClientGen.plainFields?_eq_some.mp hschemas
  exact ⟨hholds, resolved, _, _, ClientGen.schemasOf?_eq_some.mpr
    ⟨components', table', hcomponents', htable', hresolved⟩, hturn.each⟩

/-- A reference that a bundle keeps: a link, or one to another document. -/
def StaysInBundle (ref : String) : Prop :=
  Text.startsWith linkLead ref = true ∨ localPointer? ref = none

/-- A reference that stays leads nowhere. -/
theorem StaysInBundle.not_leads {ref identity : String} {inner : Context} {target : Value}
    (hstays : StaysInBundle ref) (hbundle : settings.external = false) (hurl : context.url = none) :
    ¬Leads settings context seen ref j identity inner target k := by
  intro hleads
  cases hleads with
  | here hpointer hlink =>
    unfold isLink at hlink
    rw [hurl, hbundle] at hlink
    rcases hstays with hlead | hnone
    · rw [hlead] at hlink
      cases hlink
    · rw [hpointer] at hnone
      cases hnone
  | elsewhere _ hexternal =>
    rw [hbundle] at hexternal
    cases hexternal

/-- In a bundle a value becomes an object that is no reference only if it is one, unless it is a
reference that is expanded. -/
theorem Resolves.isEntry_eq (hbundle : settings.external = false) (hurl : context.url = none)
    (h : Resolves settings context seen value j result k)
    (hvalue : Reference.keysHoldNone value = true)
    (hstays : ∀ ref, Reference.of? value = some ref → StaysInBundle ref) :
    isEntry result = isEntry value := by
  cases h with
  | atom | kept => rfl
  | list => rfl
  | object href hfields =>
    have hnew := hfields.each.ofFields?_eq_none href (Value.test_of_everyObject hvalue)
    unfold isEntry isReference
    rw [Reference.of?, Reference.of?, href, hnew]
    rfl
  | replaced href hleads | overlaid href hleads =>
    exact absurd hleads ((hstays _ href).not_leads hbundle hurl)

end Bundle

end Resolution

section Document

variable {options : ResolutionOptions} {fetcher : Net.Fetcher} {file : String} {content : Value}
  {r : Resolution} {api : Api}

/-- A bundle has the component schemas that are objects and no references in the document, where no
other component schema is a reference that is expanded. -/
theorem hasComponent_resolved_iff (hbundle : options.external = false)
    (hrun : (Resolution.resolve options fetcher file content).outcome = .ok r)
    (hcontent : Reference.keysHoldNone content = true) {schemas : List (String × Value)}
    (hschemas : schemasOf? content = some schemas)
    (hstays : ∀ entry ∈ schemas, ∀ ref, Reference.of? entry.2 = some ref →
      Resolution.StaysInBundle ref) (name : String) :
    HasComponent r.resolved name ↔
      ∃ component, (name, component) ∈ schemas ∧ isEntry component = true := by
  obtain ⟨k, hresolves, -⟩ := Resolution.resolves_of_resolveWithin hrun
  obtain ⟨hholds, resolved, _, _, hresolved, hturn⟩ :=
    hresolves.schemasOf?_eq_some hcontent hschemas
  have hentry : ∀ field ∈ schemas, ∀ {j result k},
      Resolution.ResolvesField (options.settings fetcher) ⟨content, none⟩ [] field j result k →
      isEntry result.2 = isEntry field.2 := fun field hfield _ _ _ hresult =>
    hresult.2.isEntry_eq hbundle rfl ((Value.inherited_everyObject _).field hholds hfield)
      (hstays field hfield)
  rw [hasComponent_iff hresolved]
  constructor
  · rintro ⟨component, hmem, hobject⟩
    obtain ⟨⟨key, value⟩, hfield, _, _, hresult⟩ := hturn.exists_of_mem hmem
    have hsame := hentry _ hfield hresult
    obtain ⟨rfl, -⟩ := hresult
    exact ⟨value, hfield, hsame ▸ hobject⟩
  · rintro ⟨component, hmem, hobject⟩
    obtain ⟨⟨key, value⟩, hresolved, _, _, hresult⟩ := hturn.exists_result hmem
    have hsame := hentry _ hmem hresult
    obtain ⟨rfl, -⟩ := hresult
    exact ⟨value, hresolved, hsame ▸ hobject⟩

/-- **References to component schemas are defined exactly when** the bundle has component schemas
under the names that they end with which are objects and no references; unless a component schema is
a reference that is expanded, exactly when the document has. -/
theorem referencesDefined_iff (hbundle : options.external = false)
    (hrun : (Resolution.resolve options fetcher file content).outcome = .ok r)
    (hextract : Api.extract file r.resolved = .ok api) :
    (api.ReferencesDefined ↔
      ∀ node ∈ api.references, Text.startsWith Resolution.linkLead node.1 = true →
        HasComponent r.resolved (referenceName node.1)) ∧
    ∀ schemas, Reference.keysHoldNone content = true → schemasOf? content = some schemas →
      (∀ entry ∈ schemas, ∀ ref, Reference.of? entry.2 = some ref → Resolution.StaysInBundle ref) →
      (api.ReferencesDefined ↔
        ∀ node ∈ api.references, Text.startsWith Resolution.linkLead node.1 = true →
          ∃ component, (referenceName node.1, component) ∈ schemas ∧ isEntry component = true) := by
  refine ⟨referencesDefined_iff_hasComponent hextract, fun schemas hcontent hschemas hstays => ?_⟩
  simp only [referencesDefined_iff_hasComponent hextract,
    hasComponent_resolved_iff hbundle hrun hcontent hschemas hstays]

end Document

/-- A document in which the pet of an owner refers to a component with a blank in its name. -/
def petStore (ref : String) : Value :=
  .object
    [("openapi", .str "3.0.3"),
      ("info", .object [("title", .str "Pets"), ("version", .str "1")]),
      ("paths", .object []),
      ("components", .object [("schemas", .object
        [("My Pet", .object [("type", .str "object")]),
          ("Owner", .object [("type", .str "object"), ("properties", .object
            [("pet", .object [("$ref", .str ref)])])])])])]

/-- The references of the API that is extracted from a document, and whether a reference is found. -/
def look (document : Value) (ref : String) : Option (List (String × String) × Bool) :=
  (Api.extract "" document).toOption.map fun api =>
    (api.references, (api.lookup? ref (referenceName ref)).isSome)

theorem exists_extract_of_look {document : Value} {ref : String}
    {nodes : List (String × String)} {found : Bool} (h : look document ref = some (nodes, found)) :
    ∃ api, Api.extract "" document = .ok api ∧ api.references = nodes ∧
      (api.lookup? ref (referenceName ref)).isSome = found := by
  obtain ⟨api, hextract, hpair⟩ := exists_ok_of_map_toOption h
  exact ⟨api, hextract, congrArg Prod.fst hpair, congrArg Prod.snd hpair⟩

/-- The reference is defined when the blank is written as it is. -/
theorem referencesDefined_petStore :
    ∃ r api,
      (Resolution.resolve {} Resolution.unserved ""
        (petStore "#/components/schemas/My Pet")).outcome = .ok r ∧
      Api.extract "" r.resolved = .ok api ∧ api.ReferencesDefined := by
  have hrun : (Resolution.resolve {} Resolution.unserved ""
      (petStore "#/components/schemas/My Pet")).outcome =
      .ok ⟨"", petStore "#/components/schemas/My Pet", ["#/components/schemas/My Pet"], [],
        ["#/components/schemas/My Pet"], []⟩ := rfl
  have hlook : look (petStore "#/components/schemas/My Pet") "#/components/schemas/My Pet" =
      some ([("#/components/schemas/My Pet", "My Pet")], true) := by decide +kernel
  have hname : referenceName "#/components/schemas/My Pet" = "My Pet" := by decide +kernel
  obtain ⟨api, hextract, hreferences, -⟩ := exists_extract_of_look hlook
  refine ⟨_, api, hrun, hextract, ((referencesDefined_iff rfl hrun hextract).2 _ rfl rfl ?_).mpr ?_⟩
  · intro entry hentry ref href
    rcases List.mem_cons.mp hentry with rfl | hentry
    · cases href
    · rw [List.mem_singleton.mp hentry] at href
      cases href
  · rw [hreferences]
    intro node hnode _
    rw [List.mem_singleton.mp hnode, hname]
    exact ⟨_, List.mem_cons_self, rfl⟩

/-- A reference that spells the blank with a percent escape leads to the component and is kept as a
link, but its schema is not found. -/
theorem not_referencesDefined_petStore :
    ∃ r api,
      (Resolution.resolve {} Resolution.unserved ""
        (petStore "#/components/schemas/My%20Pet")).outcome = .ok r ∧
      r.linked = ["#/components/schemas/My%20Pet"] ∧ Api.extract "" r.resolved = .ok api ∧
      api.references = [("#/components/schemas/My%20Pet", "My%20Pet")] ∧
      (api.lookup? "#/components/schemas/My%20Pet" "My%20Pet").isSome = false ∧
      ¬api.ReferencesDefined := by
  have hrun : (Resolution.resolve {} Resolution.unserved ""
      (petStore "#/components/schemas/My%20Pet")).outcome =
      .ok ⟨"", petStore "#/components/schemas/My%20Pet", ["#/components/schemas/My%20Pet"], [],
        ["#/components/schemas/My%20Pet"], []⟩ := rfl
  have hlook : look (petStore "#/components/schemas/My%20Pet") "#/components/schemas/My%20Pet" =
      some ([("#/components/schemas/My%20Pet", "My%20Pet")], false) := by decide +kernel
  have hname : referenceName "#/components/schemas/My%20Pet" = "My%20Pet" := by decide +kernel
  obtain ⟨api, hextract, hreferences, hfound⟩ := exists_extract_of_look hlook
  rw [hname] at hfound
  refine ⟨_, api, hrun, rfl, hextract, hreferences, hfound, fun hdefined => ?_⟩
  have hmem : ("#/components/schemas/My%20Pet", "My%20Pet") ∈ api.references := by
    rw [hreferences]
    exact List.mem_singleton_self _
  rw [hdefined.found _ hmem rfl] at hfound
  cases hfound

end ClientGen
