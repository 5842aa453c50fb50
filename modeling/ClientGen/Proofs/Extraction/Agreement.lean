import ClientGen.Proofs.Extraction.Schemas
import ClientGen.Proofs.Validation

/-!
# Documents that the grammar accepts are read

Each reader of a part of a document succeeds on what the grammar accepts at the place of that part,
unless it has a conflict.  The lemmas follow the readers, from parameters to the whole document
(`succeeds_readApi`).  What is read from a document depends on the tiers before the grammar only in
the title, the version and the paths (`IsBasic`).
-/

namespace ClientGen.Extraction

open OpenApi (Element optional optionalAlias required tableOf text orReference)
open Shape (Accepts Fits IsText itemsIn entriesIn valueAt?)

/-- An element with a name and a description is read as a part that has the two. -/
theorem exists_described (part : Part) (name : String) {element : Element} {value : Value}
    (h : Conforms (.record element) value) (hname : required name text ∈ element.members)
    (hdescription : optional "description" text ∈ element.members)
    (hmembers : part.members =
      [Part.member name Part.text, Part.member "description" Part.textOrNull]) :
    ∃ named, field name value = .ok named ∧
      Succeeds (part.read [(name, named), ("description", fieldOrNull "description" value)]) := by
  obtain ⟨named, hfield, htext⟩ := exists_field h hname
  have hsuits : Suits part.members
      [(name, named), ("description", fieldOrNull "description" value)] :=
    hmembers ▸ .cons ⟨rfl, takes_text htext⟩
      (.cons ⟨rfl, takes_textOrNull (conforms_optional h hdescription)⟩ .nil)
  exact ⟨named, hfield, succeeds_read hsuits⟩

/-! ### Parameters -/

theorem isEntry_eq {value : Value} (h : value.isObject = true) :
    isEntry value = !isReference value := by
  rw [isEntry, h, Bool.true_and]

/-- The word for a place is read as that place. -/
theorem succeeds_readPlace {place : Value}
    (h : Conforms (.word ["query", "header", "path", "cookie"]) place) :
    Succeeds (readPlace place) := by
  obtain ⟨s, rfl, hmem⟩ := h.word
  simp only [List.mem_cons, List.not_mem_nil, or_false] at hmem
  rcases hmem with rfl | rfl | rfl | rfl
  · exact ⟨.query, rfl⟩
  · exact ⟨.header, rfl⟩
  · exact ⟨.path, rfl⟩
  · exact ⟨.cookie, rfl⟩

/-- The schema of a parameter is its own or one of its media types. -/
theorem exists_parameterSchema {parameter : Value} (h : Conforms (.record .parameter) parameter) :
    ∃ schema, parameterSchema parameter = .ok schema ∧ IsSchemaLike schema := by
  unfold parameterSchema
  cases hschema : parameter.field? "schema" with
  | some schema =>
    have hfield : Conforms (.nullable (orReference .schema)) (fieldOrNull "schema" parameter) :=
      conforms_alias "schema_" h (by simp [Element.members])
    unfold fieldOrNull at hfield
    rw [hschema] at hfield
    exact ⟨schema, rfl, isSchemaLike_of_orReference hfield⟩
  | none =>
    have hcontent : Conforms (.nullable (tableOf (.record .mediaType)))
        (fieldOrNull "content" parameter) := conforms_optional h (by simp [Element.members])
    obtain ⟨hentries, heach⟩ := entriesOrNone_of_conforms "values" hcontent
    dsimp only
    rw [hentries]
    refine ⟨_, rfl, ?_⟩
    cases hfound : (entriesIn (fieldOrNull "content" parameter)).findSome? fun entry =>
        entry.2.field? "schema" with
    | none =>
      intro hobject
      cases hobject
    | some schema =>
      obtain ⟨entry, hentry, hfield⟩ := List.exists_of_findSome?_eq_some hfound
      have hmedia : Conforms (.nullable (orReference .schema)) (fieldOrNull "schema" entry.2) :=
        conforms_alias "schema_" (heach entry hentry).2 (by simp [Element.members])
      unfold fieldOrNull at hmedia
      rw [hfield] at hmedia
      exact isSchemaLike_of_orReference hmedia

theorem succeeds_readParameter {parameter : Value} (hentry : isEntry parameter = true)
    (h : parameterConflicts parameter = []) : Succeeds (readParameter parameter) := by
  obtain ⟨hparameter, hinside⟩ := conforms_of_conflictsAt h hentry
  obtain ⟨hplace, hconflicts⟩ := List.append_eq_nil_iff.mp hinside
  obtain ⟨name, hname, hpart⟩ := exists_described .parameter "name" hparameter
    (by simp [Element.members]) (by simp [Element.members]) rfl
  obtain ⟨schema, hschema, hlike⟩ := exists_parameterSchema hparameter
  cases hin : valueAt? "in" parameter with
  | none =>
    rw [hin] at hplace
    cases hplace
  | some place =>
    have hword : Conforms (.word ["query", "header", "path", "cookie"]) place :=
      hparameter.member
        (OpenApi.requiredAlias "in" "in_" (.word ["query", "header", "path", "cookie"]))
        (by simp [Element.grammar, Element.members]) hin
    rw [hschema] at hconflicts
    unfold readParameter
    exact .step (field_eq_ok.mpr hin) <| .bind (succeeds_readPlace hword) fun place _ =>
      .step hname <| .step hschema <| .bind (succeeds_schema hlike hconflicts) fun schema _ =>
      .bind hpart fun part _ => .ok _

theorem succeeds_readParameters {parameters : Value}
    (hparameters : Conforms (.nullable (.list (orReference .parameter))) parameters)
    (h : (itemsIn parameters).flatMap parameterConflicts = []) :
    Succeeds (readParameters parameters) := by
  obtain ⟨hitems, heach⟩ := itemsOrNone_of_conforms hparameters
  unfold readParameters
  refine .step hitems <| .mapM fun parameter hparameter => ?_
  obtain ⟨hmem, hreference⟩ := List.mem_filter.mp hparameter
  have hentry : isEntry parameter = true := by
    rw [isEntry_eq (isObject_of_orReference (heach parameter hmem))]
    exact hreference
  exact succeeds_readParameter hentry (List.flatMap_eq_nil_iff.mp h parameter hmem)

/-! ### Bodies and responses -/

theorem succeeds_readContent {content : Value}
    (hcontent : Conforms (.nullable (tableOf (.record .mediaType))) content)
    (h : contentConflicts content = []) : Succeeds (readContent content) := by
  obtain ⟨hentries, heach⟩ := entriesOrNone_of_conforms "items" hcontent
  unfold readContent
  refine .step hentries <| .mapM fun entry hentry => ?_
  obtain ⟨-, hmedia⟩ := heach entry hentry
  have hschema : Conforms (.nullable (orReference .schema)) (fieldOrNull "schema" entry.2) :=
    conforms_alias "schema_" hmedia (by simp [Element.members])
  unfold readMedia
  dsimp only
  rw [if_pos hmedia.isObject]
  exact .bind (succeeds_schema (isSchemaLike_of_orReference hschema)
    (List.flatMap_eq_nil_iff.mp h entry hentry)) fun schema _ => .ok _

theorem succeeds_readBody {body : Value} (hentry : isEntry body = true)
    (h : bodyConflicts body = []) : Succeeds (readBody body) := by
  obtain ⟨hbody, hinside⟩ := conforms_of_conflictsAt h hentry
  have hcontent : Conforms (.nullable (tableOf (.record .mediaType)))
      (fieldOrNull "content" body) := conforms_required hbody (by simp [Element.members])
  have hdescription : Conforms (.nullable text) (fieldOrNull "description" body) :=
    conforms_optional hbody (by simp [Element.members])
  unfold readBody
  exact .bind (succeeds_readContent hcontent hinside) fun content _ =>
    .bind (succeeds_read (.cons ⟨rfl, takes_textOrNull hdescription⟩ .nil)) fun part _ => .ok _

theorem succeeds_readHeader {entry : Value × Value} (h : headerConflicts entry.2 = []) :
    Succeeds (readHeader entry) := by
  unfold readHeader
  dsimp only
  split
  · rename_i hentry
    obtain ⟨hheader, hinside⟩ := conforms_of_conflictsAt h hentry
    have hschema : Conforms (.nullable (orReference .schema)) (fieldOrNull "schema" entry.2) :=
      conforms_alias "schema_" hheader (by simp [Element.members])
    have hdescription : Conforms (.nullable text) (fieldOrNull "description" entry.2) :=
      conforms_optional hheader (by simp [Element.members])
    exact .bind (succeeds_schema (isSchemaLike_of_orReference hschema) hinside) fun schema _ =>
      .bind (succeeds_read (.cons ⟨rfl, Shape.accepts_text rfl (Nat.zero_le _)⟩
        (.cons ⟨rfl, takes_textOrNull hdescription⟩ .nil))) fun part _ => .ok _
  · exact .ok _

theorem succeeds_readHeaders {headers : Value}
    (hheaders : Conforms (.nullable (tableOf (orReference .header))) headers)
    (h : ((entriesIn headers).flatMap fun entry => headerConflicts entry.2) = []) :
    Succeeds (readHeaders headers) := by
  obtain ⟨hentries, -⟩ := entriesOrNone_of_conforms "items" hheaders
  unfold readHeaders
  exact .step hentries <| .mapM fun entry hentry =>
    succeeds_readHeader (List.flatMap_eq_nil_iff.mp h entry hentry)

/-- A schema at which the grammar does not look is read when it has no conflicts. -/
theorem succeeds_schema_of_ownSchemaConflicts {value : Value} (h : ownSchemaConflicts value = []) :
    Succeeds (schema value) := by
  unfold ownSchemaConflicts at h
  split at h
  · cases h
  · rename_i hown
    refine succeeds_schema (fun hobject => ?_) h
    by_cases hreference : isReference value = true
    · rw [hreference, Bool.true_and] at hown
      by_cases helement : isElement .reference value = true
      · exact Or.inl (conforms_of_isElement helement)
      · right
        apply conforms_of_isElement
        simpa [helement] using hown
    · right
      refine conforms_of_schemaConflictsWithin h ?_
      rw [isEntry_eq hobject]
      simpa using hreference

theorem succeeds_primarySchema {response : Value} (content : List MediaEntry)
    (h : ownSchemaConflicts (fieldOrNull "schema" response) = []) :
    Succeeds (primarySchema response content) := by
  unfold primarySchema
  dsimp only
  split
  · exact .ok _
  · refine .bind (succeeds_schema_of_ownSchemaConflicts h) fun schema? _ => ?_
    cases schema? <;> exact .ok _

theorem succeeds_readResponse {key : String} {response : Value} (hentry : isEntry response = true)
    (h : responseConflicts key response = []) : Succeeds (readResponse key response) := by
  obtain ⟨hresponse, hinside⟩ := conforms_of_conflictsAt h hentry
  simp only [List.append_eq_nil_iff] at hinside
  obtain ⟨⟨⟨hstatus, hcontentConflicts⟩, hown⟩, hheaderConflicts⟩ := hinside
  have hcontent : Conforms (.nullable (tableOf (.record .mediaType)))
      (fieldOrNull "content" response) := conforms_optional hresponse (by simp [Element.members])
  have hheaders : Conforms (.nullable (tableOf (orReference .header)))
      (fieldOrNull "headers" response) := conforms_optional hresponse (by simp [Element.members])
  have hdescription : Conforms (.nullable text) (fieldOrNull "description" response) :=
    conforms_required hresponse (by simp [Element.members])
  have hcode : Succeeds (statusCode key) := by
    unfold statusConflicts at hstatus
    split at hstatus
    · rename_i code hcode
      exact ⟨code, hcode⟩
    · cases hstatus
  have htext : Takes Part.text (if (fieldOrNull "description" response).isTruthy then
      fieldOrNull "description" response else .str "") := by
    split
    · rename_i htruthy
      exact takes_text (conforms_of_ne_null hdescription (ne_null_of_isTruthy htruthy))
    · exact Shape.accepts_text rfl (Nat.zero_le _)
  unfold readResponse
  exact .bind (succeeds_readContent hcontent hcontentConflicts) fun content _ =>
    .bind hcode fun code _ => .bind (succeeds_primarySchema content hown) fun schema _ =>
    .bind (succeeds_readHeaders hheaders hheaderConflicts) fun headers _ =>
    .bind (succeeds_read (.cons ⟨rfl, htext⟩ .nil)) fun part _ => .ok _

theorem succeeds_readEntries {α : Type} {read : String → Value → Except Fault α}
    {table : List (Value × Value)}
    (h : ∀ entry ∈ table, isEntry entry.2 = true → Succeeds (read entry.1.plain entry.2)) :
    Succeeds (readEntries read table) := by
  unfold readEntries
  refine .mapM fun entry hmem => ?_
  obtain ⟨hmem, hentry⟩ := List.mem_filter.mp hmem
  exact .bind (h entry hmem hentry) fun part _ => .ok _

/-! ### Requirements -/

theorem takes_objectOf {shape : Shape Part} {entries : List (Value × Value)}
    (h : ∀ entry ∈ entries, IsText entry.1 ∧ Takes shape entry.2) :
    Takes (.table .free shape) (objectOf entries) := by
  have hall : (entries.all fun entry => entry.1.str?.isSome) = true := by
    rw [List.all_eq_true]
    intro entry hentry
    obtain ⟨⟨name, hname⟩, -⟩ := h entry hentry
    rw [hname]
    rfl
  unfold objectOf
  rw [if_pos hall]
  refine Shape.accepts_table rfl fun entry hentry => ?_
  obtain ⟨field, hfield, rfl⟩ := List.mem_map.mp hentry
  obtain ⟨⟨key, value⟩, hmem, hname⟩ := List.mem_filterMap.mp hfield
  obtain ⟨name, -, rfl⟩ := Option.map_eq_some_iff.mp hname
  exact ⟨⟨name, rfl⟩, (h _ hmem).2⟩

/-- A requirement is read, and a part takes it. -/
theorem exists_readRequirement {requirement : Value}
    (h : Conforms (tableOf (.list text)) requirement) :
    ∃ read, readRequirement requirement = .ok read ∧
      Takes (.table .free (.tuple Part.text)) read := by
  obtain ⟨hobject, heach⟩ := h.entries
  have hscopes : ((entriesIn requirement).mapM fun scheme => do
      return (scheme.1, Value.list (← itemsOrNone scheme.2)) : Except Fault _) =
        .ok ((entriesIn requirement).map fun scheme => (scheme.1, .list (itemsIn scheme.2))) := by
    refine mapM_eq_ok_map fun scheme hscheme => ?_
    rw [(itemsOrNone_of_conforms (heach scheme hscheme).2.toNullable).1]
    rfl
  unfold readRequirement
  rw [entries_of_isObject "items" hobject]
  refine ⟨_, bind_eq_ok.mpr ⟨_, rfl, bind_eq_ok.mpr ⟨_, hscopes, rfl⟩⟩, takes_objectOf ?_⟩
  intro entry hentry
  obtain ⟨scheme, hscheme, rfl⟩ := List.mem_map.mp hentry
  obtain ⟨hname, htexts⟩ := heach scheme hscheme
  exact ⟨hname, takes_list fun scope hscope =>
    takes_text ((itemsOrNone_of_conforms htexts.toNullable).2 scope hscope)⟩

theorem exists_readRequirements {requirements : Value}
    (h : Conforms (.nullable (.list (tableOf (.list text)))) requirements) :
    ∃ read, readRequirements requirements = .ok read ∧ Takes Part.security read := by
  obtain ⟨hitems, heach⟩ := itemsOrNone_of_conforms h
  obtain ⟨read, hread⟩ : Succeeds ((itemsIn requirements).mapM readRequirement) :=
    .mapM fun requirement hrequirement => by
      obtain ⟨read, hread, -⟩ := exists_readRequirement (heach requirement hrequirement)
      exact ⟨read, hread⟩
  unfold readRequirements
  refine ⟨.list read, bind_eq_ok.mpr ⟨_, hitems, bind_eq_ok.mpr ⟨_, hread, rfl⟩⟩, takes_list ?_⟩
  intro value hvalue
  obtain ⟨requirement, hrequirement, hresult⟩ := exists_of_mem_mapM hread hvalue
  obtain ⟨read, hread, htakes⟩ := exists_readRequirement (heach requirement hrequirement)
  cases hresult.symm.trans hread
  exact htakes

/-! ### Operations and paths -/

theorem fieldOrNull_of_field {name : String} {fields : List (String × Value)} {part : Value}
    (h : field name (.object fields) = .ok part) : fieldOrNull name (.object fields) = part := by
  rw [field_eq_ok] at h
  exact congrArg (fun found : Option Value => found.getD .null) h

theorem succeeds_readOperation {method path : String} {fields : List (String × Value)}
    (hoperation : Conforms (.record .operation) (.object fields))
    (h : operationConflicts (.object fields) = []) :
    Succeeds (readOperation method path (.object fields)) := by
  unfold operationConflicts at h
  simp only [List.append_eq_nil_iff] at h
  obtain ⟨⟨hparameterConflicts, hbodyConflicts⟩, hresponseConflicts⟩ := h
  have hparameters : Conforms (.nullable (.list (orReference .parameter)))
      (fieldOrNull "parameters" (.object fields)) :=
    conforms_optional hoperation (by simp [Element.members])
  have htags : Conforms (.nullable (.list text)) (fieldOrNull "tags" (.object fields)) :=
    conforms_optional hoperation (by simp [Element.members])
  have hsecurity : Conforms (.nullable (.list (tableOf (.list text))))
      (fieldOrNull "security" (.object fields)) :=
    conforms_optional hoperation (by simp [Element.members])
  have hid : Conforms (.nullable text) (fieldOrNull "operationId" (.object fields)) :=
    conforms_alias "operation_id" hoperation (by simp [Element.members])
  have hsummary : Conforms (.nullable text) (fieldOrNull "summary" (.object fields)) :=
    conforms_optional hoperation (by simp [Element.members])
  have hdescription : Conforms (.nullable text) (fieldOrNull "description" (.object fields)) :=
    conforms_optional hoperation (by simp [Element.members])
  obtain ⟨responses, hresponses, htable⟩ : ∃ part, field "responses" (.object fields) = .ok part ∧
      Conforms (tableOf (orReference .response)) part :=
    exists_field hoperation (by simp [Element.members])
  have hresponses := fieldOrNull_of_field hresponses
  have hlabel : ∀ label, responsesOf label (.object fields) = .ok (entriesIn responses) := by
    intro label
    unfold responsesOf
    dsimp only
    rw [hresponses, if_pos htable.entries.1, entries_of_isObject "items" htable.entries.1]
  obtain ⟨htagItems, htagTexts⟩ := itemsOrNone_of_conforms htags
  obtain ⟨security, hread, htakes⟩ := exists_readRequirements hsecurity
  rw [hresponses] at hresponseConflicts
  have hentries : Succeeds (readEntries readResponse (entriesIn responses)) :=
    succeeds_readEntries fun entry hentry hobject =>
      succeeds_readResponse hobject (List.flatMap_eq_nil_iff.mp hresponseConflicts entry hentry)
  have hpart : Succeeds (Part.operation.read
      [("operation_id", fieldOrNull "operationId" (.object fields)),
        ("summary", fieldOrNull "summary" (.object fields)),
        ("description", fieldOrNull "description" (.object fields)),
        ("tags", .list (itemsIn (fieldOrNull "tags" (.object fields)))), ("security", security)]) :=
    succeeds_read <| .cons ⟨rfl, takes_textOrNull hid⟩ <| .cons ⟨rfl, takes_textOrNull hsummary⟩ <|
      .cons ⟨rfl, takes_textOrNull hdescription⟩ <|
      .cons ⟨rfl, takes_list fun tag htag => takes_text (htagTexts tag htag)⟩ <|
      .cons ⟨rfl, htakes⟩ .nil
  unfold readOperation
  dsimp only [Value.isObject]
  refine .step (hlabel _) <| .step htagItems <|
    .bind (succeeds_readParameters hparameters hparameterConflicts) fun parameters _ => ?_
  split
  · rename_i hentry
    exact .bind (.map (succeeds_readBody hentry hbodyConflicts) _) fun body _ =>
      .bind hentries fun responses _ => .step hread <| .bind hpart fun part _ => .ok _
  · exact .step rfl <| .bind hentries fun responses _ => .step hread <|
      .bind hpart fun part _ => .ok _

/-- Each method of a path is a member that holds an operation. -/
theorem mem_members_of_mem_methods {method : String} (h : method ∈ methods) :
    optional method (.record .operation) ∈ Element.members .pathItem := by
  simp only [methods, List.mem_cons, List.not_mem_nil, or_false] at h
  rcases h with rfl | rfl | rfl | rfl | rfl | rfl | rfl | rfl <;> simp [Element.members]

theorem succeeds_readPath {path : String} {item : Value}
    (hitem : Conforms (.record .pathItem) item) (h : pathConflicts path item = []) :
    Succeeds (readPath path item) := by
  obtain ⟨hmethods, hparameterConflicts⟩ := List.append_eq_nil_iff.mp h
  have hparameters : Conforms (.nullable (.list (orReference .parameter)))
      (fieldOrNull "parameters" item) := conforms_optional hitem (by simp [Element.members])
  have hsummary : Conforms (.nullable text) (fieldOrNull "summary" item) :=
    conforms_optional hitem (by simp [Element.members])
  have hdescription : Conforms (.nullable text) (fieldOrNull "description" item) :=
    conforms_optional hitem (by simp [Element.members])
  have hoperations : Succeeds (readOperations path item) := by
    unfold readOperations
    refine .mapM fun method hmethod => ?_
    have hconflicts := List.flatMap_eq_nil_iff.mp hmethods method hmethod
    have hoperation : Conforms (.nullable (.record .operation)) (fieldOrNull method item) :=
      conforms_optional hitem (mem_members_of_mem_methods (List.mem_filter.mp hmethod).1)
    cases hvalue : fieldOrNull method item with
    | object fields =>
      rw [hvalue] at hoperation hconflicts
      exact succeeds_readOperation (conforms_of_ne_null hoperation (ne_null_of_isObject rfl))
        hconflicts
    | _ =>
      rw [hvalue] at hconflicts
      cases hconflicts
  unfold readPath
  rw [hitem.isObject]
  exact .bind hoperations fun operations _ =>
    .bind (succeeds_readParameters hparameters hparameterConflicts) fun parameters _ =>
    .bind (succeeds_read (.cons ⟨rfl, takes_textOrNull hsummary⟩
      (.cons ⟨rfl, takes_textOrNull hdescription⟩ .nil))) fun part _ => .ok _

/-! ### Documents -/

theorem succeeds_readSchemas {entries : List (Value × Value)}
    (h : ∀ entry ∈ entries, IsSchemaLike entry.2 ∧ schemaConflicts entry.2 = []) :
    Succeeds (readSchemas entries) := by
  induction entries with
  | nil => exact .ok _
  | cons entry rest ih =>
    obtain ⟨name, value⟩ := entry
    obtain ⟨⟨hlike, hconflicts⟩, hrest⟩ := List.forall_mem_cons.mp h
    rw [readSchemas]
    split
    · exact .step rfl <| .bind (ih hrest) fun more _ => .ok _
    · exact .bind (succeeds_schema hlike hconflicts) fun schema? _ =>
        .bind (ih hrest) fun more _ => .ok _

theorem succeeds_readComponents {components : Value}
    (hcomponents : Conforms (.record .components) components)
    (h : componentConflicts components = []) : Succeeds (readComponents components) := by
  unfold componentConflicts at h
  simp only [List.append_eq_nil_iff] at h
  obtain ⟨⟨⟨hschemaConflicts, hresponseConflicts⟩, hparameterConflicts⟩, hbodyConflicts⟩ := h
  have htable : ∀ {shape : Shape Element} {name : String},
      Conforms (.nullable (tableOf shape)) (fieldOrNull name components) →
        (do entriesOrNone "items" (← getField name components)) =
          .ok (entriesIn (fieldOrNull name components)) := by
    intro shape name hfield
    unfold getField
    rw [if_pos hcomponents.isObject]
    exact (entriesOrNone_of_conforms "items" hfield).1
  have hschemas : Conforms (.nullable (tableOf (orReference .schema)))
      (fieldOrNull "schemas" components) :=
    conforms_optional hcomponents (by simp [Element.members])
  have hresponses : Conforms (.nullable (tableOf (orReference .response)))
      (fieldOrNull "responses" components) :=
    conforms_optional hcomponents (by simp [Element.members])
  have hparameters : Conforms (.nullable (tableOf (orReference .parameter)))
      (fieldOrNull "parameters" components) :=
    conforms_optional hcomponents (by simp [Element.members])
  have hbodies : Conforms (.nullable (tableOf (orReference .requestBody)))
      (fieldOrNull "requestBodies" components) :=
    conforms_alias "request_bodies" hcomponents (by simp [Element.members])
  unfold readComponents
  dsimp only
  refine .step (htable hschemas) <| .bind (succeeds_readSchemas fun entry hentry => ⟨?_, ?_⟩)
    fun schemas _ => .step (htable hresponses) <| .bind (succeeds_readEntries ?_) fun responses _ =>
    .step (htable hparameters) <| .bind (succeeds_readEntries ?_) fun parameters _ =>
    .step (htable hbodies) <| .bind (succeeds_readEntries ?_) fun bodies _ => .ok _
  · exact isSchemaLike_of_orReference
      ((entriesOrNone_of_conforms "items" hschemas).2 entry hentry).2.toNullable
  · exact List.flatMap_eq_nil_iff.mp hschemaConflicts entry hentry
  · exact fun entry hentry hobject =>
      succeeds_readResponse hobject (List.flatMap_eq_nil_iff.mp hresponseConflicts entry hentry)
  · exact fun entry hentry hobject =>
      succeeds_readParameter hobject (List.flatMap_eq_nil_iff.mp hparameterConflicts entry hentry)
  · exact fun entry hentry hobject =>
      succeeds_readBody hobject (List.flatMap_eq_nil_iff.mp hbodyConflicts entry hentry)

theorem succeeds_readServers {document : Value} (h : Conforms (.record .document) document) :
    Succeeds (readServers document) := by
  have hservers : Conforms (.nullable (.list (.record .server))) (fieldOrNull "servers" document) :=
    conforms_optional h (by simp [Element.members])
  obtain ⟨hitems, heach⟩ := itemsOrNone_of_conforms hservers
  unfold readServers
  refine .step hitems <| .mapM fun server hserver => ?_
  obtain ⟨url, hurl, hpart⟩ := exists_described .server "url" (heach server hserver)
    (by simp [Element.members]) (by simp [Element.members]) rfl
  unfold readServer
  exact .step hurl <| .bind hpart fun part _ => .ok _

theorem succeeds_readTags {document : Value} (h : Conforms (.record .document) document) :
    Succeeds (readTags document) := by
  have htags : Conforms (.nullable (.list (.record .tag))) (fieldOrNull "tags" document) :=
    conforms_optional h (by simp [Element.members])
  obtain ⟨hitems, heach⟩ := itemsOrNone_of_conforms htags
  unfold readTags
  refine .step hitems <| .mapM fun tag htag => ?_
  obtain ⟨name, hname, hpart⟩ := exists_described .tag "name" (heach tag htag)
    (by simp [Element.members]) (by simp [Element.members]) rfl
  unfold readTag
  exact .step hname <| .bind hpart fun part _ => .ok _

/-- What the tiers before the grammar make sure of. -/
structure IsBasic (document : Value) : Prop where
  info : (fieldOrNull "info" document).isObject = true
  title : (fieldOrNull "title" (fieldOrNull "info" document)).str?.isSome = true
  version : (fieldOrNull "version" (fieldOrNull "info" document)).str?.isSome = true
  paths : (fieldOrNull "paths" document).isObject = true

theorem fieldOrNull_of_field? {name : String} {value part : Value}
    (h : value.field? name = some part) :
    fieldOrNull name value = part := by
  unfold fieldOrNull
  rw [h]
  rfl

theorem isBasic_of_basicIssues {document : Value} (h : basicIssues document = []) :
    IsBasic document := by
  obtain ⟨-, ⟨info, hinfo, hobject, ⟨title, htitle⟩, version, hversion⟩,
      ⟨paths, hpaths, htable⟩, -⟩ :=
    basicIssues_eq_nil_iff.mp h
  refine ⟨?_, ?_, ?_, ?_⟩
  · rw [fieldOrNull_of_field? hinfo]
    exact hobject
  · rw [fieldOrNull_of_field? hinfo, fieldOrNull_of_field? htitle]
    rfl
  · rw [fieldOrNull_of_field? hinfo, fieldOrNull_of_field? hversion]
    rfl
  · rw [fieldOrNull_of_field? hpaths]
    exact htable

/-- A document without issues is one by the grammar. -/
theorem conforms_of_validate {document : Value} (h : (validate false document).issues = []) :
    IsBasic document ∧ Conforms (.record .document) document := by
  unfold validate validateWith at h
  cases hbasic : basicIssues document with
  | cons issue rest =>
    rw [hbasic] at h
    cases h
  | nil =>
    refine ⟨isBasic_of_basicIssues hbasic, .start, fun faults hfaults => ?_⟩
    have hdecode : OpenApi.decode document = .error faults := by
      unfold OpenApi.decode Shape.check
      rw [hfaults]
      rfl
    rw [hbasic] at h
    dsimp only at h
    unfold decodeDocument at h
    rw [hdecode] at h
    exact List.map_eq_nil_iff.mp h

/-- A text that is not empty is taken for a title. -/
theorem takes_title {value : Value} (htext : value.str?.isSome = true)
    (htruthy : value.isTruthy = true) : Takes (.text 1) value := by
  cases value with
  | str s =>
    refine Shape.accepts_text rfl ?_
    have hne : s.toList ≠ [] := by
      intro hnil
      rw [String.toList_eq_nil_iff] at hnil
      subst hnil
      cases htruthy
    exact List.length_pos_iff.mpr hne
  | _ => cases htext

theorem succeeds_readInfo {document : Value} (hbasic : IsBasic document)
    (hdocument : Conforms (.record .document) document)
    (h : infoConflicts (fieldOrNull "info" document) = []) : Succeeds (readInfo document) := by
  have htruthy : ∀ name ∈ ["title", "version"],
      (fieldOrNull name (fieldOrNull "info" document)).isTruthy = true := by
    intro name hname
    have hnone := List.filter_eq_nil_iff.mp (List.map_eq_nil_iff.mp h) name hname
    simpa using hnone
  have hinfo : fieldOrNull "info" document ≠ .null := ne_null_of_isObject hbasic.info
  have hrecord : Conforms (.record .info) (fieldOrNull "info" document) :=
    conforms_of_ne_null (conforms_required hdocument (by simp [Element.members])) hinfo
  have hdescription : Conforms (.nullable text)
      (fieldOrNull "description" (fieldOrNull "info" document)) :=
    conforms_optional hrecord (by simp [Element.members])
  have htitle := htruthy "title" (by simp)
  have hversion := htruthy "version" (by simp)
  have hget : getField "description" (fieldOrNull "info" document) =
      .ok (fieldOrNull "description" (fieldOrNull "info" document)) := if_pos hbasic.info
  unfold readInfo
  exact .step (field_of_fieldOrNull hinfo) <|
    .step (field_of_fieldOrNull (ne_null_of_isTruthy htitle)) <|
    .step (field_of_fieldOrNull (ne_null_of_isTruthy hversion)) <| .step hget <|
    .bind (succeeds_read <| .cons ⟨rfl, takes_title hbasic.title htitle⟩ <|
      .cons ⟨rfl, takes_title hbasic.version hversion⟩ <|
      .cons ⟨rfl, takes_textOrNull hdescription⟩ .nil) fun part _ => .ok _

theorem succeeds_readPaths {document : Value} (hbasic : IsBasic document)
    (hdocument : Conforms (.record .document) document)
    (h : (((entriesIn (fieldOrNull "paths" document)).filter fun path =>
      !isExtension path.1.plain).flatMap fun path => pathConflicts path.1.plain path.2) = []) :
    Succeeds (readPaths document) := by
  have htable : Conforms (.table .pathTemplate (.record .pathItem))
      (fieldOrNull "paths" document) :=
    conforms_of_ne_null (conforms_required hdocument (by simp [Element.members]))
      (ne_null_of_isObject hbasic.paths)
  unfold readPaths
  refine .step (entriesOrNone_of_isObject "items" hbasic.paths) <| .mapM fun entry hentry => ?_
  obtain ⟨hmem, hkept⟩ := List.mem_filter.mp hentry
  obtain ⟨name, hname, hitem⟩ := htable.pathEntries.2 entry hmem
  have hplain : entry.1.plain = name := by rw [hname, Value.plain]
  refine succeeds_readPath (hitem ?_) (List.flatMap_eq_nil_iff.mp h entry hentry)
  rw [hplain] at hkept
  exact Bool.not_eq_true' _ ▸ hkept

/-- A document without issues and conflicts is extracted. -/
theorem succeeds_readApi {document : Value} (hvalid : (validate false document).issues = [])
    (h : conflicts document = []) : Succeeds (readApi document) := by
  obtain ⟨hbasic, hdocument⟩ := conforms_of_validate hvalid
  unfold conflicts at h
  simp only [List.append_eq_nil_iff] at h
  obtain ⟨⟨hinfo, hpaths⟩, hcomponents⟩ := h
  have hsecurity : Conforms (.nullable (.list (tableOf (.list text))))
      (fieldOrNull "security" document) := conforms_optional hdocument (by simp [Element.members])
  have hrecord : Conforms (.nullable (.record .components)) (fieldOrNull "components" document) :=
    conforms_optional hdocument (by simp [Element.members])
  have hread : Succeeds (readComponents (if (fieldOrNull "components" document).isTruthy then
      fieldOrNull "components" document else .object [])) := by
    split
    · rename_i htruthy
      exact succeeds_readComponents (conforms_of_ne_null hrecord (ne_null_of_isTruthy htruthy))
        hcomponents
    · exact succeeds_readComponents (Shape.fits_of_check rfl) rfl
  obtain ⟨security, hrequirements, htakes⟩ := exists_readRequirements hsecurity
  unfold readApi
  exact .bind (succeeds_readInfo hbasic hdocument hinfo) fun info _ =>
    .bind (succeeds_readServers hdocument) fun servers _ =>
    .bind (succeeds_readPaths hbasic hdocument hpaths) fun paths _ =>
    .bind hread fun components _ => .step hrequirements <|
    .bind (succeeds_readTags hdocument) fun tags _ =>
    .bind (succeeds_read (.cons ⟨rfl, htakes⟩ .nil)) fun part _ => .ok _

end ClientGen.Extraction
