import ClientGen.Proofs.Extraction.Conforming

/-!
# Schemas that the grammar accepts are read

A value at the place of a schema is read unless it has a conflict (`succeeds_schema`).  The proof
goes through the readers of the kinds of schemas one by one, each with the reader of nested schemas
as a parameter, and then by induction on the depth.
-/

namespace ClientGen.Extraction

open OpenApi (Element optional optionalAlias tableOf text number orReference truthOrSchema)
open Shape (Accepts Fits IsText itemsIn entriesIn)

/-! ### Fields that every schema has -/

theorem takes_textOrNull {value : Value} (h : Conforms (.nullable text) value) :
    Takes Part.textOrNull value :=
  h.accepts_nullable Fits.accepts_text

theorem takes_ofText (word : Option String) : Takes Part.textOrNull (ofText word) := by
  cases word with
  | none => exact Shape.accepts_null _
  | some s => exact Shape.accepts_nullable (Shape.accepts_text rfl (Nat.zero_le _))

/-- The fields of a schema that are checked, whatever its type, have the shapes for that. -/
structure HasCommonFields (schema : Value) : Prop where
  description : Conforms (.nullable text) (fieldOrNull "description" schema)
  minimum : Conforms (.nullable number) (fieldOrNull "minimum" schema)
  maximum : Conforms (.nullable number) (fieldOrNull "maximum" schema)
  minLength : Conforms (.nullable (.integer none)) (fieldOrNull "minLength" schema)
  maxLength : Conforms (.nullable (.integer none)) (fieldOrNull "maxLength" schema)
  pattern : Conforms (.nullable text) (fieldOrNull "pattern" schema)

theorem hasCommonFields_of_conforms {schema : Value} (h : Conforms (.record .schema) schema) :
    HasCommonFields schema where
  description := conforms_optional h (by simp [Element.members])
  minimum := conforms_optional h (by simp [Element.members])
  maximum := conforms_optional h (by simp [Element.members])
  minLength := conforms_alias "min_length" h (by simp [Element.members])
  maxLength := conforms_alias "max_length" h (by simp [Element.members])
  pattern := conforms_optional h (by simp [Element.members])

theorem suits_commonFields {schema : Value} (h : HasCommonFields schema) :
    Suits Part.schemaMembers (commonFields schema) :=
  .cons ⟨rfl, takes_textOrNull h.description⟩ <|
  .cons ⟨rfl, h.minimum.accepts_nullable Fits.accepts_number⟩ <|
  .cons ⟨rfl, h.maximum.accepts_nullable Fits.accepts_number⟩ <|
  .cons ⟨rfl, h.minLength.accepts_nullable Fits.accepts_integer⟩ <|
  .cons ⟨rfl, h.maxLength.accepts_nullable Fits.accepts_integer⟩ <|
  .cons ⟨rfl, takes_textOrNull h.pattern⟩ .nil

/-- Merged members take some of the fields of the schema. -/
theorem fieldOrNull_mergedFields (name : String) (schema : Value) :
    fieldOrNull name (mergedFields schema) =
      if name ∈ ["description", "example", "nullable", "deprecated"] then fieldOrNull name schema
      else .null := by
  unfold mergedFields fieldOrNull
  rw [Value.field?, Entries.get?_filterMap]
  split <;> rfl

theorem hasCommonFields_mergedFields {schema : Value} (h : HasCommonFields schema) :
    HasCommonFields (mergedFields schema) := by
  have hfield : ∀ {shape : Shape Element} {name : String},
      Conforms (.nullable shape) (fieldOrNull name schema) →
        Conforms (.nullable shape) (fieldOrNull name (mergedFields schema)) := by
    intro shape name hname
    rw [fieldOrNull_mergedFields]
    split
    · exact hname
    · exact conforms_null shape
  exact ⟨hfield h.description, hfield h.minimum, hfield h.maximum, hfield h.minLength,
    hfield h.maxLength, hfield h.pattern⟩

/-! ### References, enumerations and scalars -/

/-- A value that extraction may read as a schema: an object among them is a schema or a reference by
the grammar. -/
def IsSchemaLike (value : Value) : Prop :=
  value.isObject = true → Conforms (.record .reference) value ∨ Conforms (.record .schema) value

theorem isSchemaLike_of_orReference {value : Value}
    (h : Conforms (.nullable (orReference .schema)) value) : IsSchemaLike value := by
  intro hobject
  have hchoice := conforms_of_ne_null h (ne_null_of_isObject hobject)
  obtain ⟨branch, hbranch, hfits⟩ := hchoice.choice (List.cons_ne_nil _ _)
  rcases List.mem_cons.mp hbranch with rfl | hbranch
  · exact Or.inl hfits
  · cases List.mem_singleton.mp hbranch
    exact Or.inr hfits

theorem isSchemaLike_of_truthOrSchema {value : Value}
    (h : Conforms (.nullable truthOrSchema) value) : IsSchemaLike value := by
  intro hobject
  have hchoice := conforms_of_ne_null h (ne_null_of_isObject hobject)
  obtain ⟨branch, hbranch, hfits⟩ := hchoice.choice (List.cons_ne_nil _ _)
  rcases List.mem_cons.mp hbranch with rfl | hbranch
  · rw [hfits.isObject_of_truth] at hobject
    cases hobject
  · rcases List.mem_cons.mp hbranch with rfl | hbranch
    · exact Or.inl hfits
    · cases List.mem_singleton.mp hbranch
      exact Or.inr hfits

theorem isObject_of_reference {value : Value} {ref : String} (h : Reference.of? value = some ref) :
    value.isObject = true := by
  cases value with
  | object fields => rfl
  | _ => cases h

theorem succeeds_readReference {ref : String} {schema : Value} (h : IsSchemaLike schema)
    (href : Reference.of? schema = some ref) : Succeeds (readReference ref schema) := by
  have hdescription : Conforms (.nullable text) (fieldOrNull "description" schema) := by
    rcases h (isObject_of_reference href) with h | h
    · exact conforms_optional h (by simp [Element.members])
    · exact conforms_optional h (by simp [Element.members])
  unfold readReference
  exact .bind (succeeds_read (.cons ⟨rfl, takes_textOrNull hdescription⟩ .nil)) fun part _ => .ok _

theorem succeeds_readEnumeration (values : List Value) {schema : Value}
    (h : HasCommonFields schema) : Succeeds (readEnumeration values schema) := by
  unfold readEnumeration
  have hfields : Suits Part.enumeration.members
      (commonFields schema ++ [("type", ofText (schemaType schema))]) :=
    List.rel_append (suits_commonFields h) (.cons ⟨rfl, takes_ofText _⟩ .nil)
  exact .bind (succeeds_read hfields) fun part _ => .ok _

theorem succeeds_readPrimitive {schema : Value} (h : HasCommonFields schema)
    (hformat : Conforms (.nullable text) (fieldOrNull "format" schema)) :
    Succeeds (readPrimitive schema) := by
  unfold readPrimitive
  have hfields : Suits Part.primitive.members (commonFields schema ++
      [("type", ofText (schemaType schema)), ("format", fieldOrNull "format" schema)]) :=
    List.rel_append (suits_commonFields h)
      (.cons ⟨rfl, takes_ofText _⟩ (.cons ⟨rfl, takes_textOrNull hformat⟩ .nil))
  exact .bind (succeeds_read hfields) fun part _ => .ok _

/-! ### Arrays and objects -/

section Nested

variable {extract : Value → Except Fault (Option Schema)}

theorem succeeds_readArray {schema : Value} (h : HasCommonFields schema)
    (hitems : Succeeds (extract (fieldOrNull "items" schema))) :
    Succeeds (readArray extract schema) := by
  unfold readArray
  exact .bind hitems fun item _ => .bind (succeeds_read (suits_commonFields h)) fun part _ => .ok _

/-- Properties are read, under names of their own. -/
theorem exists_readProperties {entries : List (Value × Value)}
    (h : ∀ entry ∈ entries, Succeeds (extract entry.2)) :
    ∃ properties, readProperties extract entries = .ok properties ∧
      ∀ property ∈ properties, ∃ entry ∈ entries, entry.1 = property.1 := by
  induction entries with
  | nil => exact ⟨[], rfl, fun _ hmem => absurd hmem List.not_mem_nil⟩
  | cons entry rest ih =>
    obtain ⟨name, value⟩ := entry
    obtain ⟨schema?, hschema⟩ := h _ List.mem_cons_self
    obtain ⟨more, hmore, hnames⟩ := ih fun entry hentry => h entry (List.mem_cons_of_mem _ hentry)
    rw [readProperties, hschema, hmore]
    cases schema? with
    | none =>
      refine ⟨more, rfl, fun property hproperty => ?_⟩
      obtain ⟨entry, hentry, hname⟩ := hnames property hproperty
      exact ⟨entry, List.mem_cons_of_mem _ hentry, hname⟩
    | some schema =>
      refine ⟨(name, schema) :: more, rfl,
        List.forall_mem_cons.mpr ⟨?_, fun property hproperty => ?_⟩⟩
      · exact ⟨_, List.mem_cons_self, rfl⟩
      · obtain ⟨entry, hentry, hname⟩ := hnames property hproperty
        exact ⟨entry, List.mem_cons_of_mem _ hentry, hname⟩

theorem succeeds_readAdditional {value : Value} (h : Succeeds (extract value)) :
    Succeeds (readAdditional extract value) := by
  cases value with
  | bool b => exact .ok _
  | _ => exact .bind h fun schema _ => .ok _

theorem takes_keysOnly {names : List Value} (h : ∀ name ∈ names, IsText name) :
    Takes (.table .free .any) (keysOnly names) := by
  have hall : (names.all fun name => name.str?.isSome) = true := by
    rw [List.all_eq_true]
    intro name hname
    obtain ⟨s, rfl⟩ := h name hname
    rfl
  unfold keysOnly
  rw [if_pos hall]
  refine Shape.accepts_table rfl fun entry hentry => ?_
  obtain ⟨field, -, rfl⟩ := List.mem_map.mp hentry
  exact ⟨⟨field.1, rfl⟩, Shape.accepts_any _⟩

theorem takes_list {shape : Shape Part} {values : List Value}
    (h : ∀ value ∈ values, Takes shape value) : Takes (.tuple shape) (.list values) :=
  Shape.accepts_tuple rfl h

theorem succeeds_readObject {schema : Value} {entries : List (Value × Value)}
    {required : List Value} (h : HasCommonFields schema)
    (hkeys : ∀ entry ∈ entries, IsText entry.1)
    (hextract : ∀ entry ∈ entries, Succeeds (extract entry.2))
    (hadditional : Succeeds (extract (fieldOrNull "additionalProperties" schema)))
    (hrequired : ∀ name ∈ required, Takes Part.text name) :
    Succeeds (readObject extract schema (.ok entries) (.ok required)) := by
  obtain ⟨properties, hproperties, hnames⟩ := exists_readProperties hextract
  have hobject : Takes (.table .free .any) (keysOnly (properties.map (·.1))) := by
    refine takes_keysOnly fun name hname => ?_
    obtain ⟨property, hproperty, rfl⟩ := List.mem_map.mp hname
    obtain ⟨entry, hentry, hsame⟩ := hnames property hproperty
    exact hsame ▸ hkeys entry hentry
  have hfields : Suits Part.object.members (commonFields schema ++
      [("properties", keysOnly (properties.map (·.1))), ("required", .list required)]) :=
    List.rel_append (suits_commonFields h)
      (.cons ⟨rfl, hobject⟩ (.cons ⟨rfl, takes_list hrequired⟩ .nil))
  unfold readObject
  exact .step rfl <| .step hproperties <| .bind (succeeds_readAdditional hadditional)
    fun additional _ => .step rfl <| .bind (succeeds_read hfields) fun part _ => .ok _

/-! ### Merged members -/

/-- What holds of keys and of values holds of them after a value is stored. -/
theorem forall_putKey {P Q : Value → Prop} {entries : List (Value × Value)}
    (h : ∀ entry ∈ entries, P entry.1 ∧ Q entry.2) {key value : Value} (hkey : P key)
    (hvalue : Q value) : ∀ entry ∈ putKey key value entries, P entry.1 ∧ Q entry.2 := by
  induction entries with
  | nil => exact List.forall_mem_singleton.mpr ⟨hkey, hvalue⟩
  | cons first rest ih =>
    obtain ⟨hfirst, hrest⟩ := List.forall_mem_cons.mp h
    rw [putKey]
    split
    · exact List.forall_mem_cons.mpr ⟨⟨hfirst.1, hvalue⟩, hrest⟩
    · exact List.forall_mem_cons.mpr ⟨hfirst, ih hrest⟩

/-- The entries of an object are added one by one. -/
theorem exists_addEntries {P Q : Value → Prop} {entries : List (Value × Value)} {value : Value}
    (hobject : value.isObject = true) (h : ∀ entry ∈ entries, P entry.1 ∧ Q entry.2)
    (hvalue : ∀ entry ∈ entriesIn value, P entry.1 ∧ Q entry.2) :
    ∃ all, addEntries entries value = .ok all ∧ ∀ entry ∈ all, P entry.1 ∧ Q entry.2 := by
  have hadd : addEntries entries value =
      .ok ((entriesIn value).foldl (fun all entry => putKey entry.1 entry.2 all) entries) := by
    cases value with
    | object fields =>
      rw [addEntries, entriesIn, List.foldl_map]
    | mapping more => rfl
    | _ => cases hobject
  refine ⟨_, hadd, ?_⟩
  clear hadd hobject
  generalize entriesIn value = more at hvalue
  induction more generalizing entries with
  | nil => exact h
  | cons first rest ih =>
    obtain ⟨hfirst, hrest⟩ := List.forall_mem_cons.mp hvalue
    exact ih (forall_putKey h hfirst.1 hfirst.2) hrest

theorem takes_text {value : Value} (h : Conforms text value) : Takes Part.text value :=
  h.accepts_text

/-- Members that can be merged have properties to merge; `Q` holds of the merged ones when it holds
of all of them. -/
theorem exists_mergeMembers {Q : Value → Prop} {members : List Value}
    {properties : List (Value × Value)} {required : List Value}
    (hproperties : ∀ property ∈ properties, IsText property.1 ∧ Q property.2)
    (hrequired : ∀ name ∈ required, Takes Part.text name)
    (h : ∀ member ∈ members, Conforms (.record .schema) member ∧ lacksProperties member = false ∧
      ∀ part ∈ propertiesOf member, Q part) :
    ∃ merged?, mergeMembers properties required members = .ok merged? ∧
      ∀ merged, merged? = some merged →
        (∀ property ∈ merged.1, IsText property.1 ∧ Q property.2) ∧
          ∀ name ∈ merged.2, Takes Part.text name := by
  induction members generalizing properties required with
  | nil =>
    refine ⟨_, rfl, fun merged hmerged => ?_⟩
    cases hmerged
    exact ⟨hproperties, hrequired⟩
  | cons member rest ih =>
    obtain ⟨⟨hschema, hlacks, hparts⟩, hrest⟩ := List.forall_mem_cons.mp h
    rw [mergeMembers]
    by_cases hmergeable : isMergeable member = true
    · rw [if_pos hmergeable]
      have hobject : (fieldOrNull "properties" member).isObject = true := by
        rw [lacksProperties, hmergeable] at hlacks
        simpa using hlacks
      have htable : Conforms (.nullable (tableOf (orReference .schema)))
          (fieldOrNull "properties" member) := conforms_optional hschema (by simp [Element.members])
      obtain ⟨-, hentries⟩ := entriesOrNone_of_conforms "items" htable
      obtain ⟨all, hall, hmore⟩ := exists_addEntries hobject hproperties fun entry hentry =>
        ⟨(hentries entry hentry).1, hparts _ (List.mem_map_of_mem hentry)⟩
      have hlist : Conforms (.nullable (.list text)) (fieldOrNull "required" member) :=
        conforms_optional hschema (by simp [Element.members])
      obtain ⟨hnames, htexts⟩ := itemsOrNone_of_conforms hlist
      rw [hall, hnames]
      refine ih hmore (fun name hname => ?_) hrest
      rcases List.mem_append.mp hname with hname | hname
      · exact hrequired name hname
      · exact takes_text (htexts name hname)
    · rw [if_neg hmergeable]
      exact ⟨none, rfl, fun _ h => nomatch h⟩

/-! ### Schemas of any kind -/

theorem isInline_eq_isEntry (value : Value) : isInline value = isEntry value := by
  unfold isInline isEntry isReference
  cases Reference.of? value <;> rfl

/-- Merged members are members, and objects that are no references. -/
theorem mem_mergedMembers {schema member : Value} (h : member ∈ mergedMembers schema) :
    member ∈ allOfMembers schema ∧ isEntry member = true := by
  unfold mergedMembers at h
  split at h
  · cases h
  · cases h
  · split at h
    · rename_i hinline
      exact ⟨h, isInline_eq_isEntry member ▸ List.all_eq_true.mp hinline member h⟩
    · cases h

theorem mem_subschemas {schema part : Value} :
    part ∈ subschemas schema ↔
      part ∈ allOfMembers schema ∨ (∃ member ∈ mergedMembers schema, part ∈ propertiesOf member) ∨
        part ∈ propertiesOf schema ∨ part = fieldOrNull "items" schema ∨
          part = fieldOrNull "additionalProperties" schema := by
  unfold subschemas
  simp only [List.mem_append, List.mem_flatMap, List.mem_cons, List.not_mem_nil, or_false,
    or_assoc]

section

variable {schema : Value} (hschema : Conforms (.record .schema) schema)
  (hmerged : ∀ member ∈ mergedMembers schema,
    Conforms (.record .schema) member ∧ lacksProperties member = false)
  (hnone : ∀ value : Value, value.isObject = false → Succeeds (extract value))
  (hparts : ∀ part ∈ subschemas schema, Succeeds (extract part))

theorem succeeds_readOnlyMember {member : Value} (h : Succeeds (extract member)) :
    Succeeds (readOnlyMember extract schema member) := by
  unfold readOnlyMember
  refine .bind h fun inner? _ => ?_
  cases inner? with
  | none => exact .ok _
  | some inner => exact .ok _

include hschema hmerged hnone hparts

/-- Several members are merged if they are inline, and else none of them stands for the schema. -/
theorem succeeds_readAllOf_several {members : List Value} (hall : mergedMembers schema = members) :
    Succeeds (do
      match ← mergeMembers [] [] members with
      | some (properties, required) =>
        some <$> readObject extract (mergedFields schema) (.ok properties) (.ok required)
      | none => return none) := by
  have hmembers : ∀ member ∈ members, Conforms (.record .schema) member ∧
      lacksProperties member = false ∧ ∀ part ∈ propertiesOf member, Succeeds (extract part) := by
    intro member hmem
    obtain ⟨hconforms, hlacks⟩ := hmerged member (hall ▸ hmem)
    exact ⟨hconforms, hlacks, fun part hpart => hparts part
      (mem_subschemas.mpr (Or.inr (Or.inl ⟨member, hall ▸ hmem, hpart⟩)))⟩
  obtain ⟨merged?, hmerge, hresult⟩ :=
    exists_mergeMembers (Q := fun part => Succeeds (extract part))
      (fun _ hmem => absurd hmem List.not_mem_nil) (fun _ hmem => absurd hmem List.not_mem_nil)
      hmembers
  refine .step hmerge ?_
  cases merged? with
  | none => exact .ok _
  | some merged =>
    obtain ⟨hproperties, hrequired⟩ := hresult merged rfl
    have hadditional : Succeeds (extract
        (fieldOrNull "additionalProperties" (mergedFields schema))) := by
      rw [fieldOrNull_mergedFields, if_neg (by simp)]
      exact hnone .null rfl
    exact .map (succeeds_readObject
      (hasCommonFields_mergedFields (hasCommonFields_of_conforms hschema))
      (fun property hproperty => (hproperties property hproperty).1)
      (fun property hproperty => (hproperties property hproperty).2) hadditional hrequired) _

theorem succeeds_readAllOf : Succeeds (readAllOf extract schema (allOfMembers schema)) := by
  cases hmembers : allOfMembers schema with
  | nil => exact .ok _
  | cons first rest =>
    cases rest with
    | nil =>
      have hfirst : first ∈ allOfMembers schema := hmembers ▸ List.mem_cons_self
      exact succeeds_readOnlyMember (hparts first (mem_subschemas.mpr (Or.inl hfirst)))
    | cons second rest =>
      show Succeeds (if (first :: second :: rest).all isInline = true then _ else _)
      split
      · rename_i hinline
        refine succeeds_readAllOf_several hschema hmerged hnone hparts ?_
        unfold mergedMembers
        rw [hmembers]
        exact if_pos hinline
      · exact .ok _

omit hmerged hnone in
theorem succeeds_readByType : Succeeds (readByType extract schema) := by
  have hcommon := hasCommonFields_of_conforms hschema
  have hproperties : Conforms (.nullable (tableOf (orReference .schema)))
      (fieldOrNull "properties" schema) := conforms_optional hschema (by simp [Element.members])
  have hrequired : Conforms (.nullable (.list text)) (fieldOrNull "required" schema) :=
    conforms_optional hschema (by simp [Element.members])
  have hformat : Conforms (.nullable text) (fieldOrNull "format" schema) :=
    conforms_optional hschema (by simp [Element.members])
  obtain ⟨hentries, heach⟩ := entriesOrNone_of_conforms "items" hproperties
  obtain ⟨hnames, htexts⟩ := itemsOrNone_of_conforms hrequired
  unfold readByType
  dsimp only
  split
  · exact succeeds_readEnumeration _ hcommon
  · split
    · exact succeeds_readArray hcommon
        (hparts _ (mem_subschemas.mpr (Or.inr (Or.inr (Or.inr (Or.inl rfl))))))
    · split
      · rw [hentries, hnames]
        refine succeeds_readObject hcommon (fun entry hentry => (heach entry hentry).1)
          (fun entry hentry => hparts _ (mem_subschemas.mpr ?_))
          (hparts _ (mem_subschemas.mpr (Or.inr (Or.inr (Or.inr (Or.inr rfl))))))
          fun name hname => takes_text (htexts name hname)
        exact Or.inr (Or.inr (Or.inl (List.mem_map_of_mem hentry)))
      · exact succeeds_readPrimitive hcommon hformat

end

end Nested

/-- The values that are read as schemas in a schema look like schemas to the grammar. -/
theorem isSchemaLike_of_mem_subschemas {schema part : Value}
    (hschema : Conforms (.record .schema) schema)
    (hmerged : ∀ member ∈ mergedMembers schema, Conforms (.record .schema) member)
    (hpart : part ∈ subschemas schema) : IsSchemaLike part := by
  have hproperties : ∀ {schema : Value}, Conforms (.record .schema) schema →
      ∀ part ∈ propertiesOf schema, IsSchemaLike part := by
    intro schema hschema part hpart
    have htable : Conforms (.nullable (tableOf (orReference .schema)))
        (fieldOrNull "properties" schema) := conforms_optional hschema (by simp [Element.members])
    obtain ⟨entry, hentry, rfl⟩ := List.mem_map.mp hpart
    exact isSchemaLike_of_orReference
      ((entriesOrNone_of_conforms "items" htable).2 entry hentry).2.toNullable
  rcases mem_subschemas.mp hpart with hmember | ⟨member, hmember, hpart⟩ | hpart | rfl | rfl
  · have hlist : Conforms (.nullable (.list (orReference .schema))) (fieldOrNull "allOf" schema) :=
      conforms_alias "all_of" hschema (by simp [Element.members])
    unfold allOfMembers at hmember
    split at hmember
    · rename_i members hvalue
      rw [hvalue] at hlist
      exact isSchemaLike_of_orReference ((itemsOrNone_of_conforms hlist).2 part hmember).toNullable
    · cases hmember
  · exact hproperties (hmerged member hmember) part hpart
  · exact hproperties hschema part hpart
  · exact isSchemaLike_of_orReference (conforms_optional hschema (by simp [Element.members]))
  · exact isSchemaLike_of_truthOrSchema
      (conforms_alias "additional_properties" hschema (by simp [Element.members]))

/-- Without conflicts an object that is no reference is a schema by the grammar, at any depth. -/
theorem conforms_of_schemaConflictsWithin {depth : Nat} {value : Value}
    (h : schemaConflictsWithin depth value = []) (hentry : isEntry value = true) :
    Conforms (.record .schema) value := by
  cases depth with
  | zero => exact (conforms_of_conflictsAt h hentry).1
  | succ depth => exact (conforms_of_conflictsAt h hentry).1

/-- A value that looks like a schema to the grammar and has no conflicts is read as one. -/
theorem succeeds_schemaWithin (depth : Nat) {value : Value} (hlike : IsSchemaLike value)
    (h : schemaConflictsWithin depth value = []) : Succeeds (schemaWithin depth value) := by
  induction depth generalizing value with
  | zero => exact .ok _
  | succ depth ih =>
    rw [schemaWithin]
    split
    · rename_i hobject
      unfold readSchema
      split
      · rename_i ref href
        exact .map (succeeds_readReference hlike href) _
      · rename_i hnone
        have hentry : isEntry value = true := by
          unfold isEntry isReference
          rw [hobject, hnone]
          rfl
        obtain ⟨hschema, hinside⟩ := conforms_of_conflictsAt h hentry
        obtain ⟨hlacks, hparts⟩ := List.append_eq_nil_iff.mp hinside
        have hwithin : ∀ part ∈ subschemas value, schemaConflictsWithin depth part = [] :=
          List.flatMap_eq_nil_iff.mp hparts
        have hmerged : ∀ member ∈ mergedMembers value,
            Conforms (.record .schema) member ∧ lacksProperties member = false := by
          intro member hmember
          obtain ⟨hmem, hentry⟩ := mem_mergedMembers hmember
          refine ⟨conforms_of_schemaConflictsWithin
            (hwithin member (mem_subschemas.mpr (Or.inl hmem))) hentry, ?_⟩
          by_contra hlack
          have hany : (mergedMembers value).any lacksProperties = true :=
            List.any_eq_true.mpr ⟨member, hmember, Bool.not_eq_false _ ▸ hlack⟩
          rw [if_pos hany] at hlacks
          cases hlacks
        have hread : ∀ part ∈ subschemas value, Succeeds (schemaWithin depth part) :=
          fun part hpart => ih (isSchemaLike_of_mem_subschemas hschema
            (fun member hmember => (hmerged member hmember).1) hpart) (hwithin part hpart)
        have hother : ∀ part : Value, part.isObject = false →
            Succeeds (schemaWithin depth part) := by
          intro part hpart
          cases depth with
          | zero => exact .ok _
          | succ depth =>
            rw [schemaWithin, hpart]
            exact .ok _
        refine .bind (succeeds_readAllOf hschema hmerged hother hread) fun merged? _ => ?_
        cases merged? with
        | some merged => exact .ok _
        | none => exact .map (succeeds_readByType hschema hread) _
    · exact .ok _

theorem succeeds_schema {value : Value} (hlike : IsSchemaLike value)
    (h : schemaConflicts value = []) : Succeeds (schema value) :=
  succeeds_schemaWithin _ hlike h

end ClientGen.Extraction
