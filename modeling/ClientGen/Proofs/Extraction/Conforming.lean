import ClientGen.Proofs.Extraction.Conflict
import ClientGen.Proofs.Extraction.Readers
import Mathlib.Data.List.Nodup

/-!
# What extraction finds in values that the grammar accepts

`Conforms shape value` says that the grammar finds no fault in a value.  The lemmas give the fields,
items and entries of such a value in the form in which extraction reads them, and `succeeds_read`
gives back a part whose fields have the shapes that it asks for.
-/

namespace ClientGen.Extraction

open OpenApi (Element optional optionalAlias required tableOf text orReference)
open Shape (Accepts Fits IsText itemsIn entriesIn valueAt?)

/-- The grammar finds no fault in a value. -/
abbrev Conforms (shape : Shape Element) (value : Value) : Prop :=
  Fits Element.grammar shape value

/-- A part takes a value for one of its fields. -/
abbrev Takes (shape : Shape Part) (value : Value) : Prop :=
  Accepts Part.grammar shape value

/-! ### Fields, items and entries -/

theorem conforms_of_isElement {element : Element} {value : Value}
    (h : isElement element value = true) : Conforms (.record element) value := by
  unfold isElement at h
  cases hcheck : Shape.check Element.grammar (.record element) value with
  | ok read => exact Shape.fits_of_check hcheck
  | error faults =>
    rw [hcheck] at h
    cases h

section Access

variable {element : Element} {shape : Shape Element} {value : Value} {name : String}

theorem field_eq_ok {part : Value} :
    field name value = .ok part ↔ valueAt? name value = some part := by
  cases value with
  | object fields =>
    rw [field, valueAt?]
    cases Entries.get? name fields <;> simp
  | mapping entries =>
    rw [field, valueAt?]
    cases entries.find? fun entry => entry.1.sameKey (.str name) <;> simp
  | _ => simp [field, valueAt?]

theorem conforms_null (shape : Shape Element) : Conforms (.nullable shape) .null :=
  ⟨.start, Shape.isClean_ok _⟩

/-- What may be null and is not has the shape. -/
theorem conforms_of_ne_null (h : Conforms (.nullable shape) value) (hne : value ≠ .null) :
    Conforms shape value :=
  h.nullable.resolve_left hne

/-- Null is no object. -/
theorem ne_null_of_isObject (h : value.isObject = true) : value ≠ .null := by
  rintro rfl
  cases h

/-- Null counts as absent. -/
theorem ne_null_of_isTruthy (h : value.isTruthy = true) : value ≠ .null := by
  rintro rfl
  cases h

/-- Null is no text. -/
theorem ne_null_of_text (h : value.str?.isSome = true) : value ≠ .null := by
  rintro rfl
  cases h

/-- A member that may be missing or null is read as null when it is missing; its second name is not
looked up. -/
theorem conforms_alias (second : String) (h : Conforms (.record element) value)
    (hmember : optionalAlias name second shape ∈ element.members) :
    Conforms (.nullable shape) (fieldOrNull name value) := by
  unfold fieldOrNull
  cases hfield : value.field? name with
  | none => exact conforms_null shape
  | some part => exact h.member _ hmember (Shape.valueAt?_of_field? hfield)

theorem conforms_optional (h : Conforms (.record element) value)
    (hmember : optional name shape ∈ element.members) :
    Conforms (.nullable shape) (fieldOrNull name value) :=
  conforms_alias name h hmember

/-- A required member is found. -/
theorem exists_field (h : Conforms (.record element) value)
    (hmember : required name shape ∈ element.members) :
    ∃ part, field name value = .ok part ∧ Conforms shape part := by
  obtain ⟨part, hpart, hshape⟩ := h.exists_required hmember rfl rfl
  exact ⟨part, field_eq_ok.mpr hpart, hshape⟩

/-- A required member is read as null only from an object whose keys are not all texts. -/
theorem conforms_required (h : Conforms (.record element) value)
    (hmember : required name shape ∈ element.members) :
    Conforms (.nullable shape) (fieldOrNull name value) := by
  unfold fieldOrNull
  cases hfield : value.field? name with
  | none => exact conforms_null shape
  | some part =>
    have hpart : Conforms shape part := h.member _ hmember (Shape.valueAt?_of_field? hfield)
    exact hpart.toNullable

/-- A field that is not null is the one that is asked for. -/
theorem field_of_fieldOrNull (h : fieldOrNull name value ≠ .null) :
    field name value = .ok (fieldOrNull name value) := by
  unfold fieldOrNull at h ⊢
  cases hfield : value.field? name with
  | none => exact absurd (by rw [hfield]; rfl) h
  | some part => exact field_eq_ok.mpr (Shape.valueAt?_of_field? hfield)

theorem eq_fieldOrNull_of_field {part : Value} (h : fieldOrNull name value ≠ .null)
    (hfield : field name value = .ok part) : part = fieldOrNull name value := by
  cases (field_of_fieldOrNull h).symm.trans hfield
  rfl

/-- The items of a list are read, and each has its shape. -/
theorem itemsOrNone_of_conforms (h : Conforms (.nullable (.list shape)) value) :
    itemsOrNone value = .ok (itemsIn value) ∧ ∀ part ∈ itemsIn value, Conforms shape part := by
  rcases h.nullable with rfl | hlist
  · exact ⟨rfl, fun _ hmem => absurd hmem List.not_mem_nil⟩
  · obtain ⟨hitems, hparts⟩ := hlist.items
    refine ⟨?_, hparts⟩
    cases value with
    | list items | tuple items | set items => cases items <;> rfl
    | _ => cases hitems

/-- The entries of a table are read; each has a text for its key, and its value the shape. -/
theorem entriesOrNone_of_conforms (method : String)
    (h : Conforms (.nullable (tableOf shape)) value) :
    entriesOrNone method value = .ok (entriesIn value) ∧
      ∀ entry ∈ entriesIn value, IsText entry.1 ∧ Conforms shape entry.2 := by
  rcases h.nullable with rfl | htable
  · exact ⟨rfl, fun _ hmem => absurd hmem List.not_mem_nil⟩
  · obtain ⟨hobject, hentries⟩ := htable.entries
    exact ⟨entriesOrNone_of_isObject method hobject, hentries⟩

/-- What stands at the place of an element and is no reference is the element, unless there is a
conflict. -/
theorem conforms_of_conflictsAt {inside : Value → List Conflict}
    (h : conflictsAt element inside value = []) (hentry : isEntry value = true) :
    Conforms (.record element) value ∧ inside value = [] := by
  rw [conflictsAt, if_pos hentry] at h
  split at h
  · rename_i helement
    exact ⟨conforms_of_isElement helement, h⟩
  · cases h

/-- A value at the place of an element is an object. -/
theorem isObject_of_orReference (h : Conforms (orReference element) value) :
    value.isObject = true := by
  obtain ⟨branch, hbranch, hfits⟩ := h.choice (List.cons_ne_nil _ _)
  rcases List.mem_cons.mp hbranch with rfl | hbranch
  · exact hfits.isObject
  · cases List.mem_singleton.mp hbranch
    exact hfits.isObject

end Access

/-! ### Parts -/

section Parts

theorem nodup_members (part : Part) : (part.members.map Member.name).Nodup := by
  cases part <;> simp [Part.members, Part.schemaMembers, Part.member]

/-- A value for the field of each member, in order. -/
abbrev Suits (members : List (Member Part)) (fields : List (String × Value)) : Prop :=
  List.Forall₂ (fun member field => member.name = field.1 ∧ Takes member.shape field.2)
    members fields

/-- Under the name of a member there is the value of a member of that name. -/
theorem exists_of_suits {members : List (Member Part)} {fields : List (String × Value)}
    (h : Suits members fields) {name : String} {value : Value}
    (hget : Entries.get? name fields = some value) :
    ∃ member ∈ members, member.name = name ∧ Takes member.shape value := by
  induction h with
  | nil => cases hget
  | @cons member field members fields hfirst hrest ih =>
    rw [Entries.get?_cons] at hget
    split at hget
    · rename_i hname
      cases hget
      exact ⟨member, List.mem_cons_self, hfirst.1.trans hname, hfirst.2⟩
    · obtain ⟨member', hmem, hmember⟩ := ih hget
      exact ⟨member', List.mem_cons_of_mem _ hmem, hmember⟩

/-- A part is read whose fields have the shapes that it asks for. -/
theorem succeeds_read {part : Part} {fields : List (String × Value)}
    (h : Suits part.members fields) : Succeeds (part.read fields) := by
  have hmembers : ∀ member ∈ part.members,
      member.required = false ∧ member.secondName = member.name := by
    cases part <;> simp [Part.members, Part.schemaMembers, Part.member]
  have haccepts : Takes (.record part) (.object fields) := by
    refine Shape.accepts_record rfl rfl fun member hmember => ?_
    obtain ⟨hrequired, hname⟩ := hmembers member hmember
    refine ⟨hrequired, hname, fun value hvalue => ?_⟩
    obtain ⟨other, hother, hsame, htakes⟩ := exists_of_suits h hvalue
    rwa [List.inj_on_of_nodup_map (nodup_members part) hother hmember hsame] at htakes
  obtain ⟨read, hread⟩ := haccepts .start
  unfold Part.read Shape.check
  rw [hread]
  exact .ok _

end Parts

end ClientGen.Extraction
