import ClientGen.Proofs.Extraction.Agreement

/-!
# Conflicts at which extraction fails

An extracted document has no conflict that stops extraction (`noneStops_of_readApi`).  Each reader
is taken apart into its steps; what it reads has no such conflict, and the values that it leaves
out have none.
-/

namespace ClientGen.Extraction

open OpenApi (Element)
open Shape (itemsIn entriesIn valueAt?)

/-- None of some conflicts stops extraction. -/
def NoneStops (found : List Conflict) : Prop :=
  ∀ conflict ∈ found, conflict.stops = false

namespace NoneStops

theorem nil : NoneStops [] :=
  fun _ h => absurd h List.not_mem_nil

theorem append {found more : List Conflict} (h : NoneStops found) (h' : NoneStops more) :
    NoneStops (found ++ more) :=
  fun conflict hmem => (List.mem_append.mp hmem).elim (h conflict) (h' conflict)

theorem flatMap {α : Type} {conflicts : α → List Conflict} {parts : List α}
    (h : ∀ part ∈ parts, NoneStops (conflicts part)) : NoneStops (parts.flatMap conflicts) := by
  intro conflict hmem
  obtain ⟨part, hpart, hmem⟩ := List.mem_flatMap.mp hmem
  exact h part hpart conflict hmem

/-- A value that is no element by the grammar is not known to stop extraction. -/
theorem conflictsAt {element : Element} {inside : Value → List Conflict} {value : Value}
    (h : isEntry value = true → NoneStops (inside value)) :
    NoneStops (conflictsAt element inside value) := by
  unfold Extraction.conflictsAt
  split
  · rename_i hentry
    split
    · exact h hentry
    · exact List.forall_mem_singleton.mpr rfl
  · exact nil

/-- A value that is no object, or a reference, has no conflicts. -/
theorem conflictsAt_other {element : Element} {inside : Value → List Conflict} {value : Value}
    (h : isEntry value = false) : NoneStops (Extraction.conflictsAt element inside value) :=
  .conflictsAt fun hentry => absurd hentry (Bool.eq_false_iff.mp h)

end NoneStops

/-! ### Schemas, bodies and headers -/

theorem noneStops_schemaConflictsWithin (depth : Nat) (value : Value) :
    NoneStops (schemaConflictsWithin depth value) := by
  induction depth generalizing value with
  | zero => exact .conflictsAt fun _ => .nil
  | succ depth ih =>
    refine .conflictsAt fun _ => .append ?_ (.flatMap fun part _ => ih part)
    split
    · exact List.forall_mem_singleton.mpr rfl
    · exact .nil

theorem noneStops_schemaConflicts (value : Value) : NoneStops (schemaConflicts value) :=
  noneStops_schemaConflictsWithin _ value

theorem noneStops_contentConflicts (content : Value) : NoneStops (contentConflicts content) :=
  .flatMap fun _ _ => noneStops_schemaConflicts _

theorem noneStops_bodyConflicts (body : Value) : NoneStops (bodyConflicts body) :=
  .conflictsAt fun _ => noneStops_contentConflicts _

theorem noneStops_headerConflicts (header : Value) : NoneStops (headerConflicts header) :=
  .conflictsAt fun _ => noneStops_schemaConflicts _

theorem noneStops_ownSchemaConflicts (schema : Value) : NoneStops (ownSchemaConflicts schema) := by
  unfold ownSchemaConflicts
  split
  · exact List.forall_mem_singleton.mpr rfl
  · exact noneStops_schemaConflicts schema

/-! ### Parameters and responses -/

theorem noneStops_of_readParameter {value : Value} {parameter : Parameter}
    (h : readParameter value = .ok parameter) : NoneStops (parameterConflicts value) := by
  unfold readParameter at h
  obtain ⟨place, hplace, -⟩ := bind_eq_ok.mp h
  have hin : valueAt? "in" value = some place := field_eq_ok.mp hplace
  refine .conflictsAt fun _ => .append ?_ ?_
  · rw [hin]
    exact .nil
  · split
    · exact noneStops_schemaConflicts _
    · exact .nil

/-- The items of a list are among what is gone through. -/
theorem mem_of_itemsOrNone {value part : Value} {parts : List Value}
    (h : itemsOrNone value = .ok parts) (hpart : part ∈ itemsIn value) : part ∈ parts := by
  cases value with
  | list items | tuple items | set items =>
    cases items with
    | nil => cases hpart
    | cons first rest =>
      cases h
      exact hpart
  | _ => cases hpart

theorem noneStops_of_readParameters {value : Value} {parameters : List Parameter}
    (h : readParameters value = .ok parameters) :
    NoneStops ((itemsIn value).flatMap parameterConflicts) := by
  unfold readParameters at h
  obtain ⟨items, hitems, hread⟩ := bind_eq_ok.mp h
  refine .flatMap fun part hpart => ?_
  by_cases hentry : isEntry part = true
  · have hmem : part ∈ items.filter fun parameter => !isReference parameter :=
      List.mem_filter.mpr ⟨mem_of_itemsOrNone hitems hpart, (Bool.and_eq_true _ _ ▸ hentry).2⟩
    obtain ⟨parameter, -, hparameter⟩ := exists_mem_of_mapM hread hmem
    exact noneStops_of_readParameter hparameter
  · exact .conflictsAt_other (Bool.eq_false_iff.mpr hentry)

theorem noneStops_of_readResponse {key : String} {value : Value} {response : Response}
    (h : readResponse key value = .ok response) : NoneStops (responseConflicts key value) := by
  unfold readResponse at h
  obtain ⟨content, -, h⟩ := bind_eq_ok.mp h
  obtain ⟨code, hcode, -⟩ := bind_eq_ok.mp h
  refine .conflictsAt fun _ => .append (.append (.append ?_ (noneStops_contentConflicts _))
    (noneStops_ownSchemaConflicts _)) (.flatMap fun _ _ => noneStops_headerConflicts _)
  unfold statusConflicts
  rw [hcode]
  exact .nil

/-- The entries of a table that was read have no conflicts that stop extraction, if those that are
elements have none. -/
theorem noneStops_of_readEntries {α : Type} {read : String → Value → Except Fault α}
    {conflicts : String → Value → List Conflict} {table : List (Value × Value)}
    {found : List (String × α)}
    (hread : ∀ {key value part}, read key value = .ok part → NoneStops (conflicts key value))
    (hother : ∀ {key value}, isEntry value = false → NoneStops (conflicts key value))
    (h : readEntries read table = .ok found) :
    NoneStops (table.flatMap fun entry => conflicts entry.1.plain entry.2) := by
  unfold readEntries at h
  refine .flatMap fun entry hmem => ?_
  by_cases hentry : isEntry entry.2 = true
  · obtain ⟨part, -, hpart⟩ := exists_mem_of_mapM h (List.mem_filter.mpr ⟨hmem, hentry⟩)
    obtain ⟨result, hresult, -⟩ := bind_eq_ok.mp hpart
    exact hread hresult
  · exact hother (Bool.eq_false_iff.mpr hentry)

/-! ### Operations, paths and documents -/

theorem noneStops_of_readOperation {method path : String} {value : Value} {operation : Operation}
    (h : readOperation method path value = .ok operation) :
    NoneStops (methodConflicts method path value) := by
  have hread := readOperation_ok h
  obtain ⟨found, hfound, -⟩ := hread.responses
  cases value with
  | object fields =>
    exact .append (.append (noneStops_of_readParameters hread.parameters) (noneStops_bodyConflicts _))
      (noneStops_of_readEntries noneStops_of_readResponse .conflictsAt_other hfound)
  | _ => exact absurd rfl hread.responses_ne_null

theorem noneStops_of_readPath {path : String} {value : Value} {entry : PathEntry}
    (h : readPath path value = .ok entry) : NoneStops (pathConflicts path value) := by
  have hread := readPath_ok h
  refine .append (.flatMap fun method hmethod => ?_) (noneStops_of_readParameters hread.parameters)
  obtain ⟨operation, -, hoperation⟩ := exists_mem_of_mapM hread.operations hmethod
  exact noneStops_of_readOperation hoperation

theorem noneStops_of_readPaths {document : Value} {paths : List PathEntry}
    (h : readPaths document = .ok paths) :
    NoneStops ((pathsIn document).flatMap fun path => pathConflicts path.1.plain path.2) := by
  refine .flatMap fun entry hentry => ?_
  obtain ⟨path, -, hpath⟩ := exists_mem_of_mapM (readPaths_ok h) hentry
  exact noneStops_of_readPath hpath

theorem noneStops_of_readComponents {value : Value} {components : Components}
    (h : readComponents value = .ok components) : NoneStops (componentConflicts value) := by
  have hread := readComponents_ok h
  exact .append (.append (.append (.flatMap fun _ _ => noneStops_schemaConflicts _)
    (noneStops_of_readEntries noneStops_of_readResponse .conflictsAt_other hread.responses))
    (noneStops_of_readEntries noneStops_of_readParameter .conflictsAt_other hread.parameters))
    (.flatMap fun _ _ => noneStops_bodyConflicts _)

/-- What a part is read from has the shape of the part. -/
theorem fits_of_read {part : Part} {fields : List (String × Value)} {value : Value}
    (h : part.read fields = .ok value) :
    Shape.Fits Part.grammar (.record part) (.object fields) := by
  unfold Part.read at h
  split at h
  · rename_i read hread
    exact Shape.fits_of_check hread
  · cases h

/-- A title that is taken is not empty. -/
theorem isTruthy_of_title {value : Value} (h : Shape.Fits Part.grammar (.text 1) value)
    (htext : value.str?.isSome = true) : value.isTruthy = true := by
  obtain ⟨s, closeness, hread, hlength⟩ := h.text
  cases value with
  | str s =>
    cases hread
    have hne : s ≠ "" := by
      rintro rfl
      cases hlength
    simpa [Value.isTruthy] using hne
  | _ => cases htext

theorem noneStops_of_readInfo {document : Value} {info : ApiInfo} (hbasic : IsBasic document)
    (h : readInfo document = .ok info) :
    NoneStops (infoConflicts (fieldOrNull "info" document)) := by
  unfold readInfo at h
  obtain ⟨object, hobject, h⟩ := bind_eq_ok.mp h
  obtain ⟨title, htitle, h⟩ := bind_eq_ok.mp h
  obtain ⟨version, hversion, h⟩ := bind_eq_ok.mp h
  obtain ⟨description, -, h⟩ := bind_eq_ok.mp h
  obtain ⟨part, hpart, -⟩ := bind_eq_ok.mp h
  cases eq_fieldOrNull_of_field (ne_null_of_isObject hbasic.info) hobject
  have htitle := eq_fieldOrNull_of_field (ne_null_of_text hbasic.title) htitle
  have hversion := eq_fieldOrNull_of_field (ne_null_of_text hbasic.version) hversion
  have hfits := fits_of_read hpart
  have htitleTruthy : (fieldOrNull "title" (fieldOrNull "info" document)).isTruthy = true :=
    htitle ▸ isTruthy_of_title (hfits.member (Part.member "title" (.text 1)) List.mem_cons_self rfl)
      (htitle ▸ hbasic.title)
  have hversionTruthy : (fieldOrNull "version" (fieldOrNull "info" document)).isTruthy = true :=
    hversion ▸ isTruthy_of_title (hfits.member (Part.member "version" (.text 1))
      (List.mem_cons_of_mem _ List.mem_cons_self) rfl) (hversion ▸ hbasic.version)
  unfold infoConflicts
  simp [htitleTruthy, hversionTruthy, NoneStops]

/-- Components that count as absent have no conflicts. -/
theorem componentConflicts_eq_nil {value : Value} (h : ¬value.isTruthy = true) :
    componentConflicts value = [] := by
  cases value with
  | object fields =>
    cases fields with
    | nil => rfl
    | cons first rest => exact absurd rfl h
  | _ => rfl

/-- The conflicts of a document that is extracted do not stop extraction. -/
theorem noneStops_of_readApi {document : Value} {api : Api} (hbasic : IsBasic document)
    (h : readApi document = .ok api) : NoneStops (conflicts document) := by
  have hread := readApi_ok h
  have hcomponents := hread.components
  refine .append (.append (noneStops_of_readInfo hbasic hread.info)
    (noneStops_of_readPaths hread.paths)) ?_
  split at hcomponents
  · exact noneStops_of_readComponents hcomponents
  · rename_i hfalsy
    rw [componentConflicts_eq_nil hfalsy]
    exact .nil

end ClientGen.Extraction
