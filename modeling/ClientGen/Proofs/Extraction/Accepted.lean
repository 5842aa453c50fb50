import ClientGen.Proofs.Extraction.Defined
import ClientGen.Proofs.Extraction.Stops

/-!
# Extraction of documents that the validator accepts

A document that the validator accepts is bundled and then extracted.  The bundle is the document
itself where every reference stays in it (`Resolves.eq_of_staysInBundle`); else what the other
references are replaced with has to be of the right kind, which the validator cannot see in the
document and sees in the bundle.  Without conflicts a bundle that the validator accepts is
extracted, and with one that stops extraction it is not (`extracted_of_valid`).  A document with an
empty title is accepted, and not extracted (`not_extracted_petShop`).
-/

namespace ClientGen

open Extraction

namespace Resolution

/-- Where every reference stays in a bundle, a value becomes itself. -/
theorem Resolves.eq_of_staysInBundle {settings : Settings} {context : Context} {seen : List String}
    {value result : Value} {j k : Journal} (h : Resolves settings context seen value j result k)
    (hbundle : settings.external = false) (hurl : context.url = none)
    (hstays : ∀ ref ∈ Reference.occurrences value, StaysInBundle ref) : result = value := by
  have hinherited := Reference.inherited_occurrences StaysInBundle
  induction h using Resolves.inductionOn with
  | atom | kept => rfl
  | list _ hitems =>
    have hsame := hitems.forall₂ (S := fun item result => item = result)
      fun item hitem _ _ _ ⟨_, hholds⟩ => (hholds hurl (hinherited.item hstays hitem)).symm
    rw [List.forall₂_eq_eq_eq] at hsame
    rw [hsame]
  | object _ _ hfields =>
    have hsame := hfields.forall₂ (S := fun field result => field = result)
      fun field hfield _ _ _ ⟨hname, _, hholds⟩ =>
        Prod.ext hname.symm (hholds hurl (hinherited.field hstays hfield)).symm
    rw [List.forall₂_eq_eq_eq] at hsame
    rw [hsame]
  | replaced href hleads | overlaid href hleads =>
    have hstay := hstays _ (Reference.mem_occurrences_object.mpr (Or.inl href))
    exact absurd hleads (hstay.not_leads hbundle hurl)

end Resolution

/-- An API is extracted exactly when all of it is read. -/
theorem exists_extract_iff {file : String} {document : Value} :
    (∃ api, Api.extract file document = .ok api) ↔ Succeeds (readApi document) := by
  unfold Api.extract
  cases readApi document with
  | ok api => exact iff_of_true ⟨api, rfl⟩ (.ok api)
  | error fault =>
    refine iff_of_false ?_ ?_
    · rintro ⟨api, hapi⟩
      cases hapi
    · rintro ⟨api, hapi⟩
      cases hapi

/-- **A document that the validator accepts is extracted from its bundle, unless there are
conflicts.**  The bundle is a document without issues as well: it is the document itself where no
reference is expanded, and else what references were expanded to has to be of the right kind.  At a
conflict that stops extraction there is no API. -/
theorem extracted_of_valid {options : ResolutionOptions} {fetcher : Net.Fetcher} {file : String}
    {content : Value} {r : Resolution} (hvalid : (validate false content).issues = [])
    (hbundle : options.external = false)
    (hrun : (Resolution.resolve options fetcher file content).outcome = .ok r)
    (hkind : (∀ ref ∈ Reference.references content, Resolution.StaysInBundle ref) ∨
      (validate false r.resolved).issues = []) :
    (conflicts r.resolved = [] → ∃ api, Api.extract file r.resolved = .ok api) ∧
      ((∃ conflict ∈ conflicts r.resolved, conflict.stops = true) →
        ¬∃ api, Api.extract file r.resolved = .ok api) := by
  have hresolved : (validate false r.resolved).issues = [] := by
    rcases hkind with hstays | hresolved
    · obtain ⟨k, hresolves, -⟩ := Resolution.resolves_of_resolveWithin hrun
      rwa [hresolves.eq_of_staysInBundle hbundle rfl fun ref hmem =>
        hstays ref (Reference.mem_references.mpr hmem)]
    · exact hresolved
  rw [exists_extract_iff]
  refine ⟨succeeds_readApi hresolved, ?_⟩
  rintro ⟨conflict, hmem, hstops⟩ ⟨api, hread⟩
  rw [noneStops_of_readApi (conforms_of_validate hresolved).1 hread conflict hmem] at hstops
  cases hstops

/-- A document with one operation, whose result is a component schema. -/
def petShop (title : String) : Value :=
  .object
    [("openapi", .str "3.0.3"),
      ("info", .object [("title", .str title), ("version", .str "1")]),
      ("paths", .object [("/pets/\x7bid\x7d", .object [("get", .object
        [("parameters", .list [.object [("name", .str "id"), ("in", .str "path"),
            ("required", .bool true), ("schema", .object [("type", .str "string")])]]),
          ("responses", .object [("200", .object [("description", .str "A pet"),
            ("content", .object [("application/json", .object [("schema",
              .object [("$ref", .str "#/components/schemas/Pet")])])])])])])])]),
      ("components", .object [("schemas", .object [("Pet", .object [("type", .str "object"),
        ("properties", .object [("name", .object [("type", .str "string")])]),
        ("required", .list [.str "name"])])])])]

/-- The only reference of the document stays in its bundle. -/
theorem resolve_petShop (title : String) :
    (Resolution.resolve {} Resolution.unserved "" (petShop title)).outcome =
        .ok ⟨"", petShop title, ["#/components/schemas/Pet"], [],
          ["#/components/schemas/Pet"], []⟩ ∧
      ∀ ref ∈ Reference.references (petShop title), Resolution.StaysInBundle ref := by
  refine ⟨rfl, fun ref hmem => Or.inl ?_⟩
  rw [show Reference.references (petShop title) = ["#/components/schemas/Pet"] from rfl,
    List.mem_singleton] at hmem
  rw [hmem]
  rfl

/-- A document with a title is extracted. -/
theorem extracted_of_valid_petShop :
    (validate false (petShop "Pets")).issues = [] ∧ conflicts (petShop "Pets") = [] ∧
      ∃ r, (Resolution.resolve {} Resolution.unserved "" (petShop "Pets")).outcome = .ok r ∧
        r.resolved = petShop "Pets" ∧ ∃ api, Api.extract "" r.resolved = .ok api := by
  have hvalid : (validate false (petShop "Pets")).issues = [] :=
    List.isEmpty_iff.mp (by decide +kernel)
  have hconflicts : conflicts (petShop "Pets") = [] := by decide +kernel
  obtain ⟨hrun, hstays⟩ := resolve_petShop "Pets"
  exact ⟨hvalid, hconflicts, _, hrun, rfl,
    (extracted_of_valid hvalid rfl hrun (Or.inl hstays)).1 hconflicts⟩

/-- With an empty title the validator accepts it, and it is not extracted. -/
theorem not_extracted_petShop :
    (validate false (petShop "")).issues = [] ∧
      ∃ r, (Resolution.resolve {} Resolution.unserved "" (petShop "")).outcome = .ok r ∧
        r.resolved = petShop "" ∧ conflicts r.resolved = [.emptyText "title"] ∧
          ¬∃ api, Api.extract "" r.resolved = .ok api := by
  have hvalid : (validate false (petShop "")).issues = [] :=
    List.isEmpty_iff.mp (by decide +kernel)
  have hconflicts : conflicts (petShop "") = [.emptyText "title"] := by decide +kernel
  have hnone : (Api.extract "" (petShop "")).toOption.isNone = true := by decide +kernel
  refine ⟨hvalid, _, (resolve_petShop "").1, rfl, hconflicts, ?_⟩
  rintro ⟨api, hapi⟩
  rw [hapi] at hnone
  cases hnone

end ClientGen
