import ClientGen.Proofs.Shape
import ClientGen.Report.Failures
import ClientGen.Validation

/-!
# Ways of accepting a document

A document is accepted after all tiers of validation or without the last one, strictly or leniently.
What the tiers before the grammar find is never tolerated, and what the grammar finds always may be;
as the grammar is only consulted where the others find nothing, the issues of a validation are all
of one sort.  Hence `accept_cases`: either the document goes on as it is, or every issue is fatal
and the failure shows them all, the first one as its message.

`basicIssues_eq_nil_iff` says which documents the first tiers pass.  The grammar may be any `Tier`;
that of OpenAPI is one (`openApiTier`).
-/

namespace ClientGen

/-! ### The tiers before the grammar -/

/-- A field is right when it is there with a value of its type. -/
theorem fieldIssues_eq_nil_iff {container : Value} {name path : String} {type : BasicType} :
    fieldIssues container name path type = [] ↔
      ∃ value, container.field? name = some value ∧ type.accepts value = true := by
  have hnull : type.accepts .null = false := by cases type <;> rfl
  unfold fieldIssues
  cases hfield : container.field? name with
  | none =>
    refine iff_of_false (List.cons_ne_nil _ _) ?_
    rintro ⟨value, hvalue, -⟩
    cases hvalue
  | some found =>
    dsimp only [Option.getD]
    split
    · refine iff_of_false (List.cons_ne_nil _ _) ?_
      rintro ⟨value, hvalue, haccepts⟩
      cases hvalue
      rw [hnull] at haccepts
      cases haccepts
    · split
      · rename_i haccepts
        exact iff_of_true rfl ⟨found, rfl, haccepts⟩
      · rename_i hrefuses
        refine iff_of_false (List.cons_ne_nil _ _) ?_
        rintro ⟨value, hvalue, haccepts⟩
        cases hvalue
        exact hrefuses haccepts

theorem exists_text_iff {container : Value} {name : String} :
    (∃ value, container.field? name = some value ∧ BasicType.text.accepts value = true) ↔
      ∃ s, container.field? name = some (.str s) := by
  constructor
  · rintro ⟨value, hvalue, haccepts⟩
    cases value with
    | str s => exact ⟨s, hvalue⟩
    | _ => cases haccepts
  · rintro ⟨s, hs⟩
    exact ⟨.str s, hs, rfl⟩

/-- A document of a 3.x version with information and paths. -/
structure HasOutline (content : Value) : Prop where
  isObject : content.isObject = true
  info : ∃ info, content.field? "info" = some info ∧ info.isObject = true ∧
    (∃ title, info.field? "title" = some (.str title)) ∧
    ∃ version, info.field? "version" = some (.str version)
  paths : ∃ paths, content.field? "paths" = some paths ∧ paths.isObject = true
  openapi : ∃ version, content.field? "openapi" = some (.str version) ∧
    Text.startsWith "3." version = true

theorem infoIssues_eq_nil_iff {info : Value} (hinfo : info.isObject = true) :
    infoIssues info = [] ↔
      (∃ title, info.field? "title" = some (.str title)) ∧
        ∃ version, info.field? "version" = some (.str version) := by
  unfold infoIssues
  rw [if_pos hinfo, List.append_eq_nil_iff, fieldIssues_eq_nil_iff, fieldIssues_eq_nil_iff,
    exists_text_iff, exists_text_iff]

theorem versionIssues_eq_nil_iff {content : Value} :
    versionIssues content = [] ↔
      ∃ version, content.field? "openapi" = some (.str version) ∧
        Text.startsWith "3." version = true := by
  unfold versionIssues
  split
  · rename_i version hversion
    have hfield : content.field? "openapi" = some (.str version) := by
      cases hfound : content.field? "openapi" with
      | none =>
        rw [hfound] at hversion
        cases hversion
      | some value =>
        rw [hfound] at hversion
        exact congrArg some hversion
    split
    · rename_i hlead
      exact iff_of_true rfl ⟨version, hfield, hlead⟩
    · rename_i hlead
      refine iff_of_false (List.cons_ne_nil _ _) ?_
      rintro ⟨other, hother, hstarts⟩
      cases hfield.symm.trans hother
      exact hlead hstarts
  · rename_i hnone
    refine iff_of_false (List.cons_ne_nil _ _) ?_
    rintro ⟨version, hversion, -⟩
    exact hnone version (by rw [hversion]; rfl)

theorem structureIssues_eq_nil_iff {content : Value} :
    structureIssues content = [] ↔
      content.isObject = true ∧
      (∃ info, content.field? "info" = some info ∧ info.isObject = true ∧
        (∃ title, info.field? "title" = some (.str title)) ∧
        ∃ version, info.field? "version" = some (.str version)) ∧
      ∃ paths, content.field? "paths" = some paths ∧ paths.isObject = true := by
  unfold structureIssues
  split
  · rename_i hobject
    rw [List.append_eq_nil_iff, List.append_eq_nil_iff, fieldIssues_eq_nil_iff,
      fieldIssues_eq_nil_iff]
    constructor
    · rintro ⟨⟨⟨info, hinfo, htype⟩, hparts⟩, hpaths⟩
      rw [hinfo] at hparts
      exact ⟨hobject, ⟨info, hinfo, htype, (infoIssues_eq_nil_iff htype).mp hparts⟩, hpaths⟩
    · rintro ⟨-, ⟨info, hinfo, htype, hparts⟩, hpaths⟩
      rw [hinfo]
      exact ⟨⟨⟨info, rfl, htype⟩, (infoIssues_eq_nil_iff htype).mpr hparts⟩, hpaths⟩
  · rename_i hobject
    exact iff_of_false (List.cons_ne_nil _ _) fun h => hobject h.1

/-- The first tiers pass the documents that have the outline, and no others. -/
theorem basicIssues_eq_nil_iff {content : Value} :
    basicIssues content = [] ↔ HasOutline content := by
  unfold basicIssues
  rw [List.append_eq_nil_iff, structureIssues_eq_nil_iff, versionIssues_eq_nil_iff]
  constructor
  · rintro ⟨⟨hobject, hinfo, hpaths⟩, hversion⟩
    exact ⟨hobject, hinfo, hpaths, hversion⟩
  · rintro ⟨hobject, hinfo, hpaths, hversion⟩
    exact ⟨⟨hobject, hinfo, hpaths⟩, hversion⟩

/-- The kinds of issues that the tiers before the grammar find. -/
def FailureKind.isBasic (kind : FailureKind) : Prop :=
  kind = .missingField ∨ kind = .wrongType ∨ kind = .unsupportedVersion

theorem isBasic_of_mem_fieldIssues {container : Value} {name path : String} {type : BasicType}
    {issue : Issue} (h : issue ∈ fieldIssues container name path type) : issue.kind.isBasic := by
  unfold fieldIssues at h
  split at h
  · rw [List.mem_singleton.mp h]
    exact .inl rfl
  · split at h
    · cases h
    · rw [List.mem_singleton.mp h]
      exact .inr (.inl rfl)

theorem isBasic_of_mem_infoIssues {info : Value} {issue : Issue} (h : issue ∈ infoIssues info) :
    issue.kind.isBasic := by
  unfold infoIssues at h
  split at h
  · rcases List.mem_append.mp h with htitle | hversion
    · exact isBasic_of_mem_fieldIssues htitle
    · exact isBasic_of_mem_fieldIssues hversion
  · cases h

theorem isBasic_of_mem_structureIssues {content : Value} {issue : Issue}
    (h : issue ∈ structureIssues content) : issue.kind.isBasic := by
  unfold structureIssues at h
  split at h
  · rw [List.mem_append, List.mem_append] at h
    rcases h with (hinfo | hparts) | hpaths
    · exact isBasic_of_mem_fieldIssues hinfo
    · exact isBasic_of_mem_infoIssues hparts
    · exact isBasic_of_mem_fieldIssues hpaths
  · rw [List.mem_singleton.mp h]
    exact .inr (.inl rfl)

theorem isBasic_of_mem_versionIssues {content : Value} {issue : Issue}
    (h : issue ∈ versionIssues content) : issue.kind.isBasic := by
  unfold versionIssues at h
  split at h
  · split at h
    · cases h
    · rw [List.mem_singleton.mp h]
      exact .inr (.inr rfl)
  · rw [List.mem_singleton.mp h]
    exact .inr (.inr rfl)

theorem isBasic_of_mem_basicIssues {content : Value} {issue : Issue}
    (h : issue ∈ basicIssues content) : issue.kind.isBasic := by
  rcases List.mem_append.mp h with hstructure | hversion
  · exact isBasic_of_mem_structureIssues hstructure
  · exact isBasic_of_mem_versionIssues hversion

/-- What the tiers before the grammar find is never tolerated. -/
theorem isFatal_of_isBasic {issue : Issue} (h : issue.kind.isBasic) (lenient : Bool) :
    issue.isFatal lenient = true := by
  unfold Issue.isFatal
  rcases h with hkind | hkind | hkind <;> rw [hkind] <;> cases lenient <;> rfl

theorem stage_of_isBasic {kind : FailureKind} (h : kind.isBasic) : kind.stage = .validation := by
  rcases h with rfl | rfl | rfl <;> rfl

/-! ### The grammar as a tier -/

/-- A last tier: it decodes a document, or it finds issues, all of them violations of its
grammar. -/
structure Tier where
  decode : Value → Except (List Issue) Value
  ne_nil : ∀ {content issues}, decode content = .error issues → issues ≠ []
  kind_eq : ∀ {content issues}, decode content = .error issues →
    ∀ issue ∈ issues, issue.kind = .schemaViolation

namespace Shape

theorem Gathered.faults_ne_nil_of_verdict {α : Type} {gathered : Gathered α}
    {whole : List α → Value} {faults : List Fault} (h : gathered.verdict whole = .error faults) :
    faults ≠ [] := by
  unfold Gathered.verdict at h
  split at h
  · cases h
  · rename_i hsome
    cases h
    exact fun hnil => hsome (List.isEmpty_iff.mpr hnil)

theorem faults_ne_nil_of_checkRecord {ρ : Type} {record : Record ρ} {subject : Subject ρ}
    {fit : Fit}
    {faults : List Fault} (h : checkRecord record subject fit = .error faults) : faults ≠ [] := by
  unfold checkRecord at h
  by_cases hobject : subject.value.isObject = true
  · rw [if_pos hobject] at h
    exact Gathered.faults_ne_nil_of_verdict h
  · rw [if_neg hobject] at h
    cases h
    exact List.cons_ne_nil _ _

/-- The check of a record that finds fault says which. -/
theorem faults_ne_nil_of_check {ρ : Type} {grammar : ρ → Record ρ} {name : ρ} {value : Value}
    {faults : List Fault} (h : check grammar (.record name) value = .error faults) :
    faults ≠ [] := by
  unfold check at h
  rw [checker_eq_judge, judge_record] at h
  cases hrecord : checkRecord (grammar name) (subject grammar value) .start with
  | ok result =>
    rw [hrecord] at h
    cases h
  | error more =>
    rw [hrecord] at h
    cases h
    exact faults_ne_nil_of_checkRecord hrecord

end Shape

theorem decodeDocument_error {content : Value} {issues : List Issue}
    (h : decodeDocument content = .error issues) :
    issues ≠ [] ∧ ∀ issue ∈ issues, issue.kind = .schemaViolation := by
  unfold decodeDocument at h
  cases hdecode : OpenApi.decode content with
  | ok decoded =>
    rw [hdecode] at h
    cases h
  | error faults =>
    rw [hdecode] at h
    cases h
    refine ⟨fun hnil => ?_, fun issue hissue => ?_⟩
    · exact Shape.faults_ne_nil_of_check hdecode (List.map_eq_nil_iff.mp hnil)
    · obtain ⟨fault, -, rfl⟩ := List.mem_map.mp hissue
      rfl

/-- The grammar of OpenAPI as a last tier, with which documents are validated. -/
def openApiTier : Tier where
  decode := decodeDocument
  ne_nil h := (decodeDocument_error h).1
  kind_eq h := (decodeDocument_error h).2

namespace Tier

/-- Validates a document with the tier, unless the tier is skipped. -/
def validate (tier : Tier) (skipGrammar : Bool) (content : Value) : Validation :=
  validateWith tier.decode skipGrammar content

/-- Validates a document and accepts it, strictly or leniently. -/
def accept (tier : Tier) (skipGrammar lenient : Bool) (document : Document) :
    Except Failure Accepted :=
  (tier.validate skipGrammar document.content).accept document lenient

variable (tier : Tier) (skipGrammar : Bool) (content : Value)

/-- The issues of a validation are all of one sort: those of the first tiers where the outline is
not right, and those of the grammar where it is. -/
theorem issues_cases :
    (¬HasOutline content ∧ (tier.validate skipGrammar content).issues ≠ [] ∧
      ∀ issue ∈ (tier.validate skipGrammar content).issues, issue.kind.isBasic) ∨
    (HasOutline content ∧ (tier.validate skipGrammar content).issues = []) ∨
    (HasOutline content ∧ skipGrammar = false ∧ (tier.validate skipGrammar content).issues ≠ [] ∧
      ∀ issue ∈ (tier.validate skipGrammar content).issues, issue.kind = .schemaViolation) := by
  unfold validate validateWith
  cases hbasic : basicIssues content with
  | cons first rest =>
    have hkinds : ∀ issue ∈ first :: rest, issue.kind.isBasic :=
      fun issue hissue => isBasic_of_mem_basicIssues (hbasic ▸ hissue)
    refine .inl ⟨fun houtline => ?_, List.cons_ne_nil _ _, hkinds⟩
    rw [basicIssues_eq_nil_iff.mpr houtline] at hbasic
    cases hbasic
  | nil =>
    have houtline : HasOutline content := basicIssues_eq_nil_iff.mp hbasic
    cases skipGrammar with
    | true => exact .inr (.inl ⟨houtline, rfl⟩)
    | false =>
      cases hdecode : tier.decode content with
      | ok decoded => exact .inr (.inl ⟨houtline, rfl⟩)
      | error issues =>
        exact .inr (.inr ⟨houtline, rfl, tier.ne_nil hdecode, tier.kind_eq hdecode⟩)

theorem stage_of_mem_issues {issue : Issue}
    (h : issue ∈ (tier.validate skipGrammar content).issues) : issue.kind.stage = .validation := by
  rcases tier.issues_cases skipGrammar content with ⟨-, -, hkinds⟩ | ⟨-, hnil⟩ | ⟨-, -, -, hkinds⟩
  · exact stage_of_isBasic (hkinds issue h)
  · rw [hnil] at h
    cases h
  · rw [hkinds issue h]
    rfl

end Tier

theorem validate_openApiTier : openApiTier.validate = ClientGen.validate := rfl

/-! ### Acceptance -/

namespace Validation

variable {v : Validation} {document : Document} {lenient : Bool}

theorem accept_of_tolerated (h : ∀ issue ∈ v.issues, issue.isFatal lenient = false) :
    v.accept document lenient = .ok ⟨document, v.decoded, v.issues⟩ := by
  have hnone : v.issues.filter (Issue.isFatal lenient) = [] :=
    List.filter_eq_nil_iff.mpr fun issue hissue => by rw [h issue hissue]; exact Bool.false_ne_true
  unfold accept
  rw [hnone]

/-- The failure of a document all of whose issues are fatal: the first one is its message, and all
of them are its details. -/
def refusal (document : Document) (first : Issue) (rest : List Issue) : Failure where
  kind := first.kind
  message := "OpenAPI validation failed at " ++ first.line
  file := document.path
  details := (first :: rest).map Issue.line

theorem accept_of_fatal {first : Issue} {rest : List Issue} (hissues : v.issues = first :: rest)
    (h : ∀ issue ∈ v.issues, issue.isFatal lenient = true) :
    v.accept document lenient = .error (refusal document first rest) := by
  have hall : v.issues.filter (Issue.isFatal lenient) = first :: rest := by
    rw [List.filter_eq_self.mpr h, hissues]
  unfold accept refusal Issue.line
  rw [hall, hissues]
  simp only [String.append_assoc]

end Validation

namespace Tier

variable {tier : Tier} {skipGrammar lenient : Bool} {document : Document}

/-- Without issues, strictness makes no difference. -/
theorem accept_of_issues_eq_nil (h : (tier.validate skipGrammar document.content).issues = []) :
    tier.accept skipGrammar lenient document =
      .ok ⟨document, (tier.validate skipGrammar document.content).decoded, []⟩ := by
  unfold accept
  rw [Validation.accept_of_tolerated, h]
  intro issue hissue
  rw [h] at hissue
  cases hissue

variable (tier skipGrammar lenient document)

/-- A document goes on as it is, when its outline is right and no issue of the grammar is fatal; or
all of its issues are fatal, and it fails with all of them. -/
theorem accept_cases :
    (HasOutline document.content ∧
      ((tier.validate skipGrammar document.content).issues = [] ∨
        skipGrammar = false ∧ lenient = true) ∧
      tier.accept skipGrammar lenient document =
        .ok ⟨document, (tier.validate skipGrammar document.content).decoded,
          (tier.validate skipGrammar document.content).issues⟩) ∨
    ((HasOutline document.content → skipGrammar = false ∧ lenient = false) ∧
      ∃ first rest, (tier.validate skipGrammar document.content).issues = first :: rest ∧
        tier.accept skipGrammar lenient document =
          .error (Validation.refusal document first rest)) := by
  rcases tier.issues_cases skipGrammar document.content with
    ⟨hnone, hsome, hkinds⟩ | ⟨houtline, hnil⟩ | ⟨houtline, hconsulted, hsome, hkinds⟩
  · obtain ⟨first, rest, hissues⟩ := List.exists_cons_of_ne_nil hsome
    refine .inr ⟨fun houtline => absurd houtline hnone, first, rest, hissues, ?_⟩
    exact Validation.accept_of_fatal hissues
      fun issue hissue => isFatal_of_isBasic (hkinds issue hissue) lenient
  · refine .inl ⟨houtline, .inl hnil, ?_⟩
    rw [hnil]
    exact accept_of_issues_eq_nil hnil
  · cases lenient with
    | true =>
      refine .inl ⟨houtline, .inr ⟨hconsulted, rfl⟩, Validation.accept_of_tolerated ?_⟩
      intro issue hissue
      unfold Issue.isFatal
      rw [hkinds issue hissue]
      rfl
    | false =>
      obtain ⟨first, rest, hissues⟩ := List.exists_cons_of_ne_nil hsome
      exact .inr ⟨fun _ => ⟨hconsulted, rfl⟩, first, rest, hissues,
        Validation.accept_of_fatal hissues fun issue _ => rfl⟩

variable {tier skipGrammar lenient document} {accepted : Accepted} {f : Failure}

theorem accept_ok (h : tier.accept skipGrammar lenient document = .ok accepted) :
    HasOutline document.content ∧
      ((tier.validate skipGrammar document.content).issues = [] ∨
        skipGrammar = false ∧ lenient = true) ∧
      accepted = ⟨document, (tier.validate skipGrammar document.content).decoded,
        (tier.validate skipGrammar document.content).issues⟩ := by
  rcases tier.accept_cases skipGrammar lenient document with
    ⟨houtline, hissues, hok⟩ | ⟨-, first, rest, -, herror⟩
  · exact ⟨houtline, hissues, Except.ok.inj (h.symm.trans hok)⟩
  · cases h.symm.trans herror

theorem accept_error (h : tier.accept skipGrammar lenient document = .error f) :
    ∃ first rest, (tier.validate skipGrammar document.content).issues = first :: rest ∧
      f = Validation.refusal document first rest := by
  rcases tier.accept_cases skipGrammar lenient document with
    ⟨-, -, hok⟩ | ⟨-, first, rest, hissues, herror⟩
  · cases h.symm.trans hok
  · exact ⟨first, rest, hissues, Except.error.inj (h.symm.trans herror)⟩

/-- Where the grammar is not consulted or only put on record, the outline decides. -/
theorem accept_ok_iff (h : skipGrammar = true ∨ lenient = true) :
    (∃ accepted, tier.accept skipGrammar lenient document = .ok accepted) ↔
      HasOutline document.content := by
  constructor
  · rintro ⟨accepted, haccepted⟩
    exact (accept_ok haccepted).1
  · intro houtline
    rcases tier.accept_cases skipGrammar lenient document with
      ⟨-, -, hok⟩ | ⟨hrefused, -⟩
    · exact ⟨_, hok⟩
    · obtain ⟨hconsulted, hstrict⟩ := hrefused houtline
      rcases h with hskip | hlenient
      · cases hconsulted.symm.trans hskip
      · cases hstrict.symm.trans hlenient

end Tier

/-! ### The report on a refusal -/

namespace Report

theorem mem_foldl_keys {κ : Type} [DecidableEq κ] {k : κ} (keys found : List κ) :
    k ∈ keys.foldl (fun found k => if k ∈ found then found else found ++ [k]) found ↔
      k ∈ keys ∨ k ∈ found := by
  induction keys generalizing found with
  | nil => exact ⟨.inr, fun h => h.resolve_left List.not_mem_nil⟩
  | cons head rest ih =>
    rw [List.foldl_cons, ih, List.mem_cons]
    split
    · rename_i hfound
      constructor
      · rintro (hrest | hold)
        · exact .inl (.inr hrest)
        · exact .inr hold
      · rintro ((rfl | hrest) | hold)
        · exact .inr hfound
        · exact .inl hrest
        · exact .inr hold
    · rw [List.mem_append, List.mem_singleton]
      constructor
      · rintro (hrest | hold | hnew)
        · exact .inl (.inr hrest)
        · exact .inr hold
        · exact .inl (.inl hnew)
      · rintro ((hnew | hrest) | hold)
        · exact .inr (.inr hnew)
        · exact .inl hrest
        · exact .inr (.inl hold)

theorem mem_groupBy {α κ : Type} [DecidableEq κ] (key : α → κ) {xs : List α} {x : α} (h : x ∈ xs) :
    (key x, xs.filter fun y => key y = key x) ∈ groupBy key xs := by
  refine List.mem_map_of_mem ?_
  exact (mem_foldl_keys _ _).mpr (.inl (List.mem_map_of_mem h))

/-- The lines of the failures of one file. -/
def fileLines (group : String × List Failure) : List String :=
  ((if group.1.isEmpty then "<unknown>" else group.1) ++ ":") ::
    group.2.flatMap failureLines ++ [""]

/-- A report has the lines of each of its failures, as they are and one after the other. -/
theorem exists_failureLines {fs : List Failure} {f : Failure} (h : f ∈ fs) :
    ∃ before after, failures fs = ofLines (before ++ failureLines f ++ after) := by
  obtain ⟨earlier, later, hgroups⟩ := List.append_of_mem (mem_groupBy Failure.file h)
  have hmember : f ∈ fs.filter fun g => g.file = f.file :=
    List.mem_filter.mpr ⟨h, decide_eq_true rfl⟩
  obtain ⟨previous, next, hgroup⟩ := List.append_of_mem hmember
  have hshown : failures fs =
      ofLines (heading (failMark ++ " Error Report") ++ (byFile fs).flatMap fileLines) := by
    unfold failures
    rw [if_neg fun hnil => List.ne_nil_of_mem h (List.isEmpty_iff.mp hnil)]
    rfl
  refine ⟨heading (failMark ++ " Error Report") ++ (earlier.flatMap fileLines ++
    ((if f.file.isEmpty then "<unknown>" else f.file) ++ ":") :: previous.flatMap failureLines),
    next.flatMap failureLines ++ [""] ++ later.flatMap fileLines, ?_⟩
  rw [hshown]
  unfold byFile
  rw [hgroups, hgroup, List.flatMap_append, List.flatMap_cons, fileLines, List.flatMap_append,
    List.flatMap_cons]
  simp only [List.append_assoc, List.cons_append]

/-- The lines of a failed validation leave its first detail out and mark the others with nothing. -/
theorem failureLines_of_validation {f : Failure} (h : f.stage = .validation) :
    failureLines f =
      ("  - " ++ f.line) :: (f.details.drop 1).map fun detail => "      " ++ detail := by
  have hindent : ∀ detail, "      " ++ "" ++ detail = "      " ++ detail :=
    fun detail => congrArg (fun lead => lead ++ detail) String.append_empty
  unfold failureLines
  rw [if_pos h]
  unfold Failure.stage at h
  dsimp only
  split
  · rename_i hkind
    rw [hkind] at h
    cases h
  · rename_i hkind
    rw [hkind] at h
    cases h
  · exact congrArg _ (List.map_congr_left fun detail _ => hindent detail)

/-- The lines of a refused document show every issue: the first one in the line of the failure, as
it is left out of the details. -/
theorem failureLines_refusal {document : Document} {first : Issue} {rest : List Issue}
    (h : first.kind.stage = .validation) :
    failureLines (Validation.refusal document first rest) =
      ("  - [validation] " ++ first.kind.label ++ ": OpenAPI validation failed at " ++
          first.line) ::
        rest.map fun issue => "      " ++ issue.line := by
  have hstage : (Validation.refusal document first rest).stage = .validation := h
  have hmark : "  - " ++ "[" ++ Stage.validation.name ++ "] " = "  - [validation] " := by decide
  have hmessage : ": " ++ "OpenAPI validation failed at " = ": OpenAPI validation failed at " := by
    decide
  have hhead : "  - " ++ (Validation.refusal document first rest).line =
      "  - [validation] " ++ first.kind.label ++ ": OpenAPI validation failed at " ++
        first.line := by
    unfold Failure.line
    rw [hstage, ← hmark, ← hmessage]
    simp only [Validation.refusal, String.append_assoc]
  rw [failureLines_of_validation hstage, hhead, Validation.refusal, List.map_cons, List.drop_one,
    List.tail_cons, List.map_map]
  rfl

end Report

/-! ### The ways agree -/

/-- A document is refused with all the issues of its validation, the first one ahead, and every
report on the failure shows them all. -/
structure RefusedWith (document : Document) (first : Issue) (rest : List Issue) (f : Failure) :
    Prop where
  kind : f.kind = first.kind
  message : f.message = "OpenAPI validation failed at " ++ first.path ++ ": " ++ first.message
  file : f.file = document.path
  details : f.details = (first :: rest).map Issue.line
  shown : ∀ failures, f ∈ failures → ∃ before after, Report.failures failures =
    Report.ofLines (before ++
      (("  - [validation] " ++ first.kind.label ++ ": OpenAPI validation failed at " ++
          first.line) ::
        rest.map fun issue => "      " ++ issue.line) ++ after)

/-- The ways of accepting a document agree. -/
structure WaysAgree (tier : Tier) (document : Document) : Prop where
  /-- The lenient way takes the documents in which the first tiers find nothing. -/
  lenient_iff : (∃ accepted, tier.accept false true document = .ok accepted) ↔
    structureIssues document.content = [] ∧ versionIssues document.content = []
  /-- So does the strict way without the grammar. -/
  skipping_iff : (∃ accepted, tier.accept true false document = .ok accepted) ↔
    structureIssues document.content = [] ∧ versionIssues document.content = []
  /-- Every way hands on the document as it is, and its outline is right. -/
  unchanged : ∀ skipGrammar lenient accepted,
    tier.accept skipGrammar lenient document = .ok accepted →
      accepted.document = document ∧ HasOutline accepted.document.content
  /-- What the strict way takes, the lenient one takes without an issue. -/
  lenient_of_strict : ∀ accepted, tier.accept false false document = .ok accepted →
    tier.accept false true document = .ok accepted ∧ accepted.issues = []
  /-- What the lenient way takes without an issue, the strict one takes. -/
  strict_of_lenient : ∀ accepted, tier.accept false true document = .ok accepted →
    accepted.issues = [] → tier.accept false false document = .ok accepted
  /-- A way that refuses the document tells all that is wrong. -/
  refused : ∀ skipGrammar lenient f, tier.accept skipGrammar lenient document = .error f →
    ∃ first rest, (tier.validate skipGrammar document.content).issues = first :: rest ∧
      RefusedWith document first rest f

/-- **The ways of accepting a document agree.**  For every last tier and every document, the lenient
way and the one without the grammar take what the first tiers pass, the strict way takes what the
lenient one takes without an issue, and a refusal tells everything that is wrong. -/
theorem waysAgree (tier : Tier) (document : Document) : WaysAgree tier document where
  lenient_iff := by
    rw [Tier.accept_ok_iff (.inr rfl), ← basicIssues_eq_nil_iff]
    exact List.append_eq_nil_iff
  skipping_iff := by
    rw [Tier.accept_ok_iff (.inl rfl), ← basicIssues_eq_nil_iff]
    exact List.append_eq_nil_iff
  unchanged skipGrammar lenient accepted haccepted := by
    obtain ⟨houtline, -, rfl⟩ := Tier.accept_ok haccepted
    exact ⟨rfl, houtline⟩
  lenient_of_strict accepted haccepted := by
    obtain ⟨-, hissues, rfl⟩ := Tier.accept_ok haccepted
    have hnil : (tier.validate false document.content).issues = [] :=
      hissues.resolve_right fun h => Bool.false_ne_true h.2
    refine ⟨?_, hnil⟩
    rw [Tier.accept_of_issues_eq_nil hnil, hnil]
  strict_of_lenient accepted haccepted hnil := by
    obtain ⟨-, -, rfl⟩ := Tier.accept_ok haccepted
    have hissues : (tier.validate false document.content).issues = [] := hnil
    rw [Tier.accept_of_issues_eq_nil hissues, hissues]
  refused skipGrammar lenient f hrefused := by
    obtain ⟨first, rest, hissues, rfl⟩ := Tier.accept_error hrefused
    have hstage : first.kind.stage = .validation :=
      tier.stage_of_mem_issues skipGrammar document.content (hissues ▸ List.mem_cons_self)
    refine ⟨first, rest, hissues, rfl, ?_, rfl, rfl, fun failures hmember => ?_⟩
    · exact (String.append_assoc ..).symm
    · obtain ⟨before, after, hreport⟩ := Report.exists_failureLines hmember
      rw [Report.failureLines_refusal hstage] at hreport
      exact ⟨before, after, hreport⟩

end ClientGen
