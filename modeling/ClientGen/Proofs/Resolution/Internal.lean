import ClientGen.Proofs.Resolution.Failures
import ClientGen.Proofs.Resolution.Visits

/-!
# References into the document itself

Two tests tell the references into a document from those that lead out of it.  The check before a
resolution takes those for internal that start with `#/`; the resolver looks everything up in the
document at hand that starts with `#` (`isLookedUpInside_iff`).  So the two agree on a reference
unless it starts with `#` and not with `#/` (`agreesOnInternal_iff`).

Such a reference is taken for a URL before anything is resolved, and as a URL it is empty and has no
scheme (`withoutFragment_hash`, `checkUrl_empty`), so the gate refuses it.  A document whose
references all start with `#` is therefore resolved without the network exactly when they all start
with `#/` (`settlesInternal`): nothing that the resolver itself comes to is refused or fetched there
(`startsWith_of_comes`, `kind_of_courseLocal`).
-/

namespace ClientGen.Resolution

/-! ### Two tests of one distinction -/

/-- The resolver looks a reference up inside the document in which it stands, whatever document that
is and whatever is being expanded. -/
def IsLookedUpInside (ref : String) : Prop :=
  ∃ pointer, ∀ settings context seen j,
    course settings context seen ref j = courseLocal settings context seen ref pointer j

/-- The classification takes a reference for internal exactly when the resolver looks it up inside
its document. -/
def AgreesOnInternal (ref : String) : Prop :=
  ∀ refs : List String, ref ∈ refs →
    (ref ∈ (Reference.classify refs).internal ↔ IsLookedUpInside ref)

/-- The kinds of failures that arise between the gate and the network. -/
def networkKinds : List FailureKind :=
  [.unsafeProtocol, .privateAddress, .domainNotAllowed, .networkTimeout, .fetchFailed]

/-- The resolution of a document fails neither at the gate nor in the network. -/
def StaysOffNetwork (options : ResolutionOptions) (fetchers : Net.Changing Net.Fetcher)
    (depth : Nat) (file : String) (content : Value) : Prop :=
  ∀ failure : Failure,
    (resolveFrom depth options fetchers file content).outcome = .error (.failure failure) →
      failure.kind ∉ networkKinds

/-- The failure of an internal reference that is taken for a URL. -/
def internalRefused : Failure := (Net.Refusal.scheme "").failure ""

section Reference

variable {ref : String}

theorem startsWith_hash_iff :
    Text.startsWith "#" ref = true ↔ ∃ pointer, localPointer? ref = some pointer := by
  unfold Text.startsWith localPointer?
  have hhash : "#".toList = ['#'] := rfl
  rw [hhash]
  cases ref.toList with
  | nil => simp
  | cons c rest =>
    by_cases hc : c = '#'
    · subst hc
      simp
    · have hother : '#' ≠ c := fun h => hc h.symm
      simp [hother, hc]

theorem startsWith_hash_of_isInternal (h : Reference.isInternal ref = true) :
    Text.startsWith "#" ref = true := by
  unfold Reference.isInternal Text.startsWith at h
  unfold Text.startsWith
  have hshorter : "#".toList <+: "#/".toList := ⟨['/'], rfl⟩
  exact List.isPrefixOf_iff_prefix.mpr (hshorter.trans (List.isPrefixOf_iff_prefix.mp h))

/-- In a bundle a reference that leads out of its document stays in place, which no reference into
it does that can be entered or fails. -/
theorem courseLocal_ne_stays (pointer : String) :
    courseLocal ⟨false, false, [], unserved⟩ ⟨.null, some ""⟩ [] ref pointer .start ≠
      .stays .start := by
  intro h
  have hlink : isLink ⟨false, false, [], unserved⟩ ⟨.null, some ""⟩ ref = false := rfl
  unfold courseLocal Course.into at h
  rw [hlink] at h
  simp only [Bool.false_eq_true, if_false, List.contains_nil] at h
  cases hfollow : Pointer.follow .null pointer <;> rw [hfollow] at h <;> cases h

/-- **The resolver looks a reference up inside its document exactly when it starts with `#`.** -/
theorem isLookedUpInside_iff : IsLookedUpInside ref ↔ Text.startsWith "#" ref = true := by
  rw [startsWith_hash_iff]
  constructor
  · rintro ⟨pointer, hcourse⟩
    by_contra hnone
    have hpointer : localPointer? ref = none := by
      simpa [Option.eq_none_iff_forall_ne_some] using hnone
    have hstays : course ⟨false, false, [], unserved⟩ ⟨.null, some ""⟩ [] ref .start =
        .stays .start := by
      unfold course
      rw [hpointer]
      rfl
    exact courseLocal_ne_stays pointer ((hcourse _ _ _ _).symm.trans hstays)
  · rintro ⟨pointer, hpointer⟩
    refine ⟨pointer, fun settings context seen j => ?_⟩
    unfold course
    rw [hpointer]

theorem mem_internal_iff {refs : List String} (href : ref ∈ refs) :
    ref ∈ (Reference.classify refs).internal ↔ Reference.isInternal ref = true := by
  unfold Reference.classify
  rw [List.mem_filter, and_iff_right href]

/-- **Classification and resolution agree on a reference** unless it starts with `#` and not with
`#/`. -/
theorem agreesOnInternal_iff :
    AgreesOnInternal ref ↔
      (Text.startsWith "#" ref = true → Reference.isInternal ref = true) := by
  constructor
  · intro hagrees hhash
    have hmem : ref ∈ [ref] := List.mem_singleton_self ref
    exact (mem_internal_iff hmem).mp ((hagrees [ref] hmem).mpr (isLookedUpInside_iff.mpr hhash))
  · intro himplies refs hmem
    rw [mem_internal_iff hmem, isLookedUpInside_iff]
    exact ⟨startsWith_hash_of_isInternal, himplies⟩

end Reference

/-! ### Internal references as URLs -/

section Url

variable {ref : String}

/-- Nothing that starts with `#` has a scheme. -/
theorem splitScheme_hash (rest : List Char) : Url.splitScheme ('#' :: rest) = none := by
  unfold Url.splitScheme Url.cutAt
  have hcolon : ('#' == ':') = false := rfl
  rw [hcolon]
  cases Url.cutAt (· == ':') rest with
  | none => rfl
  | some parts => rfl

/-- All of a reference that starts with `#` is fragment. -/
theorem splitChars_hash (rest : List Char) :
    Url.splitChars [] ('#' :: rest) =
      .ok ⟨[], [], [], [], rest.filter fun c => !Url.isIgnored c⟩ := by
  have hkept : ('#' :: rest).filter (fun c => !Url.isIgnored c) =
      '#' :: rest.filter fun c => !Url.isIgnored c := rfl
  unfold Url.splitChars
  rw [hkept]
  dsimp only
  rw [splitScheme_hash]
  rfl

theorem withoutFragment_hash (h : Text.startsWith "#" ref = true) :
    ∃ fragment, Url.withoutFragment ref = .ok ("", fragment) := by
  obtain ⟨rest, hrest⟩ : ∃ rest, '#' :: rest = ref.toList := by
    obtain ⟨rest, hrest⟩ := List.isPrefixOf_iff_prefix.mp h
    exact ⟨rest, hrest⟩
  refine ⟨String.ofList (rest.filter fun c => !Url.isIgnored c), ?_⟩
  unfold Url.withoutFragment Url.split
  rw [← hrest, if_pos (by simp), splitChars_hash]
  rfl

/-- **As a URL an internal reference is empty**, so the gate misses its scheme. -/
theorem checkUrl_empty (domains : List String) :
    Net.checkUrl "" domains = .error internalRefused := rfl

end Url

/-! ### Documents without references to other documents -/

section Visits

variable {options : ResolutionOptions} {fetchers : Net.Changing Net.Fetcher} {depth : Nat}
  {context : Context} {seen : List String} {value : Value} {j : Journal} {visit : Visit}

/-- A reference that is looked up inside its document can only fail to be found there. -/
theorem kind_of_courseLocal {settings : Settings} {ref pointer : String} {failure : Failure}
    (h : (courseLocal settings context seen ref pointer j).failure? = some failure) :
    failure.kind = .resolutionIncomplete := by
  unfold courseLocal Course.into at h
  split at h
  · split at h <;> cases h
    rfl
  · dsimp only at h
    split at h
    · cases h
    · split at h <;> cases h
      rfl

/-- A reference inside its document enters a part of that document, unless it is being expanded
already. -/
theorem courseLocal_enters {settings : Settings} {ref pointer identity : String}
    {inner : Context} {target : Value} {k : Journal}
    (h : courseLocal settings context seen ref pointer j = .enters identity inner target k) :
    isLink settings context ref = false ∧ identity = context.url.getD "" ++ ref ∧
      identity ∉ seen ∧ inner = context ∧ Pointer.follow context.root pointer = .ok target := by
  unfold courseLocal Course.into at h
  split at h
  · split at h <;> cases h
  · rename_i hlink
    dsimp only at h
    split at h
    · cases h
    · rename_i hseen
      split at h
      · cases h
      · rename_i hfollow
        cases h
        have hnew : context.url.getD "" ++ ref ∉ seen :=
          fun hmem => hseen (List.contains_iff_mem.mpr hmem)
        exact ⟨Bool.eq_false_iff.mpr hlink, rfl, hnew, rfl, hfollow⟩

/-- The references of a document are all looked up inside it. -/
def IsSelfContained (value : Value) : Prop :=
  ∀ ref ∈ Reference.occurrences value, Text.startsWith "#" ref = true

/-- What is self-contained has self-contained fields. -/
theorem IsSelfContained.field {before after : List (String × Value)} {name : String}
    (h : IsSelfContained (.object (before ++ (name, value) :: after))) : IsSelfContained value := by
  intro ref href
  exact h ref (Reference.mem_occurrences_object.mpr (Or.inr ⟨(name, value), by simp, href⟩))

theorem course_eq_courseLocal {settings : Settings} {ref : String}
    (h : Text.startsWith "#" ref = true) :
    ∃ pointer, course settings context seen ref j =
      courseLocal settings context seen ref pointer j := by
  obtain ⟨pointer, hcourse⟩ := isLookedUpInside_iff.mpr h
  exact ⟨pointer, hcourse settings context seen j⟩

/-- A resolution that starts in a self-contained document comes to references into it only. -/
theorem startsWith_of_comes (h : Comes options fetchers depth context seen value j visit)
    (hroot : IsSelfContained context.root) (hvalue : IsSelfContained value) :
    Text.startsWith "#" visit.ref = true := by
  have hinherited := Reference.inherited_occurrences fun ref => Text.startsWith "#" ref = true
  induction h with
  | here href => exact hvalue _ (Reference.mem_occurrences_object.mpr (Or.inl href))
  | item _ _ ih => exact ih hroot (hinherited.item hvalue (by simp))
  | field _ _ _ ih => exact ih hroot hvalue.field
  | target href hcourse _ ih =>
    have hhash := hvalue _ (Reference.mem_occurrences_object.mpr (Or.inl href))
    obtain ⟨pointer, hlocal⟩ := course_eq_courseLocal hhash
    obtain ⟨-, -, -, rfl, hfollow⟩ := courseLocal_enters (hlocal.symm.trans hcourse)
    exact ih hroot (Pointer.follow_inherited hinherited hroot hfollow)
  | sibling _ _ _ _ _ _ ih => exact ih hroot hvalue.field

end Visits

section Document

variable {options : ResolutionOptions} {fetchers : Net.Changing Net.Fetcher} {depth : Nat}
  {file : String} {content : Value}

/-- The first reference that the classification takes for external ends the resolution. -/
theorem outcome_of_misclassified (hexternal : options.external = true)
    (hself : IsSelfContained content) {ref : String} (href : ref ∈ Reference.references content)
    (hother : Reference.isInternal ref = false) :
    (resolveFrom depth options fetchers file content).outcome =
      .error (.failure (internalRefused.withFile file)) := by
  have hmem : ref ∈ (Reference.classify (Reference.references content)).external := by
    unfold Reference.classify
    rw [List.mem_filter, hother]
    exact ⟨href, rfl⟩
  obtain ⟨first, rest, hrefs⟩ := List.exists_cons_of_ne_nil (List.ne_nil_of_mem hmem)
  have hfirst : first ∈ Reference.references content := by
    have hin : first ∈ (Reference.classify (Reference.references content)).external := by
      rw [hrefs]
      exact List.mem_cons_self
    exact (List.mem_filter.mp hin).1
  obtain ⟨fragment, hurl⟩ := withoutFragment_hash (hself first (Reference.mem_references.mp hfirst))
  have hrefuses : GateRefuses options fetchers depth content internalRefused :=
    .early hexternal (hrefs.trans (List.nil_append _).symm) rfl hurl (checkUrl_empty options.domains)
  exact outcome_of_gateRefuses hrefuses file

/-- Nothing is refused or fetched for references that the classification takes for internal. -/
theorem staysOffNetwork_of_isInternal (hself : IsSelfContained content)
    (hinternal : ∀ ref ∈ Reference.references content, Reference.isInternal ref = true) :
    StaysOffNetwork options fetchers depth file content := by
  intro failure houtcome
  rw [outcome_resolveFrom] at houtcome
  obtain ⟨cause, hcause, rfl⟩ := conclude_failure houtcome
  -- What the run comes to is looked up inside the document, so it is at most not found.
  have hkind : ∀ visit, Comes options fetchers depth ⟨content, none⟩ [] content .start visit →
      ∀ f, (visit.course options fetchers).failure? = some f →
        f.kind = .resolutionIncomplete := by
    intro visit hcomes f hf
    obtain ⟨pointer, hlocal⟩ := course_eq_courseLocal (startsWith_of_comes hcomes hself hself)
    unfold Visit.course at hf
    rw [hlocal] at hf
    exact kind_of_courseLocal hf
  have hcauseKind : cause.kind = .resolutionIncomplete := by
    rcases gateRefuses_or_fails (Prod.ext hcause rfl) with hrefuses | ⟨-, visit, k, hcomes, hfails⟩
    · cases hrefuses with
      | @early before after ref url fragment hexternal hrefs _ _ _ =>
        have hmem : ref ∈ (Reference.classify (Reference.references content)).external := by
          rw [hrefs]
          simp
        obtain ⟨href, hother⟩ := List.mem_filter.mp hmem
        rw [hinternal ref href] at hother
        cases hother
      | later _ hcomes hrefused => exact hkind _ hcomes cause (by rw [hrefused]; rfl)
    · exact hkind visit hcomes cause (by rw [hfails]; rfl)
  change cause.kind ∉ networkKinds
  rw [hcauseKind]
  decide

end Document

/-- What becomes of the references into a document itself, in the resolution of a document. -/
structure SettlesInternal (options : ResolutionOptions) (fetchers : Net.Changing Net.Fetcher)
    (depth : Nat) (file : String) (content : Value) : Prop where
  /-- The classification and the resolver agree unless a reference starts with `#` and not with
  `#/`. -/
  agrees_iff : ∀ ref, AgreesOnInternal ref ↔
    (Text.startsWith "#" ref = true → Text.startsWith "#/" ref = true)
  /-- A document whose references all start with `#` is resolved in full without a failure at the
  gate or in the network exactly when the two agree on all of them. -/
  staysOffNetwork_iff : options.external = true →
    (∀ ref ∈ Reference.references content, Text.startsWith "#" ref = true) →
    (StaysOffNetwork options fetchers depth file content ↔
      ∀ ref ∈ Reference.references content, AgreesOnInternal ref)
  /-- Otherwise the gate refuses the resolution. -/
  refused : options.external = true →
    (∀ ref ∈ Reference.references content, Text.startsWith "#" ref = true) →
    ∀ ref ∈ Reference.references content, ¬AgreesOnInternal ref →
      (resolveFrom depth options fetchers file content).outcome =
        .error (.failure
          { kind := .unsafeProtocol
            message := "Unsafe protocol (none) in reference: "
            file := file })

/-- **Where classification and resolution disagree, a document is refused** that needs nothing but
itself, and only there. -/
theorem settlesInternal (options : ResolutionOptions) (fetchers : Net.Changing Net.Fetcher)
    (depth : Nat) (file : String) (content : Value) :
    SettlesInternal options fetchers depth file content where
  agrees_iff _ := agreesOnInternal_iff
  staysOffNetwork_iff hexternal hhash := by
    have hself : IsSelfContained content :=
      fun ref href => hhash ref (Reference.mem_references.mpr href)
    constructor
    · intro hstays ref href
      refine agreesOnInternal_iff.mpr fun _ => ?_
      by_contra hother
      have houtcome : (resolveFrom depth options fetchers file content).outcome =
          .error (.failure (internalRefused.withFile file)) :=
        outcome_of_misclassified hexternal hself href (Bool.eq_false_iff.mpr hother)
      have hkind : (internalRefused.withFile file).kind = .unsafeProtocol := rfl
      refine hstays _ houtcome ?_
      rw [hkind]
      decide
    · intro hagrees
      refine staysOffNetwork_of_isInternal hself fun ref href => ?_
      exact agreesOnInternal_iff.mp (hagrees ref href) (hhash ref href)
  refused hexternal hhash ref href hdisagrees := by
    have hother : Reference.isInternal ref = false := by
      rw [Bool.eq_false_iff]
      exact fun hinternal => hdisagrees (agreesOnInternal_iff.mpr fun _ => hinternal)
    exact outcome_of_misclassified hexternal
      (fun ref href => hhash ref (Reference.mem_references.mpr href)) href hother

/-! ### Two documents -/

/-- A document with a reference to a part of it. -/
def partEmbedding : Value :=
  .object [("a", .object [("x", .int 1)]), ("b", .object [("$ref", .str "#/a")])]

/-- A document with a reference to the whole of it. -/
def selfEmbedding : Value :=
  .object [("a", .object [("x", .int 1)]), ("b", .object [("$ref", .str "#")])]

/-- A reference to a part of the document is resolved without the network. -/
theorem staysOffNetwork_partEmbedding :
    (∀ ref ∈ Reference.references partEmbedding, Text.startsWith "#" ref = true) ∧
      StaysOffNetwork { external := true } (fun _ => unserved) 1 "" partEmbedding := by
  have hhash : ∀ ref ∈ Reference.references partEmbedding, Text.startsWith "#" ref = true := by
    decide
  have hslash : ∀ ref ∈ Reference.references partEmbedding, Text.startsWith "#/" ref = true := by
    decide
  have hsettles :=
    settlesInternal { external := true } (fun _ => unserved) 1 "" partEmbedding
  refine ⟨hhash, (hsettles.staysOffNetwork_iff rfl hhash).mpr fun ref href => ?_⟩
  exact (hsettles.agrees_iff ref).mpr fun _ => hslash ref href

/-- A reference to the whole document is looked up inside it and resolved in a bundle, but it is not
taken for internal, so that full resolution is refused. -/
theorem not_agreesOnInternal_whole :
    ¬AgreesOnInternal "#" ∧
      (∀ ref ∈ Reference.references selfEmbedding, Text.startsWith "#" ref = true) ∧
      ((resolve {} unserved "" selfEmbedding).outcome.toOption.map (·.circular)) = some ["#"] ∧
      ∀ fetcher file, (resolve { external := true } fetcher file selfEmbedding).outcome =
        .error (.failure
          { kind := .unsafeProtocol
            message := "Unsafe protocol (none) in reference: "
            file := file }) := by
  have hhash : ∀ ref ∈ Reference.references selfEmbedding, Text.startsWith "#" ref = true := by
    decide
  refine ⟨?_, hhash, by decide +kernel, fun fetcher file => ?_⟩
  · rw [agreesOnInternal_iff]
    decide
  · have hself : IsSelfContained selfEmbedding :=
      fun ref href => hhash ref (Reference.mem_references.mpr href)
    have hwhole : "#" ∈ Reference.references selfEmbedding := by decide
    unfold resolve
    rw [← resolveFrom_steady]
    exact outcome_of_misclassified rfl hself hwhole rfl

end ClientGen.Resolution
