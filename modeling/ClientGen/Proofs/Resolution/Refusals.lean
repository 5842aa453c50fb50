import ClientGen.Proofs.Resolution.Visits

/-!
# Refusals of lenient runs

The gate is asked in two places.  The resolver asks it about references, and a refusal ends the run
(`outcome_of_gateRefuses`).  The fetcher asks it about every location before that is requested,
which matters where a redirection leads to another one, and a refusal there is a failure of the
fetch like any other (`RefusedInFetch`): a lenient run puts it on record and goes on.

So the refusals of a lenient run are all fatal exactly when the resolver itself meets each of those
that are met in a fetch (`settlesRefusals`).  A redirection to an address of the own machine shows
that not all of them are (`not_refusalsAreFatal_redirected`).
-/

namespace ClientGen.Resolution

/-- The kinds of failures that are about the security of requests. -/
def securityKinds : List FailureKind := [.unsafeProtocol, .privateAddress, .domainNotAllowed]

/-- At a visit the fetcher is asked for the document of a URL. -/
structure Visit.Asks (options : ResolutionOptions) (visit : Visit) (url : String) : Prop where
  outside : localPointer? visit.ref = none
  external : options.external = true
  leads : ∃ fragment, address visit.context visit.ref = .ok (url, fragment) ∧
    url ++ "#" ++ fragment ∉ visit.seen
  passes : Net.Passes options.domains url
  new : Entries.get? url visit.journal.documents = none

/-- While a document is fetched for a reference to which the resolution comes, a location is met
that the gate refuses. -/
def RefusedInFetch (options : ResolutionOptions) (servers : Net.Changing Net.Transport)
    (depth : Nat) (content : Value) (failure : Failure) : Prop :=
  ∃ visit url, ((passRootGates options content).perform .start).1 = .ok () ∧
    Comes options (fetchersFor options servers) depth ⟨content, none⟩ [] content .start visit ∧
    visit.Asks options url ∧
    Net.MeetsRefusal servers options.limits visit.journal.requests url failure

/-- Every refusal for the sake of security, whether the resolver meets it or a fetch, is the
outcome of the resolution. -/
def RefusalsAreFatal (options : ResolutionOptions) (servers : Net.Changing Net.Transport)
    (depth : Nat) (file : String) (content : Value) : Prop :=
  ∀ failure : Failure, failure.kind ∈ securityKinds →
    GateRefuses options (fetchersFor options servers) depth content failure ∨
      RefusedInFetch options servers depth content failure →
    (resolveFrom depth options (fetchersFor options servers) file content).outcome =
      .error (.failure (failure.withFile file))

section Refusals

variable {options : ResolutionOptions} {servers : Net.Changing Net.Transport} {depth : Nat}
  {file : String} {content : Value} {failure : Failure}

/-- A refusal says nothing about a file. -/
theorem file_of_refused {url : String} {domains : List String}
    (h : Net.checkUrl url domains = .error failure) : failure.file = "" := by
  unfold Net.checkUrl at h
  cases hexamine : Net.examine url domains with
  | ok host =>
    rw [hexamine] at h
    cases h
  | error refusal =>
    rw [hexamine] at h
    cases h
    rfl

theorem withFile_injective {other : Failure} (hfile : failure.file = other.file)
    (h : failure.withFile file = other.withFile file) : failure = other := by
  obtain ⟨kind, message, path, details⟩ := failure
  obtain ⟨kind', message', path', details'⟩ := other
  cases hfile
  cases h
  rfl

/-- Where the fetcher is asked for a document, what it answers decides what becomes of the
reference. -/
theorem Visit.Asks.course_eq {visit : Visit} {url : String} (h : visit.Asks options url)
    (fetchers : Net.Changing Net.Fetcher) :
    ∃ fragment, visit.course options fetchers =
      let fetcher := fetchers visit.journal.requests
      let asked := visit.journal.asking fetcher url
      match contentOf url (fetcher url) with
      | .error (.failure failure) => .fails failure asked
      | .error (.unexpected u) => .breaks u asked
      | .ok document =>
        .into visit.ref fragment (url ++ "#" ++ fragment) ⟨document, some url⟩
          (asked.having url document) := by
  obtain ⟨fragment, haddress, hseen⟩ := h.leads
  obtain ⟨host, hgate⟩ := h.passes
  have hexternal : (settingsAt options fetchers visit.journal).external = true := h.external
  have hgate' : Net.checkUrl url (settingsAt options fetchers visit.journal).domains = .ok host :=
    hgate
  have hnot : visit.seen.contains (url ++ "#" ++ fragment) = false := by
    rw [Bool.eq_false_iff]
    exact fun hmem => hseen (List.contains_iff_mem.mp hmem)
  refine ⟨fragment, ?_⟩
  unfold Visit.course Resolution.course
  rw [h.outside]
  dsimp only
  rw [if_pos hexternal, haddress]
  dsimp only
  unfold courseAt
  dsimp only
  rw [hnot, hgate', perform_load, h.new]
  dsimp only
  have hfetcher : (settingsAt options fetchers visit.journal).fetcher =
      fetchers visit.journal.requests := rfl
  rw [hfetcher]
  cases contentOf url (fetchers visit.journal.requests url) with
  | ok document => rfl
  | error problem => cases problem <;> rfl

/-- A reference fails if its document is asked for and the fetch fails. -/
theorem Visit.Asks.course_fails {visit : Visit} {url : String} (h : visit.Asks options url)
    (fetchers : Net.Changing Net.Fetcher)
    (hfetch : (fetchers visit.journal.requests url).outcome = .error (.failure failure)) :
    ∃ k, visit.course options fetchers = .fails failure k := by
  obtain ⟨fragment, hcourse⟩ := h.course_eq fetchers
  have hcontent : contentOf url (fetchers visit.journal.requests url) =
      .error (.failure failure) := by
    unfold contentOf
    rw [hfetch]
    rfl
  dsimp only at hcourse
  rw [hcontent] at hcourse
  exact ⟨_, hcourse⟩

/-- The failure of a refusal that the resolver meets comes from the gate. -/
theorem exists_refused_of_gateRefuses {fetchers : Net.Changing Net.Fetcher}
    (h : GateRefuses options fetchers depth content failure) :
    ∃ url, Net.checkUrl url options.domains = .error failure := by
  cases h with
  | early _ _ _ _ hrefused => exact ⟨_, hrefused⟩
  | @later visit k _ _ hrefused =>
    obtain ⟨url, hcheck⟩ := exists_refused_of_course (settingsAt options fetchers visit.journal)
      visit.context visit.seen visit.ref visit.journal hrefused
    exact ⟨url, hcheck⟩

/-- **A lenient run puts a refusal that is met in a fetch on record.** -/
theorem mem_errors_of_refusedInFetch (hlenient : options.lenient = true)
    (h : RefusedInFetch options servers depth content failure) {r : Resolution}
    (hr : (resolveFrom depth options (fetchersFor options servers) file content).outcome = .ok r) :
    failure.message ∈ r.errors := by
  obtain ⟨visit, url, hpassed, hcomes, hasks, hmeets⟩ := h
  obtain ⟨k, hfails⟩ := hasks.course_fails (fetchersFor options servers)
    (Net.fetchFrom_of_meetsRefusal hmeets)
  have hmem := mem_errors_of_fails hcomes hlenient hfails
  rw [outcome_resolveFrom, perform_documentFrom, hpassed] at hr
  obtain ⟨resolved, -, rfl⟩ := conclude_ok hr
  exact hmem

/-- What becomes of the refusals of a lenient run. -/
structure SettlesRefusals (options : ResolutionOptions) (servers : Net.Changing Net.Transport)
    (depth : Nat) (file : String) (content : Value) : Prop where
  /-- All are fatal exactly when the resolver meets each one that a fetch meets. -/
  fatal_iff : RefusalsAreFatal options servers depth file content ↔
    ∀ failure : Failure, failure.kind ∈ securityKinds →
      RefusedInFetch options servers depth content failure →
      GateRefuses options (fetchersFor options servers) depth content failure
  /-- What the resolver meets is the outcome of the resolution. -/
  refused : ∀ failure, GateRefuses options (fetchersFor options servers) depth content failure →
    (resolveFrom depth options (fetchersFor options servers) file content).outcome =
      .error (.failure (failure.withFile file))
  /-- What a fetch meets is on record in every result. -/
  recorded : ∀ failure, RefusedInFetch options servers depth content failure → ∀ r,
    (resolveFrom depth options (fetchersFor options servers) file content).outcome = .ok r →
      failure.message ∈ r.errors

/-- If all refusals are fatal, the resolver meets each one that a fetch meets: nothing but what it
meets ends a lenient run in a failure. -/
theorem RefusalsAreFatal.gateRefuses (h : RefusalsAreFatal options servers depth file content)
    (hlenient : options.lenient = true) (hkind : failure.kind ∈ securityKinds)
    (hinside : RefusedInFetch options servers depth content failure) :
    GateRefuses options (fetchersFor options servers) depth content failure := by
  have houtcome := h failure hkind (Or.inr hinside)
  rw [outcome_resolveFrom] at houtcome
  obtain ⟨cause, hcause, hsame⟩ := conclude_failure houtcome
  rcases gateRefuses_or_fails (Prod.ext hcause rfl) with hrefused | ⟨hstrict, -⟩
  · -- Neither failure is about a file yet, so they are the same.
    obtain ⟨url, hcheck⟩ := exists_refused_of_gateRefuses hrefused
    obtain ⟨_, _, _, _, _, _, final, _, _, _, hcheck'⟩ := hinside
    have hfile : failure.file = cause.file :=
      (file_of_refused hcheck').trans (file_of_refused hcheck).symm
    rw [withFile_injective hfile hsame]
    exact hrefused
  · rw [hlenient] at hstrict
    cases hstrict

/-- **The refusals of a lenient run are settled**: those that the resolver meets are fatal, those
that a fetch meets are put on record. -/
theorem settlesRefusals (hlenient : options.lenient = true) (servers : Net.Changing Net.Transport)
    (depth : Nat) (file : String) (content : Value) :
    SettlesRefusals options servers depth file content where
  fatal_iff := by
    constructor
    · exact fun hfatal failure hkind hinside => hfatal.gateRefuses hlenient hkind hinside
    · rintro hmet failure hkind (hrefused | hinside)
      · exact outcome_of_gateRefuses hrefused file
      · exact outcome_of_gateRefuses (hmet failure hkind hinside) file
  refused _ h := outcome_of_gateRefuses h file
  recorded _ h _ hr := mem_errors_of_refusedInFetch hlenient h hr

end Refusals

/-! ### A redirection to the own machine -/

/-- A server that redirects the request for a document to the own machine. -/
def redirecting : Net.Transport := fun url =>
  if url = "https://example.com/a.yaml" then
    .response ⟨302, [("Location", "http://127.0.0.1/secret.yaml")], []⟩
  else .broken "no server"

/-- A document with a reference to that document. -/
def referring : Value :=
  .object [("x", .object [("$ref", .str "https://example.com/a.yaml#/X")])]

/-- The options of a lenient run that follows a redirection. -/
def following : ResolutionOptions := { external := true, lenient := true, redirects := 1 }

theorem settlesRefusals_redirected :
    following.lenient = true ∧
      SettlesRefusals following (fun _ => redirecting) (depthFor following referring) ""
        referring :=
  ⟨rfl, settlesRefusals rfl (fun _ => redirecting) (depthFor following referring) "" referring⟩

/-- The reference of the document, as the resolution comes to it. -/
def referringVisit : Visit :=
  ⟨⟨referring, none⟩, [], "https://example.com/a.yaml#/X", .start⟩

theorem comes_referring (depth : Nat) :
    Comes following (fetchersFor following fun _ => redirecting) depth ⟨referring, none⟩ []
      referring .start referringVisit := by
  have h : Comes following (fetchersFor following fun _ => redirecting) depth ⟨referring, none⟩ []
      (.object ([] ++ ("x", .object [("$ref", .str "https://example.com/a.yaml#/X")]) :: []))
      .start referringVisit := .field rfl rfl (.here rfl)
  exact h

theorem asks_referring : referringVisit.Asks following "https://example.com/a.yaml" where
  outside := rfl
  external := rfl
  leads := ⟨"/X", rfl, List.not_mem_nil⟩
  passes := ⟨_, rfl⟩
  new := rfl

theorem meetsRefusal_redirected : ∃ failure : Failure, failure.kind = .privateAddress ∧
    failure.message =
      "Private/local address not allowed in external reference: http://127.0.0.1/secret.yaml" ∧
    Net.MeetsRefusal (fun _ => redirecting) following.limits [] "https://example.com/a.yaml"
      failure := by
  refine ⟨_, ?_, ?_, _, _, rfl, by decide, .redirected rfl .here, rfl⟩
  · rfl
  · rfl

/-- The redirection to the own machine is refused, and the refusal is no more than an entry on
record. -/
theorem not_refusalsAreFatal_redirected :
    (∃ failure : Failure, failure.kind = .privateAddress ∧
      RefusedInFetch following (fun _ => redirecting) (depthFor following referring) referring
        failure ∧
      ((resolve following (Net.fetch redirecting following.limits) "" referring).outcome
        |>.toOption.map (·.errors)) = some [failure.message]) ∧
    ¬RefusalsAreFatal following (fun _ => redirecting) (depthFor following referring) ""
      referring := by
  obtain ⟨failure, hkind, hmessage, hmeets⟩ := meetsRefusal_redirected
  have hinside : RefusedInFetch following (fun _ => redirecting) (depthFor following referring)
      referring failure := ⟨referringVisit, _, rfl, comes_referring _, asks_referring, hmeets⟩
  have hrun : ((resolve following (Net.fetch redirecting following.limits) "" referring).outcome
      |>.toOption.map (·.errors)) =
      some ["Private/local address not allowed in external reference: " ++
        "http://127.0.0.1/secret.yaml"] := by
    decide +kernel
  refine ⟨⟨failure, hkind, hinside, hmessage ▸ hrun⟩, fun hfatal => ?_⟩
  have houtcome := hfatal failure (by rw [hkind]; decide) (Or.inr hinside)
  rw [fetchersFor_steady, resolveFrom_steady] at houtcome
  unfold resolve at hrun
  rw [houtcome] at hrun
  cases hrun

end ClientGen.Resolution
