import ClientGen.Proofs.Resolution.Internal
import ClientGen.Proofs.Resolution.Nesting
import ClientGen.Proofs.Resolution.Refusals

/-!
# What escapes from a resolution

A resolution is meant to return a result or a failure of its own stage, attributed to the file
(`EndsAsDocumented`).  What else can come of it is listed in `Escapes`: a reference that is no URL,
be it met by the check of the references or by the resolver, a fetched document whose scalars cannot
be read, expansions that are nested too deeply, and a document that is nothing but a reference to
something other than an object.

Each of these is the outcome of the resolution (`outcome_of_escapes`), since a course that breaks
off ends the run wherever that comes to it, and nothing else is (`escapes_of_outcome`), as long as
the fetcher gives texts or fails as it should.  So `settlesFailures` says exactly when a resolution
ends as documented; for a bundle only the last of these is possible (`bare_of_bundle`).
-/

namespace ClientGen

/-- A fetcher gives a text or fails at the stage of resolution. -/
def Net.Fetcher.AnswersOrFails (fetcher : Net.Fetcher) : Prop :=
  ∀ url, (∃ text, (fetcher url).outcome = .ok text) ∨
    ∃ f, (fetcher url).outcome = .error (.failure f) ∧ f.stage = .resolution

theorem Net.Fetcher.AnswersOrFails.failsAtResolution {fetcher : Net.Fetcher}
    (h : fetcher.AnswersOrFails) : fetcher.FailsAtResolution := by
  intro url f hf
  rcases h url with ⟨text, htext⟩ | ⟨f', hfailure, hstage⟩
  · rw [htext] at hf
    cases hf
  · rw [hfailure] at hf
    cases hf
    exact hstage

namespace Resolution

/-- A resolution returns a result, or it fails at its stage, with the failure attributed to the
file. -/
def EndsAsDocumented (file : String) (outcome : Except Problem Resolution) : Prop :=
  (∃ r, outcome = .ok r) ∨
    ∃ f, outcome = .error (.failure f) ∧ f.stage = .resolution ∧ f.file = file

/-- The resolution of a document comes to a reference, after the check of all references. -/
def Reaches (options : ResolutionOptions) (fetchers : Net.Changing Net.Fetcher) (depth : Nat)
    (content : Value) (visit : Visit) : Prop :=
  ((passRootGates options content).perform .start).1 = .ok () ∧
    Comes options fetchers depth ⟨content, none⟩ [] content .start visit

/-- What can end the resolution of a document beside its failures. -/
inductive Escapes (options : ResolutionOptions) (fetchers : Net.Changing Net.Fetcher)
    (depth : Nat) (content : Value) : Unexpected → Prop
  /-- The check of the references meets one that is no URL, after others that pass. -/
  | early {before after : List String} {ref : String} {fault : Url.Fault}
      (hexternal : options.external = true)
      (hrefs : (Reference.classify (Reference.references content)).external =
        before ++ ref :: after)
      (hbefore : ((passGates options before).perform .start).1 = .ok ())
      (hurl : Url.withoutFragment ref = .error fault) :
      Escapes options fetchers depth content ⟨.value, fault.message⟩
  /-- The resolver comes to a reference that is no URL, or none where it stands. -/
  | malformed {visit : Visit} {fault : Url.Fault}
      (hreaches : Reaches options fetchers depth content visit)
      (hexternal : options.external = true) (houtside : localPointer? visit.ref = none)
      (haddress : address visit.context visit.ref = .error fault) :
      Escapes options fetchers depth content ⟨.value, fault.message⟩
  /-- The document of a reference is fetched, but one of its scalars cannot be read. -/
  | unreadable {visit : Visit} {url text : String} {u : Unexpected}
      (hreaches : Reaches options fetchers depth content visit) (hasks : visit.Asks options url)
      (htext : (fetchers visit.journal.requests url).outcome = .ok text)
      (hscalar : parseContent (formatOf url) text = .error (.scalar u)) :
      Escapes options fetchers depth content u
  /-- A target is to be expanded where as many references are being expanded as may be. -/
  | deep {visit : Visit} {identity : String} {inner : Context} {target : Value} {k : Journal}
      (hreaches : Reaches options fetchers depth content visit)
      (hcourse : visit.course options fetchers = .enters identity inner target k)
      (hspent : visit.seen.length = depth) :
      Escapes options fetchers depth content
        ⟨.recursion, "maximum nesting of references exceeded"⟩
  /-- The document is a reference, of which something other than an object is left. -/
  | bare {ref : String} {resolved : Value} {k : Journal}
      (href : Reference.of? content = some ref)
      (hresolved : (documentFrom options fetchers depth content).perform .start =
        (.ok resolved, k))
      (hbare : resolved.isObject = false) :
      Escapes options fetchers depth content
        ⟨.input, Shape.report "ResolvedDocument" [⟨["resolved"], .notTable, resolved⟩]⟩

section Fetched

variable {fetcher : Net.Fetcher} {url : String} {u : Unexpected}

/-- Nothing unexpected comes of a fetch but a scalar that cannot be read. -/
theorem exists_scalar_of_contentOf (hfetcher : fetcher.AnswersOrFails)
    (h : contentOf url (fetcher url) = .error (.unexpected u)) :
    ∃ text, (fetcher url).outcome = .ok text ∧
      parseContent (formatOf url) text = .error (.scalar u) := by
  unfold contentOf at h
  rcases hfetcher url with ⟨text, htext⟩ | ⟨f, hfailure, -⟩
  · rw [htext] at h
    change readFetched url text = .error (.unexpected u) at h
    unfold readFetched at h
    split at h
    · cases h
    · cases h
    · rename_i hscalar
      cases h
      exact ⟨text, htext, hscalar⟩
  · rw [hfailure] at h
    cases h

theorem contentOf_of_scalar {text : String} (htext : (fetcher url).outcome = .ok text)
    (hscalar : parseContent (formatOf url) text = .error (.scalar u)) :
    contentOf url (fetcher url) = .error (.unexpected u) := by
  unfold contentOf
  rw [htext]
  change readFetched url text = _
  unfold readFetched
  rw [hscalar]

end Fetched

/-! ### Courses that break off -/

/-- The unexpected in which a course breaks off. -/
def Course.break? : Course → Option Unexpected
  | .breaks u _ => some u
  | _ => none

@[simp] theorem break?_into (ref pointer identity : String) (inner : Context) (k : Journal) :
    (Course.into ref pointer identity inner k).break? = none := by
  unfold Course.into
  cases Pointer.follow inner.root pointer <;> rfl

theorem break?_courseLocal (settings : Settings) (context : Context) (seen : List String)
    (ref pointer : String) (j : Journal) :
    (courseLocal settings context seen ref pointer j).break? = none := by
  unfold courseLocal
  split
  · split <;> rfl
  · dsimp only
    split
    · rfl
    · exact break?_into _ _ _ _ _

section Course

variable {options : ResolutionOptions} {fetchers : Net.Changing Net.Fetcher} {visit : Visit}
  {u : Unexpected}

/-- A reference that is no URL breaks off. -/
theorem breaks_of_malformed {fault : Url.Fault} (hexternal : options.external = true)
    (houtside : localPointer? visit.ref = none)
    (haddress : address visit.context visit.ref = .error fault) :
    visit.course options fetchers = .breaks ⟨.value, fault.message⟩ visit.journal := by
  have hfull : (settingsAt options fetchers visit.journal).external = true := hexternal
  unfold Visit.course Resolution.course
  rw [houtside]
  dsimp only
  rw [if_pos hfull, haddress]

/-- A reference that leads out of its document is no URL, or it does not break off, or the fetcher
is asked for its document. -/
theorem Visit.outside_cases (hexternal : options.external = true)
    (houtside : localPointer? visit.ref = none) :
    (∃ fault, address visit.context visit.ref = .error fault ∧
      visit.course options fetchers = .breaks ⟨.value, fault.message⟩ visit.journal) ∨
    (visit.course options fetchers).break? = none ∨ ∃ url, visit.Asks options url := by
  have hfull : (settingsAt options fetchers visit.journal).external = true := hexternal
  rcases haddress : address visit.context visit.ref with fault | ⟨url, fragment⟩
  · exact Or.inl ⟨fault, rfl, breaks_of_malformed hexternal houtside haddress⟩
  · refine Or.inr ?_
    have hcourse : visit.course options fetchers =
        courseAt (settingsAt options fetchers visit.journal) visit.seen visit.ref url fragment
          visit.journal := by
      unfold Visit.course Resolution.course
      rw [houtside]
      dsimp only
      rw [if_pos hfull, haddress]
    rw [hcourse]
    unfold courseAt
    dsimp only
    split
    · exact Or.inl rfl
    · rename_i hseen
      cases hgate : Net.checkUrl url (settingsAt options fetchers visit.journal).domains with
      | error failure => exact Or.inl rfl
      | ok host =>
        cases hknown : Entries.get? url visit.journal.documents with
        | some document =>
          rw [perform_load, hknown]
          exact Or.inl (break?_into _ _ _ _ _)
        | none =>
          have hnew : url ++ "#" ++ fragment ∉ visit.seen :=
            fun hmem => hseen (List.contains_iff_mem.mpr hmem)
          exact Or.inr ⟨url, houtside, hexternal, ⟨fragment, haddress, hnew⟩, ⟨host, hgate⟩, hknown⟩

/-- What breaks off leads out of its document, which happens in full resolution only. -/
theorem outside_of_breaks (h : (visit.course options fetchers).break? = some u) :
    options.external = true ∧ localPointer? visit.ref = none := by
  unfold Visit.course Resolution.course at h
  cases hpointer : localPointer? visit.ref with
  | some pointer =>
    rw [hpointer] at h
    dsimp only at h
    rw [break?_courseLocal] at h
    cases h
  | none =>
    rw [hpointer] at h
    dsimp only at h
    split at h
    · rename_i hexternal
      exact ⟨hexternal, rfl⟩
    · cases h

/-- **Where a reference breaks off**, it is no URL, or its document cannot be read. -/
theorem breaks_cases (h : (visit.course options fetchers).break? = some u) :
    (∃ fault, address visit.context visit.ref = .error fault ∧ u = ⟨.value, fault.message⟩) ∨
      ∃ url, visit.Asks options url ∧
        contentOf url (fetchers visit.journal.requests url) = .error (.unexpected u) := by
  obtain ⟨hexternal, houtside⟩ := outside_of_breaks h
  rcases Visit.outside_cases hexternal houtside with
    ⟨fault, haddress, hbreaks⟩ | hnone | ⟨url, hasks⟩
  · rw [hbreaks] at h
    cases h
    exact Or.inl ⟨fault, haddress, rfl⟩
  · rw [hnone] at h
    cases h
  · refine Or.inr ⟨url, hasks, ?_⟩
    obtain ⟨fragment, hcourse⟩ := hasks.course_eq fetchers
    rw [hcourse] at h
    dsimp only at h
    rcases hcontent : contentOf url (fetchers visit.journal.requests url) with
      (failure | unexpected) | document
    · rw [hcontent] at h
      cases h
    · rw [hcontent] at h
      cases h
      rfl
    · rw [hcontent] at h
      dsimp only at h
      rw [break?_into] at h
      cases h

/-- A reference breaks off whose document has a scalar that cannot be read. -/
theorem breaks_of_unreadable {url text : String} (hasks : visit.Asks options url)
    (htext : (fetchers visit.journal.requests url).outcome = .ok text)
    (hscalar : parseContent (formatOf url) text = .error (.scalar u)) :
    ∃ k, visit.course options fetchers = .breaks u k := by
  obtain ⟨fragment, hcourse⟩ := hasks.course_eq fetchers
  dsimp only at hcourse
  rw [contentOf_of_scalar htext hscalar] at hcourse
  exact ⟨_, hcourse⟩

end Course

/-! ### What the outcome is -/

section Outcome

variable {options : ResolutionOptions} {fetchers : Net.Changing Net.Fetcher} {depth : Nat}
  {file : String} {content : Value} {u : Unexpected}

/-- A problem of the check of references that is no failure is that of a reference that is no
URL. -/
theorem exists_malformed_of_passGates {refs : List String} {j k : Journal}
    (h : (passGates options refs).perform j = (.error (.unexpected u), k)) :
    ∃ before ref after fault, refs = before ++ ref :: after ∧
      ((passGates options before).perform j).1 = .ok () ∧
      Url.withoutFragment ref = .error fault ∧ u = ⟨.value, fault.message⟩ := by
  induction refs with
  | nil => cases h
  | cons ref rest ih =>
    rcases passGates_cons_cases options ref rest j with
      hpasses | ⟨fault, hfault, hstops⟩ | ⟨_, _, failure, -, -, hstops⟩
    · rw [perform_passGates_cons hpasses] at h
      obtain ⟨before, later, after, fault, rfl, hbefore, hfault, hu⟩ := ih h
      refine ⟨ref :: before, later, after, fault, rfl, ?_, hfault, hu⟩
      rw [perform_passGates_cons hpasses]
      exact hbefore
    · rw [hstops] at h
      cases h
      exact ⟨[], ref, rest, fault, rfl, rfl, hfault, rfl⟩
    · rw [hstops] at h
      cases h

/-- An object that is no reference becomes an object. -/
theorem exists_reference_of_bare {resolved : Value} {k : Journal} (hobject : content.isObject = true)
    (h : (documentFrom options fetchers depth content).perform .start = (.ok resolved, k))
    (hbare : resolved.isObject = false) : ∃ ref, Reference.of? content = some ref := by
  rw [perform_documentFrom] at h
  split at h
  · unfold expanderFrom at h
    cases content with
    | object fields =>
      cases href : Reference.ofFields? fields with
      | some ref => exact ⟨ref, href⟩
      | none =>
        rw [walkBy, href] at h
        obtain ⟨done, -, rfl⟩ := perform_map_ok.mp h
        cases hbare
    | mapping entries =>
      cases h
      cases hbare
    | _ => cases hobject
  · cases h

/-- The outcome of a resolution is what its course ends in, where that ends it. -/
theorem outcome_of_endsIn {visit : Visit} (hreaches : Reaches options fetchers depth content visit)
    (hends : visit.EndsIn options fetchers depth [] (.unexpected u)) :
    (resolveFrom depth options fetchers file content).outcome = .error (.unexpected u) := by
  have hrun := perform_of_endsIn hreaches.2 hends
  rw [outcome_resolveFrom, perform_documentFrom, hreaches.1]
  dsimp only
  rw [hrun]
  rfl

/-- **What escapes is the outcome of the resolution.** -/
theorem outcome_of_escapes (hobject : content.isObject = true)
    (h : Escapes options fetchers depth content u) :
    (resolveFrom depth options fetchers file content).outcome = .error (.unexpected u) := by
  cases h with
  | @early _ _ _ fault hexternal hrefs hbefore hurl =>
    have hgates : ((passRootGates options content).perform .start).1 =
        .error (.unexpected ⟨.value, fault.message⟩) := by
      unfold passRootGates
      rw [if_pos hexternal, hrefs, perform_passGates_append _ hbefore, passGates, hurl]
      rfl
    rw [outcome_resolveFrom, perform_documentFrom, hgates]
    rfl
  | malformed hreaches hexternal houtside haddress =>
    refine outcome_of_endsIn hreaches ?_
    unfold Visit.EndsIn
    rw [breaks_of_malformed hexternal houtside haddress]
    exact .breaks _ _
  | unreadable hreaches hasks htext hscalar =>
    obtain ⟨k, hbreaks⟩ := breaks_of_unreadable hasks htext hscalar
    refine outcome_of_endsIn hreaches ?_
    unfold Visit.EndsIn
    rw [hbreaks]
    exact .breaks _ _
  | deep hreaches hcourse hspent =>
    refine outcome_of_endsIn hreaches ?_
    unfold Visit.EndsIn
    rw [hcourse]
    exact .enters _ _ _ _ (by rw [hspent, List.length_nil, Nat.zero_add])
  | bare href hresolved hbare =>
    rw [outcome_resolveFrom, hresolved]
    unfold conclude shapeFaults
    dsimp only
    rw [hobject, hbare]
    rfl

/-- A run that ends in something unexpected has met a reference for which that escapes. -/
theorem escapes_of_error (hfetchers : ∀ past, (fetchers past).AnswersOrFails) {k : Journal}
    (h : (documentFrom options fetchers depth content).perform .start =
      (.error (.unexpected u), k)) : Escapes options fetchers depth content u := by
  rw [perform_documentFrom] at h
  rcases hgates : (passRootGates options content).perform .start with ⟨problem | passed, l⟩
  · rw [hgates] at h
    cases h
    unfold passRootGates at hgates
    split at hgates
    · rename_i hexternal
      obtain ⟨before, ref, after, fault, hrefs, hbefore, hurl, rfl⟩ :=
        exists_malformed_of_passGates hgates
      exact .early hexternal hrefs hbefore hurl
    · cases hgates
  · rw [hgates] at h
    obtain ⟨visit, hcomes, hends⟩ := comesToProblem_of_error h
    have hreaches : Reaches options fetchers depth content visit :=
      ⟨congrArg Prod.fst hgates, hcomes⟩
    unfold Visit.EndsIn at hends
    generalize hcourse : visit.course options fetchers = c at hends
    cases hends with
    | breaks u k =>
      have hbreak : (visit.course options fetchers).break? = some u := by
        rw [hcourse]
        rfl
      obtain ⟨hexternal, houtside⟩ := outside_of_breaks hbreak
      rcases breaks_cases hbreak with ⟨fault, haddress, rfl⟩ | ⟨url, hasks, hcontent⟩
      · exact .malformed hreaches hexternal houtside haddress
      · obtain ⟨text, htext, hscalar⟩ := exists_scalar_of_contentOf (hfetchers _) hcontent
        exact .unreadable hreaches hasks htext hscalar
    | enters identity inner target k hspent =>
      rw [List.length_nil, Nat.zero_add] at hspent
      exact .deep hreaches hcourse hspent

/-- **Nothing else escapes.** -/
theorem escapes_of_outcome (hobject : content.isObject = true)
    (hfetchers : ∀ past, (fetchers past).AnswersOrFails)
    (h : (resolveFrom depth options fetchers file content).outcome = .error (.unexpected u)) :
    Escapes options fetchers depth content u := by
  rw [outcome_resolveFrom] at h
  rcases hrun : (documentFrom options fetchers depth content).perform .start with
    ⟨(failure | unexpected) | resolved, k⟩
  · rw [hrun] at h
    cases h
  · rw [hrun] at h
    cases h
    exact escapes_of_error hfetchers hrun
  · rw [hrun] at h
    unfold conclude shapeFaults at h
    dsimp only at h
    rw [hobject] at h
    cases hbare : resolved.isObject with
    | true =>
      rw [hbare] at h
      cases h
    | false =>
      rw [hbare] at h
      cases h
      obtain ⟨ref, href⟩ := exists_reference_of_bare hobject hrun hbare
      exact .bare href hrun hbare

end Outcome

/-! ### Bundles -/

section Bundle

variable {options : ResolutionOptions} {fetchers : Net.Changing Net.Fetcher} {depth : Nat}
  {content : Value} {u : Unexpected} (hbundle : options.external = false)

include hbundle

/-- What a bundle enters, it calls. -/
theorem calls_of_enters {context inner : Context} {seen : List String} {value target : Value}
    {ref identity : String} {j k : Journal} (href : ref ∈ Reference.occurrences value)
    (h : Visit.course options fetchers ⟨context, seen, ref, j⟩ =
      .enters identity inner target k) :
    Calls (options.settings unserved) ⟨context, seen, value⟩ ⟨inner, identity :: seen, target⟩ := by
  have hnot : ¬(settingsAt options fetchers j).external = true := by
    change ¬options.external = true
    rw [hbundle]
    exact Bool.false_ne_true
  unfold Visit.course Resolution.course at h
  dsimp only at h
  cases hpointer : localPointer? ref with
  | none =>
    rw [hpointer] at h
    dsimp only at h
    rw [if_neg hnot] at h
    cases h
  | some pointer =>
    rw [hpointer] at h
    obtain ⟨hlink, rfl, hnew, rfl, hfollow⟩ := courseLocal_enters h
    have hlink' : isLink (options.settings unserved) inner ref = false := hlink
    exact ⟨ref, href, _, .start, .start, .here hpointer hlink' hnew hfollow, rfl⟩

/-- The references that are being expanded where a bundle comes to a reference are references of the
document, each once. -/
theorem isSound_of_comes {context : Context} {seen : List String} {value : Value} {j : Journal}
    {visit : Visit} (h : Comes options fetchers depth context seen value j visit)
    (hsound : Call.IsSound (options.settings unserved) content [] ⟨context, seen, value⟩) :
    ∃ value', visit.ref ∈ Reference.occurrences value' ∧
      Call.IsSound (options.settings unserved) content []
        ⟨visit.context, visit.seen, value'⟩ := by
  have hserved : (options.settings unserved).external = true →
      ∀ url ∉ ([] : List String), served? (options.settings unserved).fetcher url = none := by
    intro hexternal
    rw [show (options.settings unserved).external = options.external from rfl, hbundle] at hexternal
    cases hexternal
  -- A part of a value is read where the value is.
  have hpart : ∀ {context seen value part},
      Call.IsSound (options.settings unserved) content [] ⟨context, seen, value⟩ →
      (∀ ref ∈ Reference.occurrences part, ref ∈ Reference.occurrences value) →
      Call.IsSound (options.settings unserved) content [] ⟨context, seen, part⟩ :=
    fun hsound hwithin => ⟨hsound.context, hsound.atHand,
      fun ref href => hsound.inner ref (hwithin ref href), hsound.nodup, hsound.known⟩
  induction h with
  | here href => exact ⟨_, Reference.mem_occurrences_object.mpr (Or.inl href), hsound⟩
  | item _ _ ih =>
    refine ih (hpart hsound fun ref href => ?_)
    exact Reference.mem_occurrences_list.mpr ⟨_, by simp, href⟩
  | @field _ _ _ _ _ _ name value _ _ _ _ _ _ ih =>
    refine ih (hpart hsound fun ref href => ?_)
    exact Reference.mem_occurrences_object.mpr (Or.inr ⟨(name, value), by simp, href⟩)
  | target href hcourse _ ih =>
    have hmem := Reference.mem_occurrences_object.mpr (Or.inl href)
    exact ih (isSound_of_calls hserved hsound (calls_of_enters hbundle hmem hcourse))
  | @sibling _ _ _ _ _ _ _ _ name _ _ value _ _ _ _ _ _ _ _ _ _ _ _ ih =>
    refine ih (hpart hsound fun ref href => ?_)
    exact Reference.mem_occurrences_object.mpr (Or.inr ⟨(name, value), by simp, href⟩)

/-- **A bundle is never nested too deeply**, and nothing else can escape from it but a reference in
place of an object. -/
theorem bare_of_bundle (hdepth : (Reference.references content).length ≤ depth)
    (h : Escapes options fetchers depth content u) :
    ∃ ref resolved k, Reference.of? content = some ref ∧
      (documentFrom options fetchers depth content).perform .start = (.ok resolved, k) ∧
      resolved.isObject = false := by
  have habsurd : options.external = true → False := by
    intro hexternal
    rw [hbundle] at hexternal
    cases hexternal
  cases h with
  | early hexternal => exact (habsurd hexternal).elim
  | malformed _ hexternal => exact (habsurd hexternal).elim
  | unreadable _ hasks => exact (habsurd hasks.external).elim
  | @deep visit _ _ _ _ hreaches hcourse hspent =>
    obtain ⟨value, href, hsound⟩ := isSound_of_comes hbundle hreaches.2 isSound_start
    have hknown : identities (options.settings unserved) content [] =
        Reference.references content := identities_eq_references hbundle
    have hfull : (identities (options.settings unserved) content []).length ≤
        visit.seen.length := by
      rw [hknown, hspent]
      exact hdepth
    refine absurd (calls_of_enters hbundle href hcourse) ?_
    exact not_calls_of_length_le (fun hexternal => (habsurd hexternal).elim) hsound hfull _
  | @bare ref resolved k href hresolved hbare => exact ⟨ref, resolved, k, href, hresolved, hbare⟩

end Bundle

/-! ### When a resolution ends as documented -/

/-- How the resolution of a document ends. -/
structure SettlesFailures (options : ResolutionOptions) (fetchers : Net.Changing Net.Fetcher)
    (depth : Nat) (file : String) (content : Value) : Prop where
  /-- Something unexpected is the outcome exactly when it escapes. -/
  unexpected_iff : ∀ u,
    (resolveFrom depth options fetchers file content).outcome = .error (.unexpected u) ↔
      Escapes options fetchers depth content u
  /-- The resolution ends as documented exactly when nothing escapes. -/
  documented_iff :
    EndsAsDocumented file (resolveFrom depth options fetchers file content).outcome ↔
      ∀ u, ¬Escapes options fetchers depth content u
  /-- A bundle ends as documented exactly when it is not made from a reference of which something
  other than an object is left. -/
  bundle_iff : options.external = false → (Reference.references content).length ≤ depth →
    (EndsAsDocumented file (resolveFrom depth options fetchers file content).outcome ↔
      ∀ ref resolved k, Reference.of? content = some ref →
        (documentFrom options fetchers depth content).perform .start = (.ok resolved, k) →
        resolved.isObject = true)

section Settles

variable {options : ResolutionOptions} {fetchers : Net.Changing Net.Fetcher} {depth : Nat}
  {file : String} {content : Value}

/-- Only what is unexpected is not documented. -/
theorem endsAsDocumented_iff (hfetchers : ∀ past, (fetchers past).AnswersOrFails) :
    EndsAsDocumented file (resolveFrom depth options fetchers file content).outcome ↔
      ∀ u, (resolveFrom depth options fetchers file content).outcome ≠ .error (.unexpected u) := by
  constructor
  · rintro (⟨r, hr⟩ | ⟨f, hf, -⟩) u hu
    · cases hr.symm.trans hu
    · cases hf.symm.trans hu
  · intro hnone
    rcases houtcome : (resolveFrom depth options fetchers file content).outcome with
      (failure | u) | r
    · obtain ⟨hstage, hfile⟩ :=
        isOf_resolveFrom (fun past => (hfetchers past).failsAtResolution) houtcome
      exact Or.inr ⟨failure, rfl, hstage failure rfl, hfile failure rfl⟩
    · exact absurd houtcome (hnone u)
    · exact Or.inl ⟨r, rfl⟩

/-- **When a resolution ends as documented**, whatever the document, the options and the
fetchers. -/
theorem settlesFailures (hobject : content.isObject = true)
    (hfetchers : ∀ past, (fetchers past).AnswersOrFails) (options : ResolutionOptions)
    (depth : Nat) (file : String) : SettlesFailures options fetchers depth file content := by
  have hunexpected : ∀ u,
      (resolveFrom depth options fetchers file content).outcome = .error (.unexpected u) ↔
        Escapes options fetchers depth content u :=
    fun _ => ⟨escapes_of_outcome hobject hfetchers, outcome_of_escapes hobject⟩
  have hdocumented :
      EndsAsDocumented file (resolveFrom depth options fetchers file content).outcome ↔
        ∀ u, ¬Escapes options fetchers depth content u := by
    rw [endsAsDocumented_iff hfetchers]
    exact forall_congr' fun u => not_congr (hunexpected u)
  refine ⟨hunexpected, hdocumented, fun hbundle hdepth => ?_⟩
  rw [hdocumented]
  constructor
  · intro hnone ref resolved k href hresolved
    by_contra hbare
    exact hnone _ (.bare href hresolved (Bool.eq_false_iff.mpr hbare))
  · intro hwhole u hescapes
    obtain ⟨ref, resolved, k, href, hresolved, hbare⟩ := bare_of_bundle hbundle hdepth hescapes
    rw [hwhole ref resolved k href hresolved] at hbare
    cases hbare

end Settles

theorem answersOrFails_unserved : unserved.AnswersOrFails :=
  fun _ => Or.inr ⟨_, rfl, rfl⟩

/-- A document with a reference that cannot be fetched. -/
def referringElsewhere : Value :=
  .object [("x", .object [("$ref", .str "https://example.com/a.yaml#/X")])]

theorem settlesFailures_referringElsewhere :
    referringElsewhere.isObject = true ∧ unserved.AnswersOrFails ∧
      SettlesFailures { external := true } (fun _ => unserved) 1 "pets.yaml" referringElsewhere :=
  ⟨rfl, answersOrFails_unserved,
    settlesFailures rfl (fun _ => answersOrFails_unserved) { external := true } 1 "pets.yaml"⟩

/-- A document with a reference that is no URL. -/
def referringNowhere : Value :=
  .object [("x", .object [("$ref", .str "http://[a#/b")])]

/-- A document that is a reference to a number in it. -/
def referringToNumber : Value :=
  .object [("x", .int 5), ("$ref", .str "#/x")]

/-- A reference that is no URL, and one to a number in place of the document, end resolutions in
other ways than documented. -/
theorem not_endsAsDocumented_referringNowhere :
    unserved.AnswersOrFails ∧ referringNowhere.isObject = true ∧
      ¬EndsAsDocumented "" (resolve { external := true } unserved "" referringNowhere).outcome ∧
      referringToNumber.isObject = true ∧
      ¬EndsAsDocumented "" (resolve {} unserved "" referringToNumber).outcome := by
  have hnowhere : (resolve { external := true } unserved "" referringNowhere).outcome =
      .error (.unexpected ⟨.value, "Invalid IPv6 URL"⟩) := rfl
  have hnumber : ∃ u, (resolve {} unserved "" referringToNumber).outcome =
      .error (.unexpected u) := ⟨_, rfl⟩
  refine ⟨answersOrFails_unserved, rfl, ?_, rfl, ?_⟩
  · rw [hnowhere]
    rintro (⟨r, hr⟩ | ⟨f, hf, -⟩)
    · cases hr
    · cases hf
  · obtain ⟨u, hu⟩ := hnumber
    rw [hu]
    rintro (⟨r, hr⟩ | ⟨f, hf, -⟩)
    · cases hr
    · cases hf

end Resolution

end ClientGen
