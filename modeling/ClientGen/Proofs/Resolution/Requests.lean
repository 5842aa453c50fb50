import ClientGen.Proofs.Resolution.Served

/-!
# What a resolution requests

Whatever the servers answer, and however their answers change from one request to the next, every
URL that a resolution requests has passed the gate.  The journal is explained by the questions that
were put to the fetcher (`Ask`):

* `areProper_snoc`: each question is about a URL that the gate lets through, and none asks again
  for a document that an earlier one gave;
* `isExplained_load`: loading a document adds at most one question;
* `isExplained_documentFrom`: so the requests of a whole run are those of proper questions, one
  after the other.

`checksRequests` puts this together with what a single fetch requests, with the silence of bundling,
and with the check of all references of the document before anything is requested.
-/

namespace ClientGen.Resolution

/-! ### Questions to the fetcher -/

/-- A question to the fetcher: a URL, and what was fetched from it. -/
structure Ask where
  url : String
  fetched : Net.Fetched String

/-- The document that a question gave. -/
def Ask.document? (ask : Ask) : Option Value :=
  (contentOf ask.url ask.fetched).toOption

/-- What was requested for some questions. -/
def requestsOf (asks : List Ask) : List String :=
  asks.flatMap fun ask => ask.fetched.requests

/-- The documents that some questions gave, with their URLs. -/
def documentsOf (asks : List Ask) : List (String × Value) :=
  asks.filterMap fun ask => ask.document?.map fun document => (ask.url, document)

/-- Questions are put properly one after the other: the fetcher of the moment answers, the gate lets
the URL through, and no document is asked for again. -/
structure AreProper (fetchers : Net.Changing Net.Fetcher) (domains : List String)
    (asks : List Ask) : Prop where
  answered : ∀ before ask after, asks = before ++ ask :: after →
    ask.fetched = fetchers (requestsOf before) ask.url
  passed : ∀ ask ∈ asks, Net.Passes domains ask.url
  fresh : asks.Pairwise fun ask later => ask.document?.isSome → later.url ≠ ask.url

section Ask

variable {fetchers : Net.Changing Net.Fetcher} {domains : List String} {asks : List Ask}

@[simp] theorem requestsOf_append (asks more : List Ask) :
    requestsOf (asks ++ more) = requestsOf asks ++ requestsOf more :=
  List.flatMap_append

@[simp] theorem requestsOf_singleton (ask : Ask) : requestsOf [ask] = ask.fetched.requests := by
  simp [requestsOf]

theorem documentsOf_append (asks more : List Ask) :
    documentsOf (asks ++ more) = documentsOf asks ++ documentsOf more :=
  List.filterMap_append

theorem areProper_nil : AreProper fetchers domains [] where
  answered before ask after h := by simp at h
  passed ask hask := by cases hask
  fresh := List.Pairwise.nil

/-- A document that a question gave is among the documents of the questions. -/
theorem mem_keys_documentsOf {ask : Ask} (hask : ask ∈ asks) (hsome : ask.document?.isSome) :
    ask.url ∈ Entries.keys (documentsOf asks) := by
  obtain ⟨document, hdocument⟩ := Option.isSome_iff_exists.mp hsome
  have hmem : (ask.url, document) ∈ documentsOf asks := by
    refine List.mem_filterMap.mpr ⟨ask, hask, ?_⟩
    rw [hdocument]
    rfl
  exact List.mem_map_of_mem hmem

/-- Questions stay proper when the fetcher is asked for a document that is not at hand and that the
gate lets through. -/
theorem areProper_snoc (h : AreProper fetchers domains asks) {url : String}
    (hpasses : Net.Passes domains url) (hnew : Entries.get? url (documentsOf asks) = none) :
    AreProper fetchers domains (asks ++ [⟨url, fetchers (requestsOf asks) url⟩]) := by
  refine ⟨?_, ?_, ?_⟩
  · intro before ask after hsplit
    rcases List.eq_nil_or_concat after with rfl | ⟨init, last, rfl⟩
    · obtain ⟨rfl, hlast⟩ := List.append_inj' hsplit rfl
      cases hlast
      rfl
    · rw [List.concat_eq_append, ← List.cons_append, ← List.append_assoc] at hsplit
      obtain ⟨hinit, -⟩ := List.append_inj' hsplit rfl
      exact h.answered before ask init hinit
  · intro ask hask
    rcases List.mem_append.mp hask with hold | hlast
    · exact h.passed ask hold
    · cases List.mem_singleton.mp hlast
      exact hpasses
  · refine List.pairwise_append.mpr ⟨h.fresh, List.pairwise_singleton _ _, ?_⟩
    intro ask hask last hlast hsome heq
    cases List.mem_singleton.mp hlast
    have hmem := mem_keys_documentsOf hask hsome
    rw [← heq] at hmem
    exact (Entries.get?_eq_none_iff _ _).mp hnew hmem

end Ask

/-! ### Questions explain the journal -/

/-- The requests and the documents of a journal are those of proper questions. -/
def Journal.IsExplained (fetchers : Net.Changing Net.Fetcher) (domains : List String)
    (j : Journal) : Prop :=
  ∃ asks, AreProper fetchers domains asks ∧ j.requests = requestsOf asks ∧
    j.documents = documentsOf asks

section Explained

variable {options : ResolutionOptions} {fetchers : Net.Changing Net.Fetcher} {domains : List String}
  {j : Journal}

theorem isExplained_start : Journal.start.IsExplained fetchers domains :=
  ⟨[], areProper_nil, rfl, rfl⟩

/-- Loading the document of a URL that the gate lets through puts at most one question. -/
theorem isExplained_load (hj : j.IsExplained fetchers domains) {url : String}
    (hpasses : Net.Passes domains url) :
    ((load (settingsAt options fetchers j) url).perform j).2.IsExplained fetchers domains := by
  rw [perform_load]
  cases hknown : Entries.get? url j.documents with
  | some document => exact hj
  | none =>
    obtain ⟨asks, hproper, hrequests, hdocuments⟩ := hj
    rw [hdocuments] at hknown
    have hmore := areProper_snoc hproper hpasses hknown
    rw [← hrequests] at hmore
    have hmoment : (settingsAt options fetchers j).fetcher = fetchers j.requests := rfl
    rw [hmoment]
    cases hcontent : contentOf url (fetchers j.requests url) with
    | error problem =>
      refine ⟨_, hmore, ?_, ?_⟩
      · rw [requestsOf_append, requestsOf_singleton, ← hrequests]
        rfl
      · have hnone : documentsOf [⟨url, fetchers j.requests url⟩] = [] := by
          simp [documentsOf, Ask.document?, hcontent, Except.toOption]
        rw [documentsOf_append, hnone, List.append_nil, ← hdocuments]
        rfl
    | ok document =>
      refine ⟨_, hmore, ?_, ?_⟩
      · rw [requestsOf_append, requestsOf_singleton, ← hrequests]
        rfl
      · have hone : documentsOf [⟨url, fetchers j.requests url⟩] = [(url, document)] := by
          simp [documentsOf, Ask.document?, hcontent, Except.toOption]
        rw [documentsOf_append, hone, ← hdocuments]
        rfl

/-- Resolving a reference puts at most one question. -/
theorem isExplained_course (context : Context) (seen : List String) (ref : String)
    (hj : j.IsExplained fetchers options.domains) :
    (course (settingsAt options fetchers j) context seen ref j).journal.IsExplained fetchers
      options.domains := by
  rcases course_asks (settingsAt options fetchers j) context seen ref j with
    ⟨hrequests, hdocuments⟩ | ⟨url, host, -, hgate, hloaded⟩
  · obtain ⟨asks, hproper, hrequests', hdocuments'⟩ := hj
    exact ⟨asks, hproper, hrequests.trans hrequests', hdocuments.trans hdocuments'⟩
  · rw [hloaded]
    exact isExplained_load hj ⟨host, hgate⟩

/-- **The requests of a run are those of proper questions.** -/
theorem isExplained_documentFrom (options : ResolutionOptions)
    (fetchers : Net.Changing Net.Fetcher) (depth : Nat) (content : Value) :
    ((documentFrom options fetchers depth content).perform .start).2.IsExplained fetchers
      options.domains :=
  documentFrom_preserves (P := Journal.IsExplained fetchers options.domains) (fun _ _ hj _ => hj)
    (fun context seen ref _ => isExplained_course context seen ref) depth content .start
    isExplained_start

/-- A bundle requests nothing. -/
theorem requests_documentFrom (hexternal : options.external = false) (depth : Nat)
    (content : Value) :
    ((documentFrom options fetchers depth content).perform .start).2.requests = [] := by
  refine documentFrom_preserves (P := fun j => j.requests = []) (fun _ _ hj _ => hj) ?_ depth
    content .start rfl
  intro context seen ref j hj
  rcases course_asks (settingsAt options fetchers j) context seen ref j with
    ⟨hrequests, -⟩ | ⟨url, host, hfull, -, -⟩
  · rw [hrequests]
    exact hj
  · change options.external = true at hfull
    rw [hexternal] at hfull
    cases hfull

end Explained

/-! ### References of the document itself -/

/-- A reference that the gate refuses ends the check of the references. -/
theorem perform_passGates_error {options : ResolutionOptions} {refs : List String} {ref : String}
    (href : ref ∈ refs) (hrefused : ¬PassesReference options.domains ref) (j : Journal) :
    ∃ problem, (passGates options refs).perform j = (.error problem, j) := by
  induction refs with
  | nil => cases href
  | cons first rest ih =>
    rcases passGates_cons_cases options first rest j with
      hpasses | ⟨_, -, hstops⟩ | ⟨_, _, failure, -, -, hstops⟩
    · rcases List.mem_cons.mp href with rfl | hlater
      · exact absurd hpasses hrefused
      · rw [perform_passGates_cons hpasses]
        exact ih hlater
    · exact ⟨_, hstops⟩
    · exact ⟨_, hstops⟩

/-- A reference out of the document that the gate refuses ends full resolution at once. -/
theorem perform_documentFrom_error {options : ResolutionOptions}
    (hexternal : options.external = true) {content : Value} {ref : String}
    (href : ref ∈ Reference.references content) (houtside : Reference.isInternal ref = false)
    (hrefused : ¬PassesReference options.domains ref) (fetchers : Net.Changing Net.Fetcher)
    (depth : Nat) (j : Journal) :
    ∃ problem, (documentFrom options fetchers depth content).perform j = (.error problem, j) := by
  have hmem : ref ∈ (Reference.classify (Reference.references content)).external := by
    refine List.mem_filter.mpr ⟨href, ?_⟩
    rw [houtside]
    rfl
  obtain ⟨problem, hstops⟩ := perform_passGates_error hmem hrefused j
  refine ⟨problem, ?_⟩
  rw [perform_documentFrom]
  unfold passRootGates
  rw [if_pos hexternal, hstops]

/-! ### The requests of a resolution -/

/-- What a resolution requests from servers whose answers may change. -/
structure ChecksRequests (options : ResolutionOptions) (servers : Net.Changing Net.Transport)
    (depth : Nat) (file : String) (content : Value) (run : Net.Fetched Resolution) : Prop where
  /-- Every URL that is requested has passed the gate. -/
  passed : ∀ url ∈ run.requests, Net.Passes options.domains url
  /-- The requests are those of proper questions, and none of these makes more requests than
  redirections may be followed, and one. -/
  asked : ∃ asks,
    AreProper (fetchersFor options servers) options.domains asks ∧
      run.requests = requestsOf asks ∧
      ∀ ask ∈ asks, ask.fetched.requests.length ≤ options.redirects.toNat + 1
  /-- A bundle requests nothing. -/
  silent : options.external = false → run.requests = []
  /-- If the gate refuses a reference that leads out of the document, nothing is requested. -/
  early : options.external = true → ∀ ref ∈ Reference.references content,
    Reference.isInternal ref = false → ¬PassesReference options.domains ref →
      run.requests = [] ∧ ∃ problem, run.outcome = .error problem
  /-- With servers that do not change, this is the resolution of the document. -/
  steady : ∀ transport, (servers = fun _ => transport) →
    run = resolveWithin depth options (Net.fetch transport options.limits) file content

/-- **No request leaves unchecked**, whatever the document, the options and the servers. -/
theorem checksRequests (options : ResolutionOptions) (servers : Net.Changing Net.Transport)
    (depth : Nat) (file : String) (content : Value) :
    ChecksRequests options servers depth file content
      (resolveFrom depth options (fetchersFor options servers) file content) := by
  obtain ⟨asks, hproper, hrequests, -⟩ :=
    isExplained_documentFrom options (fetchersFor options servers) depth content
  have hanswered : ∀ ask ∈ asks, ∃ past,
      ask.fetched = Net.fetchFrom servers options.limits past ask.url := by
    intro ask hask
    obtain ⟨before, after, hsplit⟩ := List.append_of_mem hask
    exact ⟨_, hproper.answered before ask after hsplit⟩
  refine ⟨?_, ⟨asks, hproper, hrequests, ?_⟩, ?_, ?_, ?_⟩
  · intro url hurl
    rw [requests_resolveFrom, hrequests] at hurl
    obtain ⟨ask, hask, hmem⟩ := List.mem_flatMap.mp hurl
    obtain ⟨past, hfetched⟩ := hanswered ask hask
    rw [hfetched] at hmem
    have hpasses : Net.Passes options.limits.domains url :=
      Net.passes_of_mem_requests_fetchFrom hmem
    exact hpasses
  · intro ask hask
    obtain ⟨past, hfetched⟩ := hanswered ask hask
    rw [hfetched]
    exact Net.length_requests_fetchFrom_le servers options.limits past ask.url
  · intro hexternal
    rw [requests_resolveFrom]
    exact requests_documentFrom hexternal depth content
  · intro hexternal ref href houtside hrefused
    obtain ⟨problem, hstops⟩ := perform_documentFrom_error hexternal href houtside hrefused
      (fetchersFor options servers) depth .start
    rw [requests_resolveFrom, outcome_resolveFrom, hstops]
    exact ⟨rfl, _, rfl⟩
  · rintro transport rfl
    rw [fetchersFor_steady, resolveFrom_steady]

end ClientGen.Resolution
