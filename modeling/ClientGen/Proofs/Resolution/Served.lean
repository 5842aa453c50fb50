import ClientGen.Proofs.Net.Fetch
import ClientGen.Proofs.Resolution.Course

/-!
# Resolution while servers change

What a server answers may differ from one request to the next, so a fetcher depends on what has
been requested.  `resolveFrom` resolves a document with such fetchers: every reference is resolved
with the fetcher of its moment.  With a fetcher that does not change it is `resolveWithin`
(`resolveFrom_steady`).

A whole run keeps what its steps keep.  `expanderFrom_related` says so for relations between two
runs, and `expanderFrom_preserves` for properties of the journal; with the latter the errors on
record only grow (`growsErrors_expanderFrom`).
-/

namespace ClientGen.Resolution

/-! ### Fetchers of the moment -/

/-- What a resolution works with when its journal is the given one. -/
def settingsAt (options : ResolutionOptions) (fetchers : Net.Changing Net.Fetcher) (j : Journal) :
    Settings :=
  options.settings (fetchers j.requests)

/-- The fetchers of a resolution with the options, when servers may change. -/
def fetchersFor (options : ResolutionOptions) (servers : Net.Changing Net.Transport) :
    Net.Changing Net.Fetcher :=
  fun past => Net.fetchFrom servers options.limits past

theorem fetchersFor_steady (options : ResolutionOptions) (transport : Net.Transport) :
    fetchersFor options (fun _ => transport) = fun _ => Net.fetch transport options.limits := by
  funext past url
  exact Net.fetchFrom_steady transport options.limits past url

/-- Resolves references with the fetcher of the moment. -/
def resolverFrom (options : ResolutionOptions) (fetchers : Net.Changing Net.Fetcher)
    (expand : Expander) (context : Context) (seen : List String) : Resolver :=
  fun ref kept overlay => do
    let j ← get
    resolveReference (settingsAt options fetchers j) expand context seen ref kept overlay

/-- Resolves the references of a value, with fewer than `depth` expansions inside one another. -/
def expanderFrom (options : ResolutionOptions) (fetchers : Net.Changing Net.Fetcher) :
    Nat → Expander
  | 0 => fun _ _ _ => throw tooDeep
  | depth + 1 => fun context seen =>
    walkBy (resolverFrom options fetchers (expanderFrom options fetchers depth) context seen)

/-- Resolves references with fewer than `depth` expansions inside that of each. -/
def resolverWithin (options : ResolutionOptions) (fetchers : Net.Changing Net.Fetcher)
    (depth : Nat) (context : Context) (seen : List String) : Resolver :=
  resolverFrom options fetchers (expanderFrom options fetchers depth) context seen

/-- Passes the references that lead out of a document through the gate, if they will be followed. -/
def passRootGates (options : ResolutionOptions) (content : Value) : Run Unit :=
  if options.external then
    passGates options (Reference.classify (Reference.references content)).external
  else pure ()

/-- Resolves a document, with at most `depth` expansions inside one another. -/
def documentFrom (options : ResolutionOptions) (fetchers : Net.Changing Net.Fetcher) (depth : Nat)
    (content : Value) : Run Value := do
  passRootGates options content
  expanderFrom options fetchers (depth + 1) ⟨content, none⟩ [] content

/-- What a resolution comes to, from the result of its run. -/
def concluded (path : String) (content : Value) (result : Except Problem Value × Journal) :
    Net.Fetched Resolution :=
  ⟨result.2.requests, conclude path content result.2 result.1⟩

/-- Resolves the references of a document, with at most `depth` expansions inside one another. -/
def resolveFrom (depth : Nat) (options : ResolutionOptions)
    (fetchers : Net.Changing Net.Fetcher) (path : String) (content : Value) :
    Net.Fetched Resolution :=
  concluded path content ((documentFrom options fetchers depth content).perform .start)

theorem requests_resolveFrom (depth : Nat) (options : ResolutionOptions)
    (fetchers : Net.Changing Net.Fetcher) (path : String) (content : Value) :
    (resolveFrom depth options fetchers path content).requests =
      ((documentFrom options fetchers depth content).perform .start).2.requests := rfl

theorem outcome_resolveFrom (depth : Nat) (options : ResolutionOptions)
    (fetchers : Net.Changing Net.Fetcher) (path : String) (content : Value) :
    (resolveFrom depth options fetchers path content).outcome =
      conclude path content ((documentFrom options fetchers depth content).perform .start).2
        ((documentFrom options fetchers depth content).perform .start).1 := rfl

/-- A resolution that fails has the failure of its run, attributed to the file. -/
theorem conclude_failure {file : String} {content : Value} {k : Journal}
    {outcome : Except Problem Value} {failure : Failure}
    (h : conclude file content k outcome = .error (.failure failure)) :
    ∃ cause, outcome = .error (.failure cause) ∧ failure = cause.withFile file := by
  cases outcome with
  | error problem =>
    cases problem with
    | failure cause =>
      cases h
      exact ⟨cause, rfl, rfl⟩
    | unexpected u => cases h
  | ok resolved =>
    unfold conclude at h
    dsimp only at h
    split at h <;> cases h

section Steady

variable (options : ResolutionOptions) (fetcher : Net.Fetcher)

theorem resolverFrom_steady (expand : Expander) (context : Context) (seen : List String) :
    resolverFrom options (fun _ => fetcher) expand context seen =
      resolveReference (options.settings fetcher) expand context seen := rfl

theorem expanderFrom_steady (depth : Nat) :
    expanderFrom options (fun _ => fetcher) (depth + 1) =
      resolveValue (options.settings fetcher) depth := by
  funext context seen value
  induction depth generalizing context seen value with
  | zero =>
    unfold expanderFrom resolveValue
    rw [walk_eq_walkBy, resolverFrom_steady]
    rfl
  | succ depth ih =>
    have hsame : expanderFrom options (fun _ => fetcher) (depth + 1) =
        resolveValue (options.settings fetcher) depth := by
      funext context seen value
      exact ih context seen value
    unfold expanderFrom resolveValue
    rw [walk_eq_walkBy, resolverFrom_steady, hsame]

/-- With a fetcher that does not change, this is the resolution with that fetcher. -/
theorem resolveFrom_steady (depth : Nat) (path : String) (content : Value) :
    resolveFrom depth options (fun _ => fetcher) path content =
      resolveWithin depth options fetcher path content := by
  have hdocument : documentFrom options (fun _ => fetcher) depth content =
      resolveDocument options fetcher depth content := by
    rw [resolveDocument_eq]
    unfold documentFrom
    rw [expanderFrom_steady]
    rfl
  unfold resolveFrom resolveWithin
  rw [hdocument]
  rfl

end Steady

/-- The gate lets the URL of a reference through. -/
def PassesReference (domains : List String) (ref : String) : Prop :=
  ∃ url fragment, Url.withoutFragment ref = .ok (url, fragment) ∧ Net.Passes domains url

theorem perform_passGates_cons {options : ResolutionOptions} {ref : String}
    (hpasses : PassesReference options.domains ref) (rest : List String) (j : Journal) :
    (passGates options (ref :: rest)).perform j = (passGates options rest).perform j := by
  obtain ⟨url, fragment, hurl, host, hgate⟩ := hpasses
  rw [passGates, hurl]
  unfold liftUrl passGate
  dsimp only
  rw [perform_bind, perform_pure]
  dsimp only
  rw [hgate, perform_bind]
  rfl

/-- What can happen to the first of some references that are to pass the gate. -/
theorem passGates_cons_cases (options : ResolutionOptions) (ref : String) (rest : List String)
    (j : Journal) :
    PassesReference options.domains ref ∨
    (∃ fault : Url.Fault, Url.withoutFragment ref = .error fault ∧
      (passGates options (ref :: rest)).perform j =
        (.error (.unexpected ⟨.value, fault.message⟩), j)) ∨
    ∃ url fragment failure, Url.withoutFragment ref = .ok (url, fragment) ∧
      Net.checkUrl url options.domains = .error failure ∧
      (passGates options (ref :: rest)).perform j = (.error (.failure failure), j) := by
  rw [passGates]
  cases hurl : Url.withoutFragment ref with
  | error fault => exact Or.inr (Or.inl ⟨fault, rfl, rfl⟩)
  | ok parts =>
    obtain ⟨url, fragment⟩ := parts
    unfold liftUrl passGate
    dsimp only
    rw [perform_bind, perform_pure]
    dsimp only
    cases hgate : Net.checkUrl url options.domains with
    | error failure => exact Or.inr (Or.inr ⟨url, fragment, failure, rfl, hgate, rfl⟩)
    | ok host => exact Or.inl ⟨url, fragment, hurl, host, hgate⟩

section Perform

variable (options : ResolutionOptions) (fetchers : Net.Changing Net.Fetcher)

theorem perform_resolverFrom (expand : Expander) (context : Context) (seen : List String)
    (ref : String) (kept : Value) (overlay : Value → Run Value) (j : Journal) :
    (resolverFrom options fetchers expand context seen ref kept overlay).perform j =
      (course (settingsAt options fetchers j) context seen ref j).follow
        (settingsAt options fetchers j) expand seen kept overlay := by
  unfold resolverFrom
  rw [perform_bind, perform_get]
  exact perform_resolveReference _ expand context seen ref kept overlay j

/-- Passing gates leaves the journal alone. -/
theorem journal_passGates (refs : List String) (j : Journal) :
    ((passGates options refs).perform j).2 = j := by
  induction refs with
  | nil => rfl
  | cons ref rest ih =>
    rcases passGates_cons_cases options ref rest j with
      hpasses | ⟨_, -, hstops⟩ | ⟨_, _, failure, -, -, hstops⟩
    · rw [perform_passGates_cons hpasses]
      exact ih
    · rw [hstops]
    · rw [hstops]

theorem journal_passRootGates (content : Value) (j : Journal) :
    ((passRootGates options content).perform j).2 = j := by
  unfold passRootGates
  split
  · exact journal_passGates options _ j
  · rfl

/-- A document whose references pass the gates is resolved as a value. -/
theorem perform_documentFrom (depth : Nat) (content : Value) (j : Journal) :
    (documentFrom options fetchers depth content).perform j =
      match ((passRootGates options content).perform j).1 with
      | .ok _ => (expanderFrom options fetchers (depth + 1) ⟨content, none⟩ [] content).perform j
      | .error problem => (.error problem, j) := by
  have hjournal := journal_passRootGates options content j
  unfold documentFrom
  rw [perform_bind]
  rcases hgates : (passRootGates options content).perform j with ⟨outcome, k⟩
  rw [hgates] at hjournal
  dsimp only at hjournal
  subst hjournal
  cases outcome <;> rfl

end Perform

/-! ### What whole runs keep -/

/-- Resolutions of values are related if those of single references are, whatever related expanders
are asked for the targets. -/
theorem expanderFrom_related {Related : ∀ {α : Type}, Run α → Run α → Prop}
    (hR : Run.Congruence Related) (options options' : ResolutionOptions)
    (fetchers fetchers' : Net.Changing Net.Fetcher)
    (hdeep : Related (throw tooDeep : Run Value) (throw tooDeep))
    (href : ∀ {expand expand' : Expander},
      (∀ context seen value, Related (expand context seen value) (expand' context seen value)) →
      ∀ context seen ref kept {overlay overlay' : Value → Run Value},
      (∀ target, Related (overlay target) (overlay' target)) →
      Related (resolverFrom options fetchers expand context seen ref kept overlay)
        (resolverFrom options' fetchers' expand' context seen ref kept overlay'))
    (depth : Nat) (context : Context) (seen : List String) (value : Value) :
    Related (expanderFrom options fetchers depth context seen value)
      (expanderFrom options' fetchers' depth context seen value) := by
  induction depth generalizing context seen value with
  | zero => exact hdeep
  | succ depth ih =>
    refine walkBy_related hR value ?_
    exact fun ref _ kept overlay overlay' hoverlay => href ih context seen ref kept hoverlay

/-- A step hands a property of the journal on to the journal afterwards. -/
def Run.Preserves (P : Journal → Prop) {α : Type} (run : Run α) : Prop :=
  ∀ j, P j → P (run.perform j).2

namespace Run.Preserves

variable {P : Journal → Prop} {α β : Type}

theorem pure (a : α) : (Pure.pure a : Run α).Preserves P := fun _ hj => hj

theorem bind {run : Run α} {next : α → Run β} (hrun : run.Preserves P)
    (hnext : ∀ a, (next a).Preserves P) : (run >>= next).Preserves P := by
  intro j hj
  have hk := hrun j hj
  rw [perform_bind]
  rcases hperform : run.perform j with ⟨outcome, k⟩
  rw [hperform] at hk
  cases outcome with
  | error problem => exact hk
  | ok a => exact hnext a k hk

theorem congruence (P : Journal → Prop) :
    Run.Congruence (fun run _ => run.Preserves P) where
  pure := Run.Preserves.pure
  bind := Run.Preserves.bind

/-- What a course leaves is preserved by what follows from it. -/
theorem follow {settings : Settings} {expand : Expander} {seen : List String} {kept : Value}
    {overlay : Value → Run Value} {c : Course}
    (herrors : ∀ j errors, P j → settings.lenient = true →
      P { j with errors := j.errors ++ errors })
    (hexpand : ∀ context seen value, (expand context seen value).Preserves P)
    (hoverlay : ∀ target, (overlay target).Preserves P) (hc : P c.journal) :
    P (c.follow settings expand seen kept overlay).2 := by
  cases c with
  | stays k => exact hc
  | refused failure k => exact hc
  | breaks u k => exact hc
  | fails failure k =>
    rw [follow_fails]
    split
    · rename_i hlenient
      exact herrors k [failure.message] hc hlenient
    · exact hc
  | enters identity inner target k => exact (hexpand inner _ target).bind hoverlay k hc

end Run.Preserves

section Preserves

variable {options : ResolutionOptions} {fetchers : Net.Changing Net.Fetcher}
  {P : Journal → Prop}
  (herrors : ∀ j errors, P j → options.lenient = true → P { j with errors := j.errors ++ errors })
  (hcourse : ∀ context seen ref j, P j →
    P (course (settingsAt options fetchers j) context seen ref j).journal)

include herrors hcourse

theorem resolverFrom_preserves {expand : Expander}
    (hexpand : ∀ context seen value, (expand context seen value).Preserves P) (context : Context)
    (seen : List String) (ref : String) (kept : Value) {overlay : Value → Run Value}
    (hoverlay : ∀ target, (overlay target).Preserves P) :
    (resolverFrom options fetchers expand context seen ref kept overlay).Preserves P := by
  intro j hj
  rw [perform_resolverFrom]
  exact Run.Preserves.follow herrors hexpand hoverlay (hcourse context seen ref j hj)

/-- A resolution preserves what every course of a reference leaves, and an error on record. -/
theorem expanderFrom_preserves (depth : Nat) (context : Context) (seen : List String)
    (value : Value) : (expanderFrom options fetchers depth context seen value).Preserves P := by
  refine expanderFrom_related (Run.Preserves.congruence P) options options fetchers fetchers
    (fun _ hj => hj) ?_ depth context seen value
  exact fun hexpand context seen ref kept _ _ hoverlay =>
    resolverFrom_preserves herrors hcourse hexpand context seen ref kept hoverlay

theorem documentFrom_preserves (depth : Nat) (content : Value) :
    (documentFrom options fetchers depth content).Preserves P := by
  refine Run.Preserves.bind ?_ fun _ => expanderFrom_preserves herrors hcourse _ _ _ content
  intro j hj
  rwa [journal_passRootGates]

end Preserves

/-! ### Errors on record -/

/-- A step keeps the errors on record and may add further ones. -/
def Run.GrowsErrors {α : Type} (run : Run α) : Prop :=
  ∀ j, j.errors <+: (run.perform j).2.errors

/-- The errors on record grow exactly when no beginning of them is ever lost. -/
theorem growsErrors_iff {α : Type} {run : Run α} :
    run.GrowsErrors ↔ ∀ errors, run.Preserves fun j => errors <+: j.errors := by
  constructor
  · intro h errors j hj
    exact hj.trans (h j)
  · intro h j
    exact h j.errors j (List.prefix_refl _)

namespace Run.GrowsErrors

variable {α β : Type}

theorem pure (a : α) : (Pure.pure a : Run α).GrowsErrors := fun _ => List.prefix_refl _

theorem bind {run : Run α} {next : α → Run β} (hrun : run.GrowsErrors)
    (hnext : ∀ a, (next a).GrowsErrors) : (run >>= next).GrowsErrors := by
  refine growsErrors_iff.mpr fun errors => ?_
  exact (growsErrors_iff.mp hrun errors).bind fun a => growsErrors_iff.mp (hnext a) errors

theorem congruence : Run.Congruence (fun run _ => run.GrowsErrors) where
  pure := Run.GrowsErrors.pure
  bind := Run.GrowsErrors.bind

end Run.GrowsErrors

section Errors

variable (options : ResolutionOptions) (fetchers : Net.Changing Net.Fetcher)

theorem prefix_errors_course (errors : List String) (context : Context) (seen : List String)
    (ref : String) (j : Journal) (hj : errors <+: j.errors) :
    errors <+: (course (settingsAt options fetchers j) context seen ref j).journal.errors := by
  rwa [errors_course]

theorem prefix_append_errors (errors : List String) (j : Journal) (more : List String)
    (hj : errors <+: j.errors) : errors <+: j.errors ++ more :=
  hj.trans (List.prefix_append _ _)

/-- **Errors on record stay there.** -/
theorem growsErrors_expanderFrom (depth : Nat) (context : Context) (seen : List String)
    (value : Value) : (expanderFrom options fetchers depth context seen value).GrowsErrors := by
  refine growsErrors_iff.mpr fun errors => ?_
  exact expanderFrom_preserves (fun j more hj _ => prefix_append_errors errors j more hj)
    (prefix_errors_course options fetchers errors) depth context seen value

theorem growsErrors_walkFieldsBy (depth : Nat) (context : Context) (seen : List String)
    (isReference : Bool) (fields : List (String × Value)) :
    (walkFieldsBy (resolverWithin options fetchers depth context seen) isReference
      fields).GrowsErrors :=
  @walkFieldsBy_related (fun run _ => run.GrowsErrors) Run.GrowsErrors.congruence _
    (resolverWithin options fetchers depth context seen) isReference fields fun entry _ =>
      growsErrors_expanderFrom options fetchers (depth + 1) context seen entry.2

theorem growsErrors_walkItemsBy (depth : Nat) (context : Context) (seen : List String)
    (items : List Value) :
    (walkItemsBy (resolverWithin options fetchers depth context seen) items).GrowsErrors :=
  @walkItemsBy_related (fun run _ => run.GrowsErrors) Run.GrowsErrors.congruence _
    (resolverWithin options fetchers depth context seen) items fun item _ =>
      growsErrors_expanderFrom options fetchers (depth + 1) context seen item

theorem growsErrors_overlayWith {siblings : Run (List (String × Value))} (h : siblings.GrowsErrors)
    (hasSiblings : Bool) (value : Value) :
    (overlayWith siblings hasSiblings value).GrowsErrors :=
  @overlayWith_related (fun run _ => run.GrowsErrors) Run.GrowsErrors.congruence siblings siblings h
    hasSiblings value

end Errors

end ClientGen.Resolution
