import ClientGen.Proofs.Resolution.Served

/-!
# The failures of a resolution

Every failure of a resolution is one of its stage (`Problem.IsOf`), as long as those of the fetcher
are: a dangling reference, a document that cannot be read, a refusal of the gate.  A run keeps this
since a sequence of steps fails as one of them does.  What a resolution comes to in the end is also
attributed to its file (`isOf_resolveFrom`).
-/

namespace ClientGen

/-- A problem is a failure of a stage, if it is a failure at all. -/
def Problem.IsOf (stage : Stage) (problem : Problem) : Prop :=
  ∀ f, problem = .failure f → f.stage = stage

theorem Problem.isOf_failure {stage : Stage} {f : Failure} (h : f.stage = stage) :
    (Problem.failure f).IsOf stage := by
  intro _ hf
  cases hf
  exact h

theorem Problem.isOf_unexpected (stage : Stage) (u : Unexpected) :
    (Problem.unexpected u).IsOf stage := by
  intro _ hf
  cases hf

/-- The failures of a fetcher are those of the resolution. -/
def Net.Fetcher.FailsAtResolution (fetcher : Net.Fetcher) : Prop :=
  ∀ url f, (fetcher url).outcome = .error (.failure f) → f.stage = .resolution

theorem Net.stage_of_checkUrl {url : String} {domains : List String} {f : Failure}
    (h : Net.checkUrl url domains = .error f) : f.stage = .resolution := by
  unfold Net.checkUrl at h
  split at h
  · cases h
  · rename_i refusal hrefusal
    cases h
    cases refusal <;> rfl

namespace Resolution

/-! ### Single references -/

/-- The failure that a course comes to. -/
def Course.failure? : Course → Option Failure
  | .fails failure _ | .refused failure _ => some failure
  | _ => none

theorem stage_of_into {ref pointer identity : String} {inner : Context} {k : Journal} {f : Failure}
    (h : (Course.into ref pointer identity inner k).failure? = some f) : f.stage = .resolution := by
  unfold Course.into at h
  cases hfollow : Pointer.follow inner.root pointer <;> rw [hfollow] at h <;> cases h
  rfl

theorem isOf_contentOf {fetcher : Net.Fetcher} (hfetcher : fetcher.FailsAtResolution) {url : String}
    {problem : Problem} (h : contentOf url (fetcher url) = .error problem) :
    problem.IsOf .resolution := by
  unfold contentOf at h
  cases houtcome : (fetcher url).outcome with
  | error cause =>
    rw [houtcome] at h
    cases h
    rintro f rfl
    exact hfetcher url f houtcome
  | ok text =>
    rw [houtcome] at h
    change readFetched url text = .error problem at h
    unfold readFetched at h
    split at h
    · cases h
    · cases h
      exact Problem.isOf_failure rfl
    · cases h
      exact Problem.isOf_unexpected _ _

theorem isOf_load {settings : Settings} (hfetcher : settings.fetcher.FailsAtResolution)
    {url : String} {j : Journal} {problem : Problem}
    (h : ((load settings url).perform j).1 = .error problem) : problem.IsOf .resolution := by
  rw [perform_load] at h
  cases hknown : Entries.get? url j.documents with
  | some document =>
    rw [hknown] at h
    cases h
  | none =>
    rw [hknown] at h
    cases hcontent : contentOf url (settings.fetcher url) with
    | ok document =>
      rw [hcontent] at h
      cases h
    | error cause =>
      rw [hcontent] at h
      cases h
      exact isOf_contentOf hfetcher hcontent

section Course

variable {settings : Settings} (hfetcher : settings.fetcher.FailsAtResolution) {context : Context}
  {seen : List String} {ref : String} {j : Journal} {f : Failure}

include hfetcher

theorem stage_of_courseAt {url fragment : String}
    (h : (courseAt settings seen ref url fragment j).failure? = some f) :
    f.stage = .resolution := by
  unfold courseAt at h
  dsimp only at h
  split at h
  · cases h
  · split at h
    · rename_i refusal hgate
      cases h
      exact Net.stage_of_checkUrl hgate
    · split at h
      · rename_i failure k hload
        cases h
        exact isOf_load hfetcher (congrArg Prod.fst hload) _ rfl
      · cases h
      · exact stage_of_into h

/-- A reference fails, or is refused, with a failure of the resolution. -/
theorem stage_of_course (h : (course settings context seen ref j).failure? = some f) :
    f.stage = .resolution := by
  unfold course at h
  split at h
  · unfold courseLocal at h
    split at h
    · split at h
      · cases h
        rfl
      · cases h
    · dsimp only at h
      split at h
      · cases h
      · exact stage_of_into h
  · split at h
    · split at h
      · cases h
      · exact stage_of_courseAt hfetcher h
    · cases h

end Course

/-! ### Runs -/

/-- The failures of a run are those of the resolution. -/
def Run.FailsAtResolution {α : Type} (run : Run α) : Prop :=
  ∀ j problem, (run.perform j).1 = .error problem → problem.IsOf .resolution

namespace Run.FailsAtResolution

variable {α β : Type}

theorem pure (a : α) : (Pure.pure a : Run α).FailsAtResolution := by
  intro j problem h
  cases h

theorem bind {run : Run α} {next : α → Run β} (hrun : run.FailsAtResolution)
    (hnext : ∀ a, (next a).FailsAtResolution) : (run >>= next).FailsAtResolution := by
  intro j problem h
  rcases perform_bind_error.mp (Prod.ext h rfl) with hfirst | ⟨a, k, -, hsecond⟩
  · exact hrun j problem (congrArg Prod.fst hfirst)
  · exact hnext a k problem (congrArg Prod.fst hsecond)

theorem congruence : Run.Congruence (fun run _ => run.FailsAtResolution) where
  pure := Run.FailsAtResolution.pure
  bind := Run.FailsAtResolution.bind

end Run.FailsAtResolution

section Whole

variable {options : ResolutionOptions} {fetchers : Net.Changing Net.Fetcher}

theorem failsAtResolution_passGates (refs : List String) :
    (passGates options refs).FailsAtResolution := by
  intro j problem h
  induction refs with
  | nil => cases h
  | cons ref rest ih =>
    rcases passGates_cons_cases options ref rest j with
      hpasses | ⟨_, -, hstops⟩ | ⟨url, fragment, failure, -, hgate, hstops⟩
    · rw [perform_passGates_cons hpasses] at h
      exact ih h
    · rw [hstops] at h
      cases h
      exact Problem.isOf_unexpected _ _
    · rw [hstops] at h
      cases h
      exact Problem.isOf_failure (Net.stage_of_checkUrl hgate)

variable (hfetchers : ∀ past, (fetchers past).FailsAtResolution)

include hfetchers

theorem failsAtResolution_resolverFrom {expand : Expander}
    (hexpand : ∀ context seen value, (expand context seen value).FailsAtResolution)
    (context : Context) (seen : List String) (ref : String) (kept : Value)
    {overlay : Value → Run Value} (hoverlay : ∀ target, (overlay target).FailsAtResolution) :
    (resolverFrom options fetchers expand context seen ref kept overlay).FailsAtResolution := by
  intro j problem h
  rw [perform_resolverFrom] at h
  have hstage : ∀ f,
      (course (settingsAt options fetchers j) context seen ref j).failure? = some f →
        f.stage = .resolution := fun _ => stage_of_course (hfetchers j.requests)
  cases hcourse : course (settingsAt options fetchers j) context seen ref j with
  | stays k =>
    rw [hcourse] at h
    cases h
  | fails failure k =>
    rw [hcourse] at h hstage
    rw [follow_fails] at h
    split at h
    · cases h
    · cases h
      exact Problem.isOf_failure (hstage failure rfl)
  | refused failure k =>
    rw [hcourse] at h hstage
    cases h
    exact Problem.isOf_failure (hstage failure rfl)
  | breaks u k =>
    rw [hcourse] at h
    cases h
    exact Problem.isOf_unexpected _ _
  | enters identity inner target k =>
    rw [hcourse] at h
    exact (hexpand inner _ target).bind hoverlay k problem h

theorem failsAtResolution_documentFrom (depth : Nat) (content : Value) :
    (documentFrom options fetchers depth content).FailsAtResolution := by
  refine Run.FailsAtResolution.bind ?_ fun _ => ?_
  · unfold passRootGates
    split
    · exact failsAtResolution_passGates _
    · exact .pure _
  · refine expanderFrom_related Run.FailsAtResolution.congruence options options fetchers fetchers
      ?_ ?_ _ _ _ content
    · intro j problem h
      cases h
      exact Problem.isOf_unexpected _ _
    · exact fun hexpand context seen ref kept _ _ hoverlay =>
        failsAtResolution_resolverFrom hfetchers hexpand context seen ref kept hoverlay

/-- What a resolution fails with is a failure of its stage and is attributed to the file, unless it
is unexpected. -/
theorem isOf_resolveFrom {depth : Nat} {path : String} {content : Value} {problem : Problem}
    (h : (resolveFrom depth options fetchers path content).outcome = .error problem) :
    problem.IsOf .resolution ∧ ∀ f, problem = .failure f → f.file = path := by
  rw [outcome_resolveFrom] at h
  constructor
  · rintro f rfl
    obtain ⟨cause, hcause, rfl⟩ := conclude_failure h
    exact failsAtResolution_documentFrom hfetchers depth content _ _ hcause cause rfl
  · rintro f rfl
    obtain ⟨cause, -, rfl⟩ := conclude_failure h
    rfl

end Whole

end Resolution

end ClientGen
