import ClientGen.Proofs.Resolution.Visits

/-!
# Strict and lenient resolution

A lenient run does the same as a strict one until something fails that may be put on record.
`Mirrors` says so of two runs that start with the same journal, without errors on record: they end
alike, or the strict run ends in a failure, and the lenient one ends in a problem or has the
message of the failure first on record.  Sequencing respects it, since errors on record stay there
(`mirrors_congruence`), so strict and lenient resolutions of a value are related
(`expanderFrom_mirrors`).

A strict run comes to a reference only if the lenient one does, with the same journal
(`comes_leniently`): so what the gate refuses strictly it refuses leniently
(`gateRefuses_leniently`).  `agreesLeniently` puts this together for documents.
-/

namespace ClientGen

/-- The options of a strict run. -/
def ResolutionOptions.strictly (options : ResolutionOptions) : ResolutionOptions :=
  { options with lenient := false }

/-- The options of a lenient run. -/
def ResolutionOptions.leniently (options : ResolutionOptions) : ResolutionOptions :=
  { options with lenient := true }

namespace Resolution

/-! ### Runs that mirror each other -/

/-- A lenient run follows a failure of the strict one: it ends in a problem, or has the message of
the failure first on record. -/
def Follows (failure : Failure) {α : Type} (result : Except Problem α × Journal) : Prop :=
  (∃ problem, result.1 = .error problem) ∨ result.2.errors.head? = some failure.message

/-- How two runs that start without errors on record end: alike, without errors on record where they
succeed, or the strict one in a failure that the lenient one follows. -/
inductive EndAlike {α : Type} : Except Problem α × Journal → Except Problem α × Journal → Prop
  | ok {a : α} {k : Journal} (herrors : k.errors = []) : EndAlike (.ok a, k) (.ok a, k)
  | unexpected {u : Unexpected} {k : Journal} :
      EndAlike (.error (.unexpected u), k) (.error (.unexpected u), k)
  | failure {failure : Failure} {k : Journal} {result : Except Problem α × Journal}
      (hfollows : Follows failure result) : EndAlike (.error (.failure failure), k) result

/-- Started with the same journal, without errors on record, two runs end alike, and the lenient one
keeps the errors on record. -/
structure Mirrors {α : Type} (strict lenient : Run α) : Prop where
  ends : ∀ j, j.errors = [] → EndAlike (strict.perform j) (lenient.perform j)
  grows : lenient.GrowsErrors

section Mirrors

variable {α β : Type}

theorem mirrors_pure (a : α) : Mirrors (pure a : Run α) (pure a) where
  ends _ hj := .ok hj
  grows := .pure a

/-- What is first on record stays first. -/
theorem follows_bind {failure : Failure} {run : Run α} {next : α → Run β} {j : Journal}
    (hrun : Follows failure (run.perform j)) (hnext : ∀ a, (next a).GrowsErrors) :
    Follows failure ((run >>= next).perform j) := by
  rw [perform_bind]
  rcases hperform : run.perform j with ⟨problem | a, k⟩
  · exact Or.inl ⟨problem, rfl⟩
  · rw [hperform] at hrun
    rcases hrun with ⟨problem, hproblem⟩ | hhead
    · cases hproblem
    · obtain ⟨more, hmore⟩ := hnext a k
      refine Or.inr ?_
      dsimp only
      rw [← hmore, List.head?_append, hhead]
      rfl

theorem mirrors_bind {strict lenient : Run α} {next next' : α → Run β}
    (hrun : Mirrors strict lenient) (hnext : ∀ a, Mirrors (next a) (next' a)) :
    Mirrors (strict >>= next) (lenient >>= next') where
  ends j hj := by
    have hends := hrun.ends j hj
    rcases hstrict : strict.perform j with ⟨outcome, k⟩
    rcases hlenient : lenient.perform j with ⟨outcome', k'⟩
    rw [hstrict, hlenient] at hends
    cases hends with
    | ok herrors =>
      rw [perform_bind_of_ok hstrict, perform_bind_of_ok hlenient]
      exact (hnext _).ends k herrors
    | unexpected =>
      rw [perform_bind, perform_bind, hstrict, hlenient]
      exact .unexpected
    | failure hfollows =>
      rw [perform_bind, hstrict]
      refine .failure (follows_bind ?_ fun a => (hnext a).grows)
      rwa [hlenient]
  grows := hrun.grows.bind fun a => (hnext a).grows

theorem mirrors_congruence : Run.Congruence Mirrors where
  pure := mirrors_pure
  bind := mirrors_bind

end Mirrors

/-! ### Resolutions that mirror each other -/

section Resolutions

variable {options : ResolutionOptions} {fetchers : Net.Changing Net.Fetcher}

theorem growsErrors_resolverFrom {expand : Expander}
    (hexpand : ∀ context seen value, (expand context seen value).GrowsErrors) (context : Context)
    (seen : List String) (ref : String) (kept : Value) {overlay : Value → Run Value}
    (hoverlay : ∀ target, (overlay target).GrowsErrors) :
    (resolverFrom options fetchers expand context seen ref kept overlay).GrowsErrors := by
  refine growsErrors_iff.mpr fun errors => ?_
  exact resolverFrom_preserves (fun j more hj _ => prefix_append_errors errors j more hj)
    (prefix_errors_course options fetchers errors)
    (fun context seen value => growsErrors_iff.mp (hexpand context seen value) errors) context seen
    ref kept fun target => growsErrors_iff.mp (hoverlay target) errors

/-- What can come of a reference does not depend on the leniency. -/
theorem course_leniently (context : Context) (seen : List String) (ref : String) (j : Journal) :
    course (settingsAt options.leniently fetchers j) context seen ref j =
      course (settingsAt options.strictly fetchers j) context seen ref j := rfl

/-- The two resolutions of a reference take the same course, and only a failure is met in different
ways. -/
theorem resolverFrom_mirrors {expand expand' : Expander}
    (hexpand : ∀ context seen value,
      Mirrors (expand context seen value) (expand' context seen value))
    (context : Context) (seen : List String) (ref : String) (kept : Value)
    {overlay overlay' : Value → Run Value}
    (hoverlay : ∀ target, Mirrors (overlay target) (overlay' target)) :
    Mirrors (resolverFrom options.strictly fetchers expand context seen ref kept overlay)
      (resolverFrom options.leniently fetchers expand' context seen ref kept overlay') where
  ends j hj := by
    have herrors := errors_course (settingsAt options.strictly fetchers j) context seen ref j
    rw [hj] at herrors
    rw [perform_resolverFrom, perform_resolverFrom, course_leniently]
    cases hcourse : course (settingsAt options.strictly fetchers j) context seen ref j with
    | stays k =>
      rw [hcourse] at herrors
      exact .ok herrors
    | refused failure k => exact .failure (Or.inl ⟨_, rfl⟩)
    | breaks u k => exact .unexpected
    | fails failure k =>
      rw [hcourse] at herrors
      have hk : k.errors = [] := herrors
      have hrecords : (settingsAt options.leniently fetchers j).lenient = true := rfl
      refine .failure (Or.inr ?_)
      rw [follow_fails, if_pos hrecords]
      dsimp only
      rw [hk]
      rfl
    | enters identity inner target k =>
      rw [hcourse] at herrors
      rw [follow_enters, follow_enters]
      exact (mirrors_bind (hexpand inner _ target) hoverlay).ends k herrors
  grows := growsErrors_resolverFrom (fun context seen value => (hexpand context seen value).grows)
    context seen ref kept fun target => (hoverlay target).grows

/-- **Strict and lenient resolution of a value mirror each other.** -/
theorem expanderFrom_mirrors (depth : Nat) (context : Context) (seen : List String)
    (value : Value) :
    Mirrors (expanderFrom options.strictly fetchers depth context seen value)
      (expanderFrom options.leniently fetchers depth context seen value) := by
  refine expanderFrom_related mirrors_congruence _ _ fetchers fetchers ?_ ?_ depth context seen
    value
  · exact ⟨fun j _ => .unexpected, fun j => List.prefix_refl _⟩
  · exact fun hexpand context seen ref kept _ _ hoverlay =>
      resolverFrom_mirrors hexpand context seen ref kept hoverlay

theorem walkFieldsBy_mirrors (depth : Nat) (context : Context) (seen : List String)
    (isReference : Bool) (fields : List (String × Value)) :
    Mirrors (walkFieldsBy (resolverWithin options.strictly fetchers depth context seen) isReference
        fields)
      (walkFieldsBy (resolverWithin options.leniently fetchers depth context seen) isReference
        fields) :=
  walkFieldsBy_related mirrors_congruence isReference fun entry _ =>
    expanderFrom_mirrors (depth + 1) context seen entry.2

theorem walkItemsBy_mirrors (depth : Nat) (context : Context) (seen : List String)
    (items : List Value) :
    Mirrors (walkItemsBy (resolverWithin options.strictly fetchers depth context seen) items)
      (walkItemsBy (resolverWithin options.leniently fetchers depth context seen) items) :=
  walkItemsBy_related mirrors_congruence fun item _ =>
    expanderFrom_mirrors (depth + 1) context seen item

/-- What succeeds strictly succeeds leniently. -/
theorem Mirrors.perform_ok {α : Type} {strict lenient : Run α} (h : Mirrors strict lenient)
    {j k : Journal} {a : α} (hj : j.errors = []) (hstrict : strict.perform j = (.ok a, k)) :
    lenient.perform j = (.ok a, k) ∧ k.errors = [] := by
  have hends := h.ends j hj
  rw [hstrict] at hends
  rcases hlenient : lenient.perform j with ⟨outcome, l⟩
  rw [hlenient] at hends
  cases hends with
  | ok herrors => exact ⟨rfl, herrors⟩

/-- Entering a target puts no error on record. -/
theorem errors_of_enters {visit : Visit} {identity : String} {inner : Context} {target : Value}
    {k : Journal} (h : visit.course options fetchers = .enters identity inner target k) :
    k.errors = visit.journal.errors := by
  have herrors := errors_course (settingsAt options fetchers visit.journal) visit.context visit.seen
    visit.ref visit.journal
  unfold Visit.course at h
  rw [h] at herrors
  exact herrors

/-- Where a strict run comes to a reference, so does the lenient run, with the same journal. -/
theorem comes_leniently {depth : Nat} {context : Context} {seen : List String} {value : Value}
    {j : Journal} {visit : Visit}
    (h : Comes options.strictly fetchers depth context seen value j visit) (hj : j.errors = []) :
    Comes options.leniently fetchers depth context seen value j visit := by
  induction h with
  | here href => exact .here href
  | item hbefore _ ih =>
    obtain ⟨hbefore, hk⟩ := (walkItemsBy_mirrors _ _ _ _).perform_ok hj hbefore
    exact .item hbefore (ih hk)
  | field href hbefore _ ih =>
    obtain ⟨hbefore, hk⟩ := (walkFieldsBy_mirrors _ _ _ _ _).perform_ok hj hbefore
    exact .field href hbefore (ih hk)
  | target href hcourse _ ih =>
    have hk := errors_of_enters hcourse
    exact .target href hcourse (ih (hk.trans hj))
  | sibling href hcourse htarget hname hbefore _ ih =>
    have hk := errors_of_enters hcourse
    obtain ⟨htarget, hl⟩ := (expanderFrom_mirrors _ _ _ _).perform_ok (hk.trans hj) htarget
    obtain ⟨hbefore, hm⟩ := (walkFieldsBy_mirrors _ _ _ _ _).perform_ok hl hbefore
    exact .sibling href hcourse htarget hname hbefore (ih hm)

/-- The check of references does not depend on the leniency. -/
theorem passGates_leniently (refs : List String) :
    passGates options.leniently refs = passGates options.strictly refs := by
  induction refs with
  | nil => rfl
  | cons ref rest ih =>
    rw [passGates, passGates, ih]
    rfl

theorem passRootGates_leniently (content : Value) :
    passRootGates options.leniently content = passRootGates options.strictly content := by
  unfold passRootGates
  rw [passGates_leniently]
  rfl

/-- What the gate refuses strictly it refuses leniently. -/
theorem gateRefuses_leniently {depth : Nat} {content : Value} {failure : Failure}
    (h : GateRefuses options.strictly fetchers depth content failure) :
    GateRefuses options.leniently fetchers depth content failure := by
  cases h with
  | early hexternal hrefs hbefore hurl hrefused =>
    rw [← passGates_leniently] at hbefore
    exact .early hexternal hrefs hbefore hurl hrefused
  | later hpassed hcomes hrefused =>
    rw [← passRootGates_leniently] at hpassed
    exact .later hpassed (comes_leniently hcomes rfl) hrefused

/-- Strict and lenient resolution of a document end alike. -/
theorem documentFrom_endAlike (depth : Nat) (content : Value) :
    EndAlike ((documentFrom options.strictly fetchers depth content).perform .start)
      ((documentFrom options.leniently fetchers depth content).perform .start) := by
  rw [perform_documentFrom, perform_documentFrom, passRootGates_leniently]
  rcases ((passRootGates options.strictly content).perform .start).1 with problem | passed
  · cases problem with
    | failure failure => exact .failure (Or.inl ⟨_, rfl⟩)
    | unexpected u => exact .unexpected
  · exact (expanderFrom_mirrors (depth + 1) _ [] content).ends .start rfl

end Resolutions

/-! ### Outcomes -/

@[simp] theorem message_withFile (failure : Failure) (file : String) :
    (failure.withFile file).message = failure.message := rfl

/-- How a strict and a lenient resolution of a document agree. -/
structure AgreesLeniently (options : ResolutionOptions) (fetchers : Net.Changing Net.Fetcher)
    (depth : Nat) (file : String) (content : Value) (strict lenient : Net.Fetched Resolution) :
    Prop where
  /-- What the strict run returns, the lenient run returns, without errors. -/
  returned : ∀ r, strict.outcome = .ok r → lenient = strict ∧ r.errors = []
  /-- What the lenient run returns without errors, the strict run returns. -/
  clean : ∀ r, lenient.outcome = .ok r → r.errors = [] → strict = lenient
  /-- Where the strict run fails, the lenient run puts the message first on record or ends in a
  problem. -/
  failed : ∀ failure, strict.outcome = .error (.failure failure) →
    (∃ r, lenient.outcome = .ok r ∧ r.errors.head? = some failure.message) ∨
      ∃ problem, lenient.outcome = .error problem
  /-- What the gate refuses ends both runs alike. -/
  refused : ∀ failure, GateRefuses options.strictly fetchers depth content failure →
    strict.outcome = .error (.failure (failure.withFile file)) ∧
      lenient.outcome = .error (.failure (failure.withFile file))
  /-- Every other failure of the strict run is that of a reference to which it comes. -/
  explained : ∀ failure, strict.outcome = .error (.failure failure) → ∃ cause : Failure,
    failure = cause.withFile file ∧
      (GateRefuses options.strictly fetchers depth content cause ∨ ∃ visit k,
        Comes options.strictly fetchers depth ⟨content, none⟩ [] content .start visit ∧
          visit.course options.strictly fetchers = .fails cause k)
  /-- With a fetcher that does not change, these are the resolutions of the document. -/
  steady : ∀ fetcher, (fetchers = fun _ => fetcher) →
    strict = resolveWithin depth options.strictly fetcher file content ∧
      lenient = resolveWithin depth options.leniently fetcher file content

section Agree

variable {file : String} {content : Value} {result result' : Except Problem Value × Journal}

theorem concluded_returned (h : EndAlike result result') {r : Resolution}
    (hr : (concluded file content result).outcome = .ok r) :
    concluded file content result' = concluded file content result ∧ r.errors = [] := by
  obtain ⟨resolved, hresolved, rfl⟩ := conclude_ok hr
  cases h with
  | ok herrors => exact ⟨rfl, herrors⟩
  | unexpected => cases hresolved
  | failure hfollows => cases hresolved

theorem concluded_clean (h : EndAlike result result') {r : Resolution}
    (hr : (concluded file content result').outcome = .ok r) (hclean : r.errors = []) :
    concluded file content result = concluded file content result' := by
  obtain ⟨resolved, hresolved, rfl⟩ := conclude_ok hr
  cases h with
  | ok herrors => rfl
  | unexpected => rfl
  | failure hfollows =>
    rcases hfollows with ⟨problem, hproblem⟩ | hhead
    · rw [hproblem] at hresolved
      cases hresolved
    · rw [show result'.2.errors = [] from hclean] at hhead
      cases hhead

theorem concluded_failed (h : EndAlike result result') {failure : Failure}
    (hfailure : (concluded file content result).outcome = .error (.failure failure)) :
    (∃ r, (concluded file content result').outcome = .ok r ∧
      r.errors.head? = some failure.message) ∨
    ∃ problem, (concluded file content result').outcome = .error problem := by
  obtain ⟨cause, hcause, rfl⟩ := conclude_failure hfailure
  rcases hlenient : (concluded file content result').outcome with problem | r
  · exact Or.inr ⟨problem, rfl⟩
  · obtain ⟨resolved, hresolved, rfl⟩ := conclude_ok hlenient
    refine Or.inl ⟨_, rfl, ?_⟩
    rw [message_withFile]
    cases h with
    | ok herrors => cases hcause
    | unexpected => cases hcause
    | failure hfollows =>
      cases hcause
      rcases hfollows with ⟨problem, hproblem⟩ | hhead
      · rw [hproblem] at hresolved
        cases hresolved
      · exact hhead

end Agree

/-- **Strict and lenient resolution agree** up to the first failure, whatever the document, the
options and the fetchers. -/
theorem agreesLeniently (options : ResolutionOptions) (fetchers : Net.Changing Net.Fetcher)
    (depth : Nat) (file : String) (content : Value) :
    AgreesLeniently options fetchers depth file content
      (resolveFrom depth options.strictly fetchers file content)
      (resolveFrom depth options.leniently fetchers file content) where
  returned _ hr := concluded_returned (documentFrom_endAlike depth content) hr
  clean _ hr hclean := concluded_clean (documentFrom_endAlike depth content) hr hclean
  failed _ hfailure := concluded_failed (documentFrom_endAlike depth content) hfailure
  refused _ hrefused :=
    ⟨outcome_of_gateRefuses hrefused file,
      outcome_of_gateRefuses (gateRefuses_leniently hrefused) file⟩
  explained failure hfailure := by
    rw [outcome_resolveFrom] at hfailure
    obtain ⟨cause, hcause, rfl⟩ := conclude_failure hfailure
    refine ⟨cause, rfl, ?_⟩
    rcases gateRefuses_or_fails (Prod.ext hcause rfl) with hrefused | ⟨-, hfails⟩
    · exact Or.inl hrefused
    · exact Or.inr hfails
  steady := by
    rintro fetcher rfl
    exact ⟨resolveFrom_steady options.strictly fetcher depth file content,
      resolveFrom_steady options.leniently fetcher depth file content⟩

end Resolution

end ClientGen
