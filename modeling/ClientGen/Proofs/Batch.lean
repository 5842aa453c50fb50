import ClientGen.Batch
import ClientGen.Document
import ClientGen.Proofs.Batch.Pool

/-!
# What the schedule of a batch cannot change

The documents of a batch have fixed outcomes, in whatever order the work on them goes on and
whatever it does to the state.  Then a batch that collects has all of the values and all of the
failures in the order of the documents, and a batch that stops at a failure has all of the values if
there is no failure, and else fails with some of the failures in order: a document is only given up
once another one has failed (`BatchEnds`, `ends_run`).
-/

namespace ClientGen

variable {α σ : Type}

/-! ### Outcomes -/

/-- The values among outcomes. -/
def valuesOf (outcomes : List (Except Failure α)) : List α :=
  outcomes.filterMap Except.toOption

/-- The failure of an outcome. -/
def failure? : Except Failure α → Option Failure
  | .ok _ => none
  | .error f => some f

/-- The failures among outcomes. -/
def failuresOf (outcomes : List (Except Failure α)) : List Failure :=
  outcomes.filterMap failure?

theorem length_valuesOf_add_failuresOf (outcomes : List (Except Failure α)) :
    (valuesOf outcomes).length + (failuresOf outcomes).length = outcomes.length := by
  induction outcomes with
  | nil => rfl
  | cons outcome rest ih =>
    simp only [valuesOf, failuresOf] at ih
    cases outcome with
    | ok value =>
      simp only [valuesOf, failuresOf, Except.toOption, failure?, List.filterMap_cons,
        List.length_cons]
      omega
    | error f =>
      simp only [valuesOf, failuresOf, Except.toOption, failure?, List.filterMap_cons,
        List.length_cons]
      omega

theorem failuresOf_eq_nil_iff {outcomes : List (Except Failure α)} :
    failuresOf outcomes = [] ↔ ∀ f, .error f ∉ outcomes := by
  rw [failuresOf, List.filterMap_eq_nil_iff]
  constructor
  · intro hnone f hmem
    cases hnone _ hmem
  · intro hnone outcome hmem
    cases outcome with
    | ok value => rfl
    | error f => exact absurd hmem (hnone f)

theorem map_ok_valuesOf {outcomes : List (Except Failure α)} (h : failuresOf outcomes = []) :
    (valuesOf outcomes).map Except.ok = outcomes := by
  induction outcomes with
  | nil => rfl
  | cons outcome rest ih =>
    cases outcome with
    | ok value => exact congrArg (List.cons _) (ih h)
    | error f => cases h

/-- How a batch ends whose documents have the given outcomes in order. -/
structure BatchEnds (policy : BatchPolicy) (outcomes : List (Except Failure α))
    (ending : Except BatchFault (BatchResult α)) : Prop where
  /-- A batch that collects has every value and every failure in order, and no more. -/
  collects : policy = .collect →
    ∃ result, ending = .ok result ∧ result.successes = valuesOf outcomes ∧
      result.failures = failuresOf outcomes ∧
      result.successes.length + result.failures.length = outcomes.length
  /-- A batch in which nothing fails has the value of every document in order. -/
  completes : policy = .failFast → (∀ f, .error f ∉ outcomes) →
    ∃ result, ending = .ok result ∧ result.successes.map Except.ok = outcomes ∧
      result.failures = []
  /-- A batch that stops at a failure ends with some of the failures in order, and with the failure
  itself if there is only one. -/
  stops : policy = .failFast → ¬(∀ f, .error f ∉ outcomes) →
    ∃ seen, ending = .error (.failed ⟨seen⟩) ∧ seen ≠ [] ∧ seen.Sublist (failuresOf outcomes) ∧
      ∀ f, failuresOf outcomes = [f] → seen = [f]

theorem valuesOf_map_ok (values : List α) :
    valuesOf (values.map Except.ok) = values := by
  rw [valuesOf, List.filterMap_map]
  exact List.filterMap_some

theorem failuresOf_map_ok (values : List α) :
    failuresOf (values.map Except.ok) = [] := by
  rw [failuresOf, List.filterMap_map]
  exact List.filterMap_eq_nil_iff.mpr fun value _ => rfl

/-- A batch ends with all that it has, or, when it stops at failures, with some of these. -/
theorem BatchEnds.cases {policy : BatchPolicy} {outcomes : List (Except Failure α)}
    {ending : Except BatchFault (BatchResult α)} (h : BatchEnds policy outcomes ending) :
    (ending = .ok ⟨valuesOf outcomes, failuresOf outcomes⟩ ∧
        (policy = .collect ∨ failuresOf outcomes = [])) ∨
      policy = .failFast ∧ ∃ seen, ending = .error (.failed ⟨seen⟩) ∧ seen ≠ [] ∧
        seen.Sublist (failuresOf outcomes) := by
  cases policy with
  | collect =>
    obtain ⟨⟨successes, failures⟩, hending, hsuccesses, hfailures, -⟩ := h.collects rfl
    dsimp only at hsuccesses hfailures
    subst hsuccesses hfailures
    exact .inl ⟨hending, .inl rfl⟩
  | failFast =>
    by_cases hnone : ∀ f, .error f ∉ outcomes
    · obtain ⟨⟨successes, failures⟩, hending, hsuccesses, hfailures⟩ := h.completes rfl hnone
      dsimp only at hsuccesses hfailures
      subst hsuccesses hfailures
      rw [valuesOf_map_ok, failuresOf_map_ok]
      exact .inl ⟨hending, .inr rfl⟩
    · obtain ⟨seen, hending, hseen, hsublist, -⟩ := h.stops rfl hnone
      exact .inr ⟨rfl, seen, hending, hseen, hsublist⟩

namespace Batch

/-- The result of the work on a document with an outcome. -/
def settled (outcome : Except Failure α) : Except Problem α :=
  outcome.mapError Problem.failure

theorem values_settled (outcomes : List (Except Failure α)) :
    values (outcomes.map settled) = valuesOf outcomes := by
  rw [values, valuesOf, List.filterMap_map]
  refine List.filterMap_congr fun outcome _ => ?_
  cases outcome <;> rfl

theorem failures_settled (outcomes : List (Except Failure α)) :
    failures (outcomes.map settled) = failuresOf outcomes := by
  rw [failures, failuresOf, List.filterMap_map]
  refine List.filterMap_congr fun outcome _ => ?_
  cases outcome <;> rfl

theorem firstUnexpected_settled (outcomes : List (Except Failure α)) :
    firstUnexpected (outcomes.map settled) = none := by
  rw [firstUnexpected, List.findSome?_map, List.findSome?_eq_none_iff]
  intro outcome _
  cases outcome <;> rfl

/-- Work with settled results ends with its failures, if there are some and they count, and else
with all that it has. -/
theorem conclude_settled (policy : BatchPolicy) (outcomes : List (Except Failure α)) :
    conclude policy (outcomes.map settled) =
      if policy = .failFast ∧ failuresOf outcomes ≠ [] then
        .error (.failed ⟨failuresOf outcomes⟩)
      else .ok ⟨valuesOf outcomes, failuresOf outcomes⟩ := by
  unfold conclude
  simp only [firstUnexpected_settled, values_settled, failures_settled]
  cases policy with
  | collect => simp
  | failFast => cases failuresOf outcomes <;> simp

theorem alarms_settled_iff {policy : BatchPolicy} {outcome : Except Failure α} :
    alarms policy (settled outcome) = true ↔ policy = .failFast ∧ ∃ f, outcome = .error f := by
  cases policy <;> cases outcome <;> simp [alarms, settled, isFailure, Except.mapError]

theorem map_getD_range (paths : List String) :
    (List.range paths.length).map (fun task => paths.getD task "") = paths := by
  refine List.ext_getElem (by simp) fun i hi _ => ?_
  have hlt : i < paths.length := by simpa using hi
  simp [hlt]

variable {policy : BatchPolicy} {outcomes chosen : List (Except Failure α)}

/-- The end of a batch in which all work is done, or some of it and a failure stops the batch. -/
theorem ends_conclude (hsublist : chosen.Sublist outcomes)
    (hchosen : chosen = outcomes ∨ ∃ outcome ∈ chosen, alarms policy (settled outcome) = true) :
    BatchEnds policy outcomes (conclude policy (chosen.map settled)) where
  collects hpolicy := by
    subst hpolicy
    have hwhole : chosen = outcomes := by
      rcases hchosen with hwhole | ⟨outcome, -, halarms⟩
      · exact hwhole
      · cases (alarms_settled_iff.mp halarms).1
    subst hwhole
    refine ⟨⟨valuesOf chosen, failuresOf chosen⟩, ?_, rfl, rfl,
      length_valuesOf_add_failuresOf chosen⟩
    rw [conclude_settled, if_neg (by simp)]
  completes hpolicy hnone := by
    subst hpolicy
    have hwhole : chosen = outcomes := by
      rcases hchosen with hwhole | ⟨outcome, hmem, halarms⟩
      · exact hwhole
      · obtain ⟨-, f, rfl⟩ := alarms_settled_iff.mp halarms
        exact absurd (hsublist.subset hmem) (hnone f)
    subst hwhole
    have hfailures : failuresOf chosen = [] := failuresOf_eq_nil_iff.mpr hnone
    refine ⟨⟨valuesOf chosen, []⟩, ?_, map_ok_valuesOf hfailures, rfl⟩
    rw [conclude_settled, hfailures, if_neg (by simp)]
  stops hpolicy hsome := by
    subst hpolicy
    -- A failure is among what was done: it stopped the batch, or nothing was left out.
    have hseen : failuresOf chosen ≠ [] := by
      rcases hchosen with rfl | ⟨outcome, hmem, halarms⟩
      · exact fun hnil => hsome (failuresOf_eq_nil_iff.mp hnil)
      · obtain ⟨-, f, rfl⟩ := alarms_settled_iff.mp halarms
        exact fun hnil => failuresOf_eq_nil_iff.mp hnil f hmem
    have hseenSublist : (failuresOf chosen).Sublist (failuresOf outcomes) :=
      hsublist.filterMap failure?
    refine ⟨failuresOf chosen, ?_, hseen, hseenSublist, fun f hsingle => ?_⟩
    · rw [conclude_settled, if_pos ⟨rfl, hseen⟩]
    · rw [hsingle] at hseenSublist
      exact (List.sublist_singleton.mp hseenSublist).resolve_left hseen

/-- A batch ends as the outcomes of its documents say when the results are those of some of the
documents in order: of all of them, or of some among which one stops the batch. -/
theorem ends_of_finished {outcome : String → Except Failure α} {paths : List String}
    {results : List (Except Problem α)} {finished : List Nat}
    (hresults : results = finished.map fun task => settled (outcome (paths.getD task "")))
    (hsublist : finished.Sublist (List.range paths.length))
    (hfinished : finished = List.range paths.length ∨
      ∃ task ∈ finished, alarms policy (settled (outcome (paths.getD task ""))) = true) :
    BatchEnds policy (paths.map outcome) (conclude policy results) := by
  set outcomeOf : Nat → Except Failure α := fun task => outcome (paths.getD task "")
  have hpaths : (List.range paths.length).map outcomeOf = paths.map outcome :=
    calc (List.range paths.length).map outcomeOf
        = ((List.range paths.length).map fun task => paths.getD task "").map outcome :=
          List.map_map.symm
      _ = paths.map outcome := by rw [map_getD_range]
  have hmap : results = (finished.map outcomeOf).map settled := by
    rw [hresults, List.map_map]
    rfl
  rw [hmap]
  refine ends_conclude (hpaths ▸ hsublist.map outcomeOf) ?_
  rcases hfinished with rfl | ⟨task, hmem, halarms⟩
  · exact .inl hpaths
  · exact .inr ⟨outcomeOf task, List.mem_map_of_mem hmem, halarms⟩

/-- Work whose results are settled, and that may do anything to the state. -/
def settledWork (outcome : String → Except Failure α) (effect : String → σ → σ) (path : String) :
    StateM σ (Except Problem α) :=
  fun s => (settled (outcome path), effect path s)

/-- Whatever the number of workers, the schedule, and what the work does to the state, a batch ends
as the outcomes of its documents say. -/
theorem ends_run (policy : BatchPolicy) (most : Int) (schedule : List Move)
    (outcome : String → Except Failure α) (effect : String → σ → σ) (paths : List String) (s : σ) :
    BatchEnds policy (paths.map outcome)
      (run policy most schedule (settledWork outcome effect) paths s).1 := by
  have hwork : ∀ (task : Nat) (s : σ),
      (settledWork outcome effect (paths.getD task "") s).1 =
        settled (outcome (paths.getD task "")) := fun _ _ => rfl
  obtain ⟨finished, hrun, hsublist, hfinished⟩ :=
    Pool.run_spec hwork (workerCount most paths.length) (alarms policy) schedule paths.length s
  exact ends_of_finished hrun hsublist hfinished

/-- A document that is missing. -/
def missing (path : String) : Except Failure Unit :=
  .error ((ReadFault.missing path).failure path)

-- Which failures are seen depends on the schedule: here the second document is given up.
example :
    (run .failFast 1 [.take, .finish 0, .look 0, .giveUp 1] (settledWork missing fun _ s => s)
        ["a", "b"] ()).1 = .error (.failed ⟨failuresOf [missing "a"]⟩) ∧
      (run .failFast 1 [] (settledWork missing fun _ s => s) ["a", "b"] ()).1 =
        .error (.failed ⟨failuresOf [missing "a", missing "b"]⟩) :=
  ⟨rfl, rfl⟩

end Batch

end ClientGen
