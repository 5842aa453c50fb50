import ClientGen.Proofs.Resolution.Served

/-!
# The references that a resolution comes to

`Comes options fetchers depth context seen value j visit` says that the resolution of a value,
started with the journal `j`, comes to a reference: all that is resolved before it succeeds, and it
is next.  So what a run does there it does as a whole (`holds_of_comes`): a course that ends the run
in a problem does so (`perform_of_endsIn`), and a failure that is put on record stays there
(`mem_errors_of_fails`).  Conversely every problem in which a run ends is that of a reference to
which it comes (`comesToProblem_of_error`).

`GateRefuses` says that the gate refuses a URL about which the resolver itself asks it, be it that
of a reference of the document, before anything is resolved, or that of a reference to which the
resolution comes.  Whether leniently or not, such a refusal ends the resolution
(`perform_of_gateRefuses`).
-/

namespace ClientGen.Resolution

/-! ### Traversals, part by part -/

section Parts

variable {resolver : Resolver} {isReference : Bool} {j k : Journal}

/-- After the fields before it, the value of a field is next. -/
theorem perform_walkFieldsBy_append {before after done : List (String × Value)} {name : String}
    {value : Value} (hname : (isReference && name == Reference.key) = false)
    (hbefore : (walkFieldsBy resolver isReference before).perform j = (.ok done, k)) :
    (walkFieldsBy resolver isReference (before ++ (name, value) :: after)).perform j =
      (walkBy resolver value >>= fun resolved =>
        walkFieldsBy resolver isReference after >>= fun more =>
        pure (done ++ (name, resolved) :: more)).perform k := by
  induction before generalizing j done with
  | nil =>
    cases hbefore
    rw [List.nil_append, walkFieldsBy, if_neg (hname ▸ Bool.false_ne_true)]
    rfl
  | cons first rest ih =>
    obtain ⟨key, part⟩ := first
    rw [List.cons_append, walkFieldsBy]
    rw [walkFieldsBy] at hbefore
    split
    · rename_i hskip
      rw [if_pos hskip] at hbefore
      exact ih hbefore
    · rename_i hkeep
      rw [if_neg hkeep] at hbefore
      obtain ⟨resolved, m, hpart, hbefore⟩ := perform_bind_ok.mp hbefore
      obtain ⟨more, l, hrest, hpure⟩ := perform_bind_ok.mp hbefore
      cases hpure
      rw [perform_bind_of_ok hpart, perform_bind_congr (ih hrest)]
      simp only [bind_assoc, pure_bind, List.cons_append]

/-- Where fields end in a problem, it is that of the value of one of them, after those before it. -/
theorem perform_walkFieldsBy_error {fields : List (String × Value)} {problem : Problem}
    (h : (walkFieldsBy resolver isReference fields).perform j = (.error problem, k)) :
    ∃ before name value after done l, fields = before ++ (name, value) :: after ∧
      (isReference && name == Reference.key) = false ∧
      (walkFieldsBy resolver isReference before).perform j = (.ok done, l) ∧
      (walkBy resolver value).perform l = (.error problem, k) := by
  induction fields generalizing j with
  | nil => cases h
  | cons first rest ih =>
    obtain ⟨key, part⟩ := first
    rw [walkFieldsBy] at h
    split at h
    · rename_i hskip
      obtain ⟨before, name, value, after, done, l, rfl, hname, hbefore, hvalue⟩ := ih h
      refine ⟨(key, part) :: before, name, value, after, done, l, rfl, hname, ?_, hvalue⟩
      rw [walkFieldsBy, if_pos hskip]
      exact hbefore
    · rename_i hkeep
      rcases perform_bind_error.mp h with hpart | ⟨resolved, m, hpart, hmore⟩
      · exact ⟨[], key, part, rest, [], j, rfl, by simpa using hkeep, rfl, hpart⟩
      · rcases perform_bind_error.mp hmore with hrest | ⟨_, _, -, hpure⟩
        · obtain ⟨before, name, value, after, done, l, rfl, hname, hbefore, hvalue⟩ := ih hrest
          refine ⟨(key, part) :: before, name, value, after, (key, resolved) :: done, l, rfl, hname,
            ?_, hvalue⟩
          rw [walkFieldsBy, if_neg hkeep, perform_bind_of_ok hpart, perform_bind_of_ok hbefore]
          rfl
        · cases hpure

/-- After the items before it, an item is next. -/
theorem perform_walkItemsBy_append {before after done : List Value} {item : Value}
    (hbefore : (walkItemsBy resolver before).perform j = (.ok done, k)) :
    (walkItemsBy resolver (before ++ item :: after)).perform j =
      (walkBy resolver item >>= fun resolved =>
        walkItemsBy resolver after >>= fun more => pure (done ++ resolved :: more)).perform k := by
  induction before generalizing j done with
  | nil =>
    cases hbefore
    rw [List.nil_append, walkItemsBy]
    rfl
  | cons first rest ih =>
    rw [List.cons_append, walkItemsBy]
    rw [walkItemsBy] at hbefore
    obtain ⟨resolved, m, hpart, hbefore⟩ := perform_bind_ok.mp hbefore
    obtain ⟨more, l, hrest, hpure⟩ := perform_bind_ok.mp hbefore
    cases hpure
    rw [perform_bind_of_ok hpart, perform_bind_congr (ih hrest)]
    simp only [bind_assoc, pure_bind, List.cons_append]

/-- Where items end in a problem, it is that of one of them, after those before it. -/
theorem perform_walkItemsBy_error {items : List Value} {problem : Problem}
    (h : (walkItemsBy resolver items).perform j = (.error problem, k)) :
    ∃ before item after done l, items = before ++ item :: after ∧
      (walkItemsBy resolver before).perform j = (.ok done, l) ∧
      (walkBy resolver item).perform l = (.error problem, k) := by
  induction items generalizing j with
  | nil => cases h
  | cons first rest ih =>
    rw [walkItemsBy] at h
    rcases perform_bind_error.mp h with hpart | ⟨resolved, m, hpart, hmore⟩
    · exact ⟨[], first, rest, [], j, rfl, rfl, hpart⟩
    · rcases perform_bind_error.mp hmore with hrest | ⟨_, _, -, hpure⟩
      · obtain ⟨before, item, after, done, l, rfl, hbefore, hitem⟩ := ih hrest
        refine ⟨first :: before, item, after, resolved :: done, l, rfl, ?_, hitem⟩
        rw [walkItemsBy, perform_bind_of_ok hpart, perform_bind_of_ok hbefore]
        rfl
      · cases hpure

end Parts

/-! ### Visits -/

/-- A reference that a resolution comes to: where it is read, what is being expanded, and the
journal by then. -/
structure Visit where
  context : Context
  seen : List String
  ref : String
  journal : Journal

/-- The course of the reference. -/
def Visit.course (options : ResolutionOptions) (fetchers : Net.Changing Net.Fetcher)
    (visit : Visit) : Course :=
  Resolution.course (settingsAt options fetchers visit.journal) visit.context visit.seen visit.ref
    visit.journal

/-- The resolution of a value comes to a reference: to that which the value is, to one in a part of
it, after the parts before, to one in its target, or to one in a sibling, after the target. -/
inductive Comes (options : ResolutionOptions) (fetchers : Net.Changing Net.Fetcher) :
    Nat → Context → List String → Value → Journal → Visit → Prop
  | here {depth : Nat} {context : Context} {seen : List String} {fields : List (String × Value)}
      {ref : String} {j : Journal} (href : Reference.ofFields? fields = some ref) :
      Comes options fetchers depth context seen (.object fields) j ⟨context, seen, ref, j⟩
  | item {depth : Nat} {context : Context} {seen : List String} {before after done : List Value}
      {item : Value} {j k : Journal} {visit : Visit}
      (hbefore : (walkItemsBy (resolverWithin options fetchers depth context seen)
        before).perform j = (.ok done, k))
      (hitem : Comes options fetchers depth context seen item k visit) :
      Comes options fetchers depth context seen (.list (before ++ item :: after)) j visit
  | field {depth : Nat} {context : Context} {seen : List String}
      {before after done : List (String × Value)} {name : String} {value : Value} {j k : Journal}
      {visit : Visit} (href : Reference.ofFields? (before ++ (name, value) :: after) = none)
      (hbefore : (walkFieldsBy (resolverWithin options fetchers depth context seen) false
        before).perform j = (.ok done, k))
      (hvalue : Comes options fetchers depth context seen value k visit) :
      Comes options fetchers depth context seen (.object (before ++ (name, value) :: after)) j visit
  | target {depth : Nat} {context inner : Context} {seen : List String}
      {fields : List (String × Value)} {ref identity : String} {target : Value} {j k : Journal}
      {visit : Visit} (href : Reference.ofFields? fields = some ref)
      (hcourse : Visit.course options fetchers ⟨context, seen, ref, j⟩ =
        .enters identity inner target k)
      (htarget : Comes options fetchers depth inner (identity :: seen) target k visit) :
      Comes options fetchers (depth + 1) context seen (.object fields) j visit
  | sibling {depth : Nat} {context inner : Context} {seen : List String}
      {before after done below : List (String × Value)} {name ref identity : String}
      {value target : Value} {j k l m : Journal} {visit : Visit}
      (href : Reference.ofFields? (before ++ (name, value) :: after) = some ref)
      (hcourse : Visit.course options fetchers ⟨context, seen, ref, j⟩ =
        .enters identity inner target k)
      (htarget : (expanderFrom options fetchers depth inner (identity :: seen) target).perform k =
        (.ok (.object below), l))
      (hname : name ≠ Reference.key)
      (hbefore : (walkFieldsBy (resolverWithin options fetchers depth context seen) true
        before).perform l = (.ok done, m))
      (hvalue : Comes options fetchers depth context seen value m visit) :
      Comes options fetchers depth context seen (.object (before ++ (name, value) :: after)) j visit

section Comes

variable {options : ResolutionOptions} {fetchers : Net.Changing Net.Fetcher} {depth : Nat}
  {context : Context} {seen : List String} {value : Value} {j : Journal} {visit : Visit}

theorem perform_reference {fields : List (String × Value)} {ref : String}
    (href : Reference.ofFields? fields = some ref) :
    (walkBy (resolverWithin options fetchers depth context seen) (.object fields)).perform j =
      (Visit.course options fetchers ⟨context, seen, ref, j⟩).follow (settingsAt options fetchers j)
        (expanderFrom options fetchers depth) seen (.object fields)
        (overlayWith (walkFieldsBy (resolverWithin options fetchers depth context seen) true fields)
          (hasSiblings fields)) := by
  rw [walkBy, href]
  exact perform_resolverFrom options fetchers _ context seen ref _ _ j

/-- A field other than the reference is a sibling. -/
theorem hasSiblings_append {before after : List (String × Value)} {name : String}
    (hname : name ≠ Reference.key) : hasSiblings (before ++ (name, value) :: after) = true := by
  unfold hasSiblings
  refine List.any_eq_true.mpr ⟨(name, value), by simp, ?_⟩
  simpa using hname

/-! ### What a run does at a visit, it does -/

/-- A property of results that a step hands on to the run that goes on after it. -/
def IsHandedOn (Q : ∀ {α : Type}, Except Problem α × Journal → Prop) : Prop :=
  ∀ {α β : Type} {run : Run α} {next : α → Run β} {j : Journal}, Q (run.perform j) →
    (∀ a, (next a).GrowsErrors) → Q ((run >>= next).perform j)

/-- What holds of the result at a reference to which a run comes, and is handed on, holds of the
result of the run. -/
theorem holds_of_comes {Q : ∀ {α : Type}, Except Problem α × Journal → Prop}
    (hQ : IsHandedOn Q) (h : Comes options fetchers depth context seen value j visit)
    (hvisit : ∀ left kept overlay, visit.seen.length + left = seen.length + depth →
      Q ((resolverWithin options fetchers left visit.context visit.seen visit.ref kept
        overlay).perform visit.journal)) :
    Q ((walkBy (resolverWithin options fetchers depth context seen) value).perform j) := by
  induction h with
  | here href =>
    rw [walkBy, href]
    exact hvisit _ _ _ rfl
  | item hbefore _ ih =>
    rw [walkBy, map_eq_pure_bind]
    refine hQ ?_ fun _ => .pure _
    rw [perform_walkItemsBy_append hbefore]
    refine hQ (ih hvisit) fun _ => .bind ?_ fun _ => .pure _
    exact growsErrors_walkItemsBy options fetchers _ _ _ _
  | field href hbefore _ ih =>
    rw [walkBy, href, map_eq_pure_bind]
    refine hQ ?_ fun _ => .pure _
    rw [perform_walkFieldsBy_append (Bool.false_and _) hbefore]
    refine hQ (ih hvisit) fun _ => .bind ?_ fun _ => .pure _
    exact growsErrors_walkFieldsBy options fetchers _ _ _ _ _
  | target href hcourse _ ih =>
    rw [perform_reference href, hcourse, follow_enters]
    refine hQ (ih fun left kept overlay hleft => hvisit left kept overlay ?_) fun target => ?_
    · rw [hleft, List.length_cons]
      omega
    · exact growsErrors_overlayWith (growsErrors_walkFieldsBy options fetchers _ _ _ _ _) _ target
  | sibling href hcourse htarget hname hbefore _ ih =>
    rw [perform_reference href, hcourse, follow_enters, perform_bind_of_ok htarget,
      hasSiblings_append hname]
    refine hQ ?_ fun _ => .pure _
    rw [perform_walkFieldsBy_append (by simpa using hname) hbefore]
    refine hQ (ih hvisit) fun _ => .bind ?_ fun _ => .pure _
    exact growsErrors_walkFieldsBy options fetchers _ _ _ _ _

/-- A course ends the run in a problem: a refusal and what is unexpected do, a failure does strictly,
and entering a target does where expansions may not be nested any further. -/
inductive Course.EndsIn (options : ResolutionOptions) (spent : Prop) : Course → Problem → Prop
  | refused (failure : Failure) (k : Journal) :
      EndsIn options spent (.refused failure k) (.failure failure)
  | fails (failure : Failure) (k : Journal) (hstrict : options.lenient = false) :
      EndsIn options spent (.fails failure k) (.failure failure)
  | breaks (u : Unexpected) (k : Journal) : EndsIn options spent (.breaks u k) (.unexpected u)
  | enters (identity : String) (inner : Context) (target : Value) (k : Journal)
      (hspent : spent) : EndsIn options spent (.enters identity inner target k) tooDeep

/-- The course of the reference ends a run in a problem that started with the references `seen`
being expanded and with at most `depth` expansions inside one another. -/
def Visit.EndsIn (options : ResolutionOptions) (fetchers : Net.Changing Net.Fetcher) (depth : Nat)
    (seen : List String) (visit : Visit) (problem : Problem) : Prop :=
  (visit.course options fetchers).EndsIn options (visit.seen.length = seen.length + depth) problem

/-- **A course that ends the run does so**, wherever the run comes to it. -/
theorem perform_of_endsIn (h : Comes options fetchers depth context seen value j visit)
    {problem : Problem} (hends : visit.EndsIn options fetchers depth seen problem) :
    ((expanderFrom options fetchers (depth + 1) context seen value).perform j).1 =
      .error problem := by
  refine holds_of_comes (Q := fun result => result.1 = .error problem) ?_ h ?_
  · intro α β run next j hrun _
    rw [perform_bind]
    rcases hperform : run.perform j with ⟨outcome, k⟩
    rw [hperform] at hrun
    cases hrun
    rfl
  · intro left kept overlay hleft
    unfold resolverWithin
    rw [perform_resolverFrom]
    change ((visit.course options fetchers).follow (settingsAt options fetchers visit.journal)
      _ _ _ _).1 = _
    unfold Visit.EndsIn at hends
    generalize visit.course options fetchers = c at hends
    cases hends with
    | refused failure k => rfl
    | fails failure k hstrict =>
      have hrecords : ¬(settingsAt options fetchers visit.journal).lenient = true := by
        change ¬options.lenient = true
        rw [hstrict]
        exact Bool.false_ne_true
      rw [follow_fails, if_neg hrecords]
    | breaks u k => rfl
    | enters identity inner target k hspent =>
      -- As many references are being expanded as may be, so nothing is left for the target.
      obtain rfl : left = 0 := by omega
      rfl

/-- **A refusal ends the run**, whether leniently or not. -/
theorem perform_of_refused (h : Comes options fetchers depth context seen value j visit)
    {failure : Failure} {k : Journal}
    (hrefused : visit.course options fetchers = .refused failure k) :
    ((expanderFrom options fetchers (depth + 1) context seen value).perform j).1 =
      .error (.failure failure) := by
  refine perform_of_endsIn h ?_
  unfold Visit.EndsIn
  rw [hrefused]
  exact .refused failure k

/-- **A failure that is put on record stays there.** -/
theorem mem_errors_of_fails (h : Comes options fetchers depth context seen value j visit)
    (hlenient : options.lenient = true) {failure : Failure} {k : Journal}
    (hfails : visit.course options fetchers = .fails failure k) :
    failure.message ∈
      ((expanderFrom options fetchers (depth + 1) context seen value).perform j).2.errors := by
  refine holds_of_comes (Q := fun result => failure.message ∈ result.2.errors) ?_ h ?_
  · intro α β run next j hrun hnext
    rw [perform_bind]
    rcases hperform : run.perform j with ⟨problem | a, k⟩
    · rwa [hperform] at hrun
    · rw [hperform] at hrun
      exact (hnext a k).subset hrun
  · intro left kept overlay _
    have hcourse : course (settingsAt options fetchers visit.journal) visit.context visit.seen
      visit.ref visit.journal = .fails failure k := hfails
    have hrecords : (settingsAt options fetchers visit.journal).lenient = true := hlenient
    unfold resolverWithin
    rw [perform_resolverFrom, hcourse, follow_fails, if_pos hrecords]
    exact List.mem_append_right _ (List.mem_singleton_self _)

end Comes

/-! ### Where problems come from -/

section Problems

variable {options : ResolutionOptions} {fetchers : Net.Changing Net.Fetcher}

/-- The run comes to a reference whose course ends it in the problem. -/
def ComesToProblem (options : ResolutionOptions) (fetchers : Net.Changing Net.Fetcher) (depth : Nat)
    (context : Context) (seen : List String) (value : Value) (j : Journal) (problem : Problem) :
    Prop :=
  ∃ visit, Comes options fetchers depth context seen value j visit ∧
    visit.EndsIn options fetchers depth seen problem

/-- The run comes to a reference with the failure, which is not put on record. -/
def ComesToFailure (options : ResolutionOptions) (fetchers : Net.Changing Net.Fetcher) (depth : Nat)
    (context : Context) (seen : List String) (value : Value) (j : Journal) (failure : Failure) :
    Prop :=
  ∃ visit k, Comes options fetchers depth context seen value j visit ∧
    (visit.course options fetchers = .refused failure k ∨
      visit.course options fetchers = .fails failure k ∧ options.lenient = false)

theorem ComesToProblem.trans {depth depth' : Nat} {context context' : Context}
    {seen seen' : List String} {value value' : Value} {j j' : Journal} {problem : Problem}
    (h : ComesToProblem options fetchers depth context seen value j problem)
    (hdepth : seen.length + depth = seen'.length + depth')
    (hcomes : ∀ visit, Comes options fetchers depth context seen value j visit →
      Comes options fetchers depth' context' seen' value' j' visit) :
    ComesToProblem options fetchers depth' context' seen' value' j' problem := by
  obtain ⟨visit, hvisit, hends⟩ := h
  refine ⟨visit, hcomes visit hvisit, ?_⟩
  unfold Visit.EndsIn at hends ⊢
  rwa [← hdepth]

/-- Where an overlay ends in a problem, so do the siblings that are laid over. -/
theorem perform_overlayWith_error {siblings : Run (List (String × Value))} {flag : Bool}
    {value : Value} {j k : Journal} {problem : Problem}
    (h : (overlayWith siblings flag value).perform j = (.error problem, k)) :
    ∃ below, value = .object below ∧ siblings.perform j = (.error problem, k) := by
  cases value with
  | object below =>
    cases flag with
    | false => cases h
    | true =>
      change (siblings >>= fun above =>
        pure (Value.object (Entries.overlay above below)) : Run Value).perform j = _ at h
      rcases perform_bind_error.mp h with hsiblings | ⟨_, _, -, hpure⟩
      · exact ⟨below, rfl, hsiblings⟩
      · cases hpure
  | _ => cases h

/-- A problem of the targets of references: either nothing may be nested any further, or the
resolution of the target comes to a reference with the problem. -/
def TargetsCome (options : ResolutionOptions) (fetchers : Net.Changing Net.Fetcher) (depth : Nat)
    (problem : Problem) : Prop :=
  ∀ {inner seen target j k},
    (expanderFrom options fetchers depth inner seen target).perform j = (.error problem, k) →
      depth = 0 ∧ problem = tooDeep ∨ ∃ depth', depth = depth' + 1 ∧
        ComesToProblem options fetchers depth' inner seen target j problem

section Walk

variable {depth : Nat} {context : Context} {seen : List String} {problem : Problem}
  (htargets : TargetsCome options fetchers depth problem)

include htargets

/-- Where the resolution of a reference ends in a problem, it is that of the reference itself, or
that of its target or of a sibling. -/
theorem comesToProblem_of_reference {fields : List (String × Value)} {ref : String} {j k : Journal}
    (href : Reference.ofFields? fields = some ref)
    (hfields : ∀ entry ∈ fields, ∀ {l m},
      (walkBy (resolverWithin options fetchers depth context seen) entry.2).perform l =
        (.error problem, m) →
      ComesToProblem options fetchers depth context seen entry.2 l problem)
    (h : (walkBy (resolverWithin options fetchers depth context seen) (.object fields)).perform j =
      (.error problem, k)) :
    ComesToProblem options fetchers depth context seen (.object fields) j problem := by
  have hhere : Visit.EndsIn options fetchers depth seen ⟨context, seen, ref, j⟩ problem →
      ComesToProblem options fetchers depth context seen (.object fields) j problem :=
    fun hends => ⟨_, .here href, hends⟩
  unfold Visit.EndsIn at hhere
  rw [perform_reference href] at h
  cases hcourse : Visit.course options fetchers ⟨context, seen, ref, j⟩ with
  | stays l =>
    rw [hcourse] at h
    cases h
  | breaks u l =>
    rw [hcourse] at h hhere
    cases h
    exact hhere (.breaks u _)
  | refused refusal l =>
    rw [hcourse] at h hhere
    cases h
    exact hhere (.refused refusal _)
  | fails failed l =>
    rw [hcourse] at h hhere
    rw [follow_fails] at h
    split at h
    · cases h
    · rename_i hstrict
      cases h
      exact hhere (.fails failed _ (Bool.eq_false_iff.mpr hstrict))
  | enters identity inner target l =>
    rw [hcourse, follow_enters] at h
    rcases perform_bind_error.mp h with htarget | ⟨resolved, m, htarget, hoverlay⟩
    · rcases htargets htarget with ⟨rfl, rfl⟩ | ⟨depth', rfl, hproblem⟩
      · rw [hcourse] at hhere
        exact hhere (.enters identity inner target l rfl)
      · refine hproblem.trans ?_ fun visit hvisit => .target href hcourse hvisit
        rw [List.length_cons]
        omega
    · obtain ⟨below, rfl, hsiblings⟩ := perform_overlayWith_error hoverlay
      obtain ⟨before, name, value, after, done, n, rfl, hname, hbefore, hvalue⟩ :=
        perform_walkFieldsBy_error hsiblings
      refine (hfields (name, value) (by simp) hvalue).trans rfl fun visit hvisit => ?_
      exact .sibling href hcourse htarget (by simpa using hname) hbefore hvisit

/-- Where the resolution of a value ends in a problem, it comes to a reference with that problem. -/
theorem comesToProblem_of_walkBy (value : Value) {j k : Journal}
    (h : (walkBy (resolverWithin options fetchers depth context seen) value).perform j =
      (.error problem, k)) :
    ComesToProblem options fetchers depth context seen value j problem := by
  induction value using Value.inductionOnParts generalizing j k with
  | atom value hatom =>
    rw [walkBy_atom _ hatom] at h
    cases h
  | list items ih =>
    rw [walkBy] at h
    obtain ⟨before, item, after, done, l, rfl, hbefore, hitem⟩ :=
      perform_walkItemsBy_error (perform_map_error.mp h)
    exact (ih item (by simp) hitem).trans rfl fun visit hvisit => .item hbefore hvisit
  | object fields ih =>
    cases href : Reference.ofFields? fields with
    | some ref =>
      exact comesToProblem_of_reference htargets href (fun entry hentry => ih entry hentry) h
    | none =>
      rw [walkBy, href] at h
      obtain ⟨before, name, value, after, done, l, rfl, -, hbefore, hvalue⟩ :=
        perform_walkFieldsBy_error (perform_map_error.mp h)
      exact (ih (name, value) (by simp) hvalue).trans rfl fun visit hvisit =>
        .field href hbefore hvisit

end Walk

variable {depth : Nat} {context : Context} {seen : List String} {value : Value} {j k : Journal}

/-- **Every problem in which a run ends is that of a reference to which it comes.** -/
theorem comesToProblem_of_error {problem : Problem}
    (h : (expanderFrom options fetchers (depth + 1) context seen value).perform j =
      (.error problem, k)) :
    ComesToProblem options fetchers depth context seen value j problem := by
  induction depth generalizing context seen value j k with
  | zero =>
    refine comesToProblem_of_walkBy (fun htarget => ?_) value h
    cases htarget
    exact Or.inl ⟨rfl, rfl⟩
  | succ depth ih =>
    exact comesToProblem_of_walkBy (fun htarget => Or.inr ⟨depth, rfl, ih htarget⟩) value h

/-- Every failure in which a run ends is that of a reference to which it comes. -/
theorem comesToFailure_of_failure {failure : Failure}
    (h : (expanderFrom options fetchers (depth + 1) context seen value).perform j =
      (.error (.failure failure), k)) :
    ComesToFailure options fetchers depth context seen value j failure := by
  obtain ⟨visit, hcomes, hends⟩ := comesToProblem_of_error h
  unfold Visit.EndsIn at hends
  generalize hcourse : visit.course options fetchers = c at hends
  cases hends with
  | refused _ l => exact ⟨visit, l, hcomes, Or.inl hcourse⟩
  | fails _ l hstrict => exact ⟨visit, l, hcomes, Or.inr ⟨hcourse, hstrict⟩⟩

end Problems

/-! ### Refusals by the gate -/

/-- The gate refuses a URL about which the resolver asks it: that of a reference of the document,
before anything is resolved, or that of a reference to which the resolution comes. -/
inductive GateRefuses (options : ResolutionOptions) (fetchers : Net.Changing Net.Fetcher)
    (depth : Nat) (content : Value) (failure : Failure) : Prop
  | early {before after : List String} {ref url fragment : String}
      (hexternal : options.external = true)
      (hrefs : (Reference.classify (Reference.references content)).external =
        before ++ ref :: after)
      (hbefore : ((passGates options before).perform .start).1 = .ok ())
      (hurl : Url.withoutFragment ref = .ok (url, fragment))
      (hrefused : Net.checkUrl url options.domains = .error failure)
  | later {visit : Visit} {k : Journal}
      (hpassed : ((passRootGates options content).perform .start).1 = .ok ())
      (hcomes : Comes options fetchers depth ⟨content, none⟩ [] content .start visit)
      (hrefused : visit.course options fetchers = .refused failure k)

section Refusals

variable {options : ResolutionOptions} {fetchers : Net.Changing Net.Fetcher} {depth : Nat}
  {content : Value} {failure : Failure}

/-- The check of references goes on after those that pass. -/
theorem perform_passGates_append {before : List String} (rest : List String) {j : Journal}
    (hbefore : ((passGates options before).perform j).1 = .ok ()) :
    (passGates options (before ++ rest)).perform j = (passGates options rest).perform j := by
  induction before with
  | nil => rfl
  | cons ref before ih =>
    rcases passGates_cons_cases options ref before j with
      hpasses | ⟨_, -, hstops⟩ | ⟨_, _, failure, -, -, hstops⟩
    · rw [perform_passGates_cons hpasses] at hbefore
      rw [List.cons_append, perform_passGates_cons hpasses]
      exact ih hbefore
    · rw [hstops] at hbefore
      cases hbefore
    · rw [hstops] at hbefore
      cases hbefore

/-- **What the gate refuses ends the resolution**, whether leniently or not. -/
theorem perform_of_gateRefuses (h : GateRefuses options fetchers depth content failure) :
    ((documentFrom options fetchers depth content).perform .start).1 =
      .error (.failure failure) := by
  rw [perform_documentFrom]
  cases h with
  | early hexternal hrefs hbefore hurl hrefused =>
    unfold passRootGates
    rw [if_pos hexternal, hrefs, perform_passGates_append _ hbefore, passGates, hurl]
    unfold liftUrl passGate
    dsimp only
    rw [perform_bind, perform_pure]
    dsimp only
    rw [hrefused]
    rfl
  | later hpassed hcomes hrefused =>
    rw [hpassed]
    exact perform_of_refused hcomes hrefused

/-- What the gate refuses is the outcome of the resolution. -/
theorem outcome_of_gateRefuses (h : GateRefuses options fetchers depth content failure)
    (file : String) :
    (resolveFrom depth options fetchers file content).outcome =
      .error (.failure (failure.withFile file)) := by
  rw [outcome_resolveFrom, perform_of_gateRefuses h]
  rfl

/-- A failure of the check of references is that of one that the gate refuses. -/
theorem exists_refused_of_passGates {refs : List String} {j k : Journal}
    (h : (passGates options refs).perform j = (.error (.failure failure), k)) :
    ∃ before ref after url fragment, refs = before ++ ref :: after ∧
      ((passGates options before).perform j).1 = .ok () ∧
      Url.withoutFragment ref = .ok (url, fragment) ∧
      Net.checkUrl url options.domains = .error failure := by
  induction refs with
  | nil => cases h
  | cons ref rest ih =>
    rcases passGates_cons_cases options ref rest j with
      hpasses | ⟨_, -, hstops⟩ | ⟨url, fragment, refusal, hurl, hgate, hstops⟩
    · rw [perform_passGates_cons hpasses] at h
      obtain ⟨before, later, after, url, fragment, rfl, hbefore, hurl, hgate⟩ := ih h
      refine ⟨ref :: before, later, after, url, fragment, rfl, ?_, hurl, hgate⟩
      rw [perform_passGates_cons hpasses]
      exact hbefore
    · rw [hstops] at h
      cases h
    · rw [hstops] at h
      cases h
      exact ⟨[], ref, rest, url, fragment, rfl, rfl, hurl, hgate⟩

/-- **A failure in which a resolution ends** is one that the gate refuses, or, strictly, one of a
reference to which the resolution comes. -/
theorem gateRefuses_or_fails {k : Journal}
    (h : (documentFrom options fetchers depth content).perform .start =
      (.error (.failure failure), k)) :
    GateRefuses options fetchers depth content failure ∨
      options.lenient = false ∧ ∃ visit l,
        Comes options fetchers depth ⟨content, none⟩ [] content .start visit ∧
          visit.course options fetchers = .fails failure l := by
  rw [perform_documentFrom] at h
  rcases hgates : ((passRootGates options content).perform .start).1 with problem | passed
  · rw [hgates] at h
    cases h
    unfold passRootGates at hgates
    split at hgates
    · rename_i hexternal
      rcases hrun : (passGates options (Reference.classify (Reference.references
        content)).external).perform .start with ⟨outcome, l⟩
      rw [hrun] at hgates
      dsimp only at hgates
      rw [hgates] at hrun
      obtain ⟨before, ref, after, url, fragment, hrefs, hbefore, hurl, hgate⟩ :=
        exists_refused_of_passGates hrun
      exact Or.inl (.early hexternal hrefs hbefore hurl hgate)
    · cases hgates
  · rw [hgates] at h
    obtain ⟨visit, l, hcomes, hrefused | ⟨hfails, hstrict⟩⟩ := comesToFailure_of_failure h
    · exact Or.inl (.later hgates hcomes hrefused)
    · exact Or.inr ⟨hstrict, visit, l, hcomes, hfails⟩

end Refusals

end ClientGen.Resolution
