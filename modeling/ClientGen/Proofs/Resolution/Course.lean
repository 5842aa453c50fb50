import ClientGen.Proofs.Resolution.Derivation

/-!
# What becomes of a reference

`course settings context seen ref j` says all that resolving a reference comes to before anything
is resolved for it: the reference stays, fails, is refused by the gate, breaks off, or enters its
target.  It depends on neither the leniency nor the expander, so `perform_resolveReference` splits
every resolution of a reference into its course and what follows from that: only a failure may be
put on record, and only a target that is entered is expanded.

`course_cases` says what a course can do.  So no error is put on record (`errors_course`), only the
fetcher of the settings is asked (`course_asks`), and a refusal is one of the gate
(`exists_refused_of_course`).
-/

namespace ClientGen.Resolution

/-- What a reference comes to, with the journal afterwards. -/
inductive Course where
  /-- It is kept in place. -/
  | stays (k : Journal)
  /-- It fails, which may be put on record. -/
  | fails (failure : Failure) (k : Journal)
  /-- The gate refuses it, which may not. -/
  | refused (failure : Failure) (k : Journal)
  /-- Something unexpected happens. -/
  | breaks (u : Unexpected) (k : Journal)
  /-- Its target is entered. -/
  | enters (identity : String) (inner : Context) (target : Value) (k : Journal)

namespace Course

/-- The journal afterwards. -/
def journal : Course → Journal
  | stays k | fails _ k | refused _ k | breaks _ k | enters _ _ _ k => k

/-- The failure with which the gate refuses a reference. -/
def refusal? : Course → Option Failure
  | refused failure _ => some failure
  | _ => none

/-- A course for which the gate is not asked: it changes no more than what is on record about
references. -/
structure Keeps (j : Journal) (course : Course) : Prop where
  requests : course.journal.requests = j.requests
  documents : course.journal.documents = j.documents
  errors : course.journal.errors = j.errors
  refusal : course.refusal? = none

/-- The course into a document with a pointer. -/
def into (ref pointer identity : String) (inner : Context) (k : Journal) : Course :=
  match Pointer.follow inner.root pointer with
  | .error fault => fails (dangling ref fault) k
  | .ok target => enters identity inner target k

/-- The course of a reference that is being expanded already. -/
def circular (ref : String) (j : Journal) : Course :=
  stays { j with circular := Reference.addOnce ref j.circular }

end Course

/-- The course of a reference within its document. -/
def courseLocal (settings : Settings) (context : Context) (seen : List String)
    (ref pointer : String) (j : Journal) : Course :=
  if isLink settings context ref then
    match Pointer.follow context.root pointer with
    | .error fault => .fails (dangling ref fault) j
    | .ok _ => .stays { j with linked := Reference.addOnce ref j.linked }
  else
    let identity := context.url.getD "" ++ ref
    if seen.contains identity then .circular ref j
    else .into ref pointer identity context j

/-- The course of a reference to a URL and a fragment. -/
def courseAt (settings : Settings) (seen : List String) (ref url fragment : String)
    (j : Journal) : Course :=
  let identity := url ++ "#" ++ fragment
  if seen.contains identity then .circular ref j
  else
    match Net.checkUrl url settings.domains with
    | .error failure => .refused failure j
    | .ok _ =>
      match (load settings url).perform j with
      | (.error (.failure failure), k) => .fails failure k
      | (.error (.unexpected u), k) => .breaks u k
      | (.ok document, k) => .into ref fragment identity ⟨document, some url⟩ k

/-- The course of a reference. -/
def course (settings : Settings) (context : Context) (seen : List String) (ref : String)
    (j : Journal) : Course :=
  match localPointer? ref with
  | some pointer => courseLocal settings context seen ref pointer j
  | none =>
    if settings.external then
      match address context ref with
      | .error fault => .breaks ⟨.value, fault.message⟩ j
      | .ok (url, fragment) => courseAt settings seen ref url fragment j
    else .stays j

/-- What follows from the course of a reference. -/
def Course.follow (settings : Settings) (expand : Expander) (seen : List String) (kept : Value)
    (overlay : Value → Run Value) : Course → Except Problem Value × Journal
  | stays k => (.ok kept, k)
  | fails failure k => (failOr settings failure kept).perform k
  | refused failure k => (.error (.failure failure), k)
  | breaks u k => (.error (.unexpected u), k)
  | enters identity inner target k =>
    (expand inner (identity :: seen) target >>= overlay).perform k

/-- A failure is put on record, leniently, or ends the run. -/
theorem perform_failOr (settings : Settings) (failure : Failure) (kept : Value) (j : Journal) :
    (failOr settings failure kept).perform j =
      if settings.lenient then (.ok kept, { j with errors := j.errors ++ [failure.message] })
      else (.error (.failure failure), j) := by
  unfold failOr
  cases settings.lenient <;> rfl

theorem follow_fails (settings : Settings) (expand : Expander) (seen : List String) (kept : Value)
    (overlay : Value → Run Value) (failure : Failure) (k : Journal) :
    (Course.fails failure k).follow settings expand seen kept overlay =
      if settings.lenient then (.ok kept, { k with errors := k.errors ++ [failure.message] })
      else (.error (.failure failure), k) :=
  perform_failOr settings failure kept k

theorem follow_enters (settings : Settings) (expand : Expander) (seen : List String) (kept : Value)
    (overlay : Value → Run Value) (identity : String) (inner : Context) (target : Value)
    (k : Journal) :
    (Course.enters identity inner target k).follow settings expand seen kept overlay =
      (expand inner (identity :: seen) target >>= overlay).perform k := rfl

section Perform

variable (settings : Settings) (expand : Expander) (context : Context) (seen : List String)
  (ref : String) (kept : Value) (overlay : Value → Run Value) (j : Journal)

theorem perform_expandLocal {pointer : String} (hlink : isLink settings context ref = false) :
    (expandLocal settings expand context seen ref pointer kept overlay).perform j =
      (courseLocal settings context seen ref pointer j).follow settings expand seen kept
        overlay := by
  unfold expandLocal courseLocal Course.into
  rw [hlink]
  simp only [Bool.false_eq_true, if_false]
  split
  · rfl
  · cases Pointer.follow context.root pointer <;> rfl

theorem perform_link {pointer : String} (hlink : isLink settings context ref = true) :
    (link settings context ref pointer kept).perform j =
      (courseLocal settings context seen ref pointer j).follow settings expand seen kept
        overlay := by
  unfold link courseLocal
  rw [if_pos hlink]
  cases Pointer.follow context.root pointer <;> rfl

theorem perform_expandAt (url fragment : String) :
    (expandAt settings expand seen ref kept overlay url fragment).perform j =
      (courseAt settings seen ref url fragment j).follow settings expand seen kept overlay := by
  unfold expandAt courseAt
  dsimp only
  split
  · rfl
  · rw [perform_bind]
    unfold passGate
    cases Net.checkUrl url settings.domains with
    | error failure => rfl
    | ok host =>
      dsimp only
      rw [perform_pure]
      dsimp only
      rw [perform_bind, perform_lift]
      dsimp only
      rcases (load settings url).perform j with ⟨(failure | u) | document, k⟩
      · rfl
      · rfl
      · dsimp only
        unfold Course.into
        dsimp only
        cases Pointer.follow document fragment <;> rfl

/-- **Resolving a reference takes its course**, and what follows depends on nothing else. -/
theorem perform_resolveReference :
    (resolveReference settings expand context seen ref kept overlay).perform j =
      (course settings context seen ref j).follow settings expand seen kept overlay := by
  unfold resolveReference course
  cases localPointer? ref with
  | some pointer =>
    change (if isLink settings context ref = true then _ else _ : Run Value).perform j = _
    by_cases hlink : isLink settings context ref = true
    · rw [if_pos hlink, perform_link settings expand context seen ref kept overlay j hlink]
    · rw [if_neg hlink]
      rw [Bool.not_eq_true] at hlink
      rw [perform_expandLocal settings expand context seen ref kept overlay j hlink]
  | none =>
    dsimp only
    split
    · rw [expandExternal_eq, perform_bind]
      rcases address context ref with fault | ⟨url, fragment⟩
      · rfl
      · exact perform_expandAt settings expand seen ref kept overlay j url fragment
    · rfl

end Perform

/-! ### What a course leaves alone -/

section Journal

variable (settings : Settings) (context : Context) (seen : List String) (ref : String) (j : Journal)

@[simp] theorem journal_into (pointer identity : String) (inner : Context) (k : Journal) :
    (Course.into ref pointer identity inner k).journal = k := by
  unfold Course.into
  cases Pointer.follow inner.root pointer <;> rfl

@[simp] theorem refusal?_into (pointer identity : String) (inner : Context) (k : Journal) :
    (Course.into ref pointer identity inner k).refusal? = none := by
  unfold Course.into
  cases Pointer.follow inner.root pointer <;> rfl

theorem courseLocal_keeps (pointer : String) :
    (courseLocal settings context seen ref pointer j).Keeps j := by
  unfold courseLocal
  split
  · cases Pointer.follow context.root pointer <;> exact ⟨rfl, rfl, rfl, rfl⟩
  · dsimp only
    split
    · exact ⟨rfl, rfl, rfl, rfl⟩
    · constructor <;> simp

/-- A reference to a URL is circular, or the gate refuses the URL, or lets it through and its
document is loaded. -/
theorem courseAt_cases (url fragment : String) :
    (courseAt settings seen ref url fragment j).Keeps j ∨
    (∃ failure, Net.checkUrl url settings.domains = .error failure ∧
      courseAt settings seen ref url fragment j = .refused failure j) ∨
    ∃ host, Net.checkUrl url settings.domains = .ok host ∧
      (courseAt settings seen ref url fragment j).journal = ((load settings url).perform j).2 ∧
      (courseAt settings seen ref url fragment j).refusal? = none := by
  unfold courseAt
  dsimp only
  split
  · exact Or.inl ⟨rfl, rfl, rfl, rfl⟩
  · refine Or.inr ?_
    cases Net.checkUrl url settings.domains with
    | error failure => exact Or.inl ⟨failure, rfl, rfl⟩
    | ok host =>
      refine Or.inr ⟨host, rfl, ?_⟩
      rcases (load settings url).perform j with ⟨(failure | u) | document, k⟩
      · exact ⟨rfl, rfl⟩
      · exact ⟨rfl, rfl⟩
      · exact ⟨journal_into ref fragment _ _ k, refusal?_into ref fragment _ _ k⟩

/-- **What can come of a reference**: what is at hand is enough, or, in full resolution only, the
gate refuses the URL to which it leads, or lets it through and its document is loaded. -/
theorem course_cases :
    (course settings context seen ref j).Keeps j ∨
    settings.external = true ∧ ∃ url,
      (∃ failure, Net.checkUrl url settings.domains = .error failure ∧
        course settings context seen ref j = .refused failure j) ∨
      ∃ host, Net.checkUrl url settings.domains = .ok host ∧
        (course settings context seen ref j).journal = ((load settings url).perform j).2 ∧
        (course settings context seen ref j).refusal? = none := by
  unfold course
  cases localPointer? ref with
  | some pointer => exact Or.inl (courseLocal_keeps settings context seen ref j pointer)
  | none =>
    dsimp only
    split
    · rename_i hexternal
      rcases address context ref with fault | ⟨url, fragment⟩
      · exact Or.inl ⟨rfl, rfl, rfl, rfl⟩
      · exact (courseAt_cases settings seen ref j url fragment).imp_right
          fun hasked => ⟨hexternal, url, hasked⟩
    · exact Or.inl ⟨rfl, rfl, rfl, rfl⟩

/-- A course leaves requests and documents alone, or loads the document of a URL that the gate lets
through, which happens in full resolution only. -/
theorem course_asks :
    ((course settings context seen ref j).journal.requests = j.requests ∧
      (course settings context seen ref j).journal.documents = j.documents) ∨
    ∃ url host, settings.external = true ∧ Net.checkUrl url settings.domains = .ok host ∧
      (course settings context seen ref j).journal = ((load settings url).perform j).2 := by
  rcases course_cases settings context seen ref j with
    hkeeps | ⟨hexternal, url, ⟨failure, -, hrefused⟩ | ⟨host, hgate, hloaded, -⟩⟩
  · exact Or.inl ⟨hkeeps.requests, hkeeps.documents⟩
  · rw [hrefused]
    exact Or.inl ⟨rfl, rfl⟩
  · exact Or.inr ⟨url, host, hexternal, hgate, hloaded⟩

theorem errors_load (url : String) : ((load settings url).perform j).2.errors = j.errors := by
  rw [perform_load]
  cases Entries.get? url j.documents with
  | some document => rfl
  | none => cases contentOf url (settings.fetcher url) <;> rfl

/-- No course puts an error on record; that is left to what follows from it. -/
theorem errors_course : (course settings context seen ref j).journal.errors = j.errors := by
  rcases course_cases settings context seen ref j with
    hkeeps | ⟨-, url, ⟨failure, -, hrefused⟩ | ⟨host, -, hloaded, -⟩⟩
  · exact hkeeps.errors
  · rw [hrefused]
    rfl
  · rw [hloaded]
    exact errors_load settings j url

/-- A refusal is one of the gate. -/
theorem exists_refused_of_course {failure : Failure} {k : Journal}
    (h : course settings context seen ref j = .refused failure k) :
    ∃ url, Net.checkUrl url settings.domains = .error failure := by
  have hrefusal : (course settings context seen ref j).refusal? = some failure := by
    rw [h]
    rfl
  rcases course_cases settings context seen ref j with
    hkeeps | ⟨-, url, ⟨refusal, hgate, hrefused⟩ | ⟨-, -, -, hnone⟩⟩
  · cases hkeeps.refusal.symm.trans hrefusal
  · rw [hrefused] at hrefusal
    cases hrefusal
    exact ⟨url, hgate⟩
  · cases hnone.symm.trans hrefusal

end Journal

end ClientGen.Resolution
