import ClientGen.Proofs.Files.Program
import ClientGen.Proofs.Resolution.Served
import ClientGen.Work

/-!
# How the work on a document goes

The stages hand on to one another: a document is read and passes validation (`Accepts`), its
references are resolved (`Resolves`), its API is extracted (`Extracts`) and its artifacts are made
(`Makes`), each with what is on record and requested by then.  `FailsFirst` is the first stage that
fails, so that what comes after it leaves no trace.  Up to the artifacts the work does one or the
other (`isPrepared_prepared`); then the artifacts are written, if a directory is given
(`documentFrom_of_none`, `documentFrom_of_written`, `documentFrom_of_unwritable`).

The fetchers may change with every request, as in `Resolution.resolveFrom`; with one that does not
this is the work on a document as it is (`documentFrom_steady`).
-/

namespace ClientGen.Work

/-! ### Servers that change -/

/-- Resolves the references of a document while what the fetchers give may change. -/
def resolveFrom (options : ResolutionOptions) (fetchers : Net.Changing Net.Fetcher) (path : String)
    (content : Value) : Net.Fetched Resolution :=
  Resolution.resolveFrom (Resolution.depthFor options content) options fetchers path content

/-- The work on the document at a path while what the fetchers give may change. -/
def documentFrom {m : Type → Type} [Monad m] (files : FileAccess m)
    (fetchers : Net.Changing Net.Fetcher) (options : RunOptions) (path : String) :
    m (Run Product) :=
  documentWith (resolveFrom options.resolution fetchers path) files options path

/-- With a fetcher that does not change, this is the work with that fetcher. -/
theorem documentFrom_steady {m : Type → Type} [Monad m] (files : FileAccess m)
    (fetcher : Net.Fetcher) (options : RunOptions) (path : String) :
    documentFrom files (fun _ => fetcher) options path = document files fetcher options path := by
  have hresolve : resolveFrom options.resolution (fun _ => fetcher) path =
      Resolution.resolve options.resolution fetcher path := by
    funext content
    exact Resolution.resolveFrom_steady options.resolution fetcher _ path content
  rw [documentFrom, document, hresolve]

/-! ### The stages in order -/

/-- The outcome of the validation of a document. -/
def validated (options : RunOptions) (document : Document) : Except Failure Accepted :=
  (validate options.skipValidation document.content).accept document options.lenientValidation

/-- Whether a resolved document is checked for references that are left. -/
def isChecked (options : ResolutionOptions) : Bool :=
  options.external && !options.lenient

section Stages

variable {τ : Type} (files : FileAccess (StateM τ)) (fetchers : Net.Changing Net.Fetcher)
  (options : RunOptions) (path : String) (t : τ)

/-- The document is read and passes validation; what is on record by then. -/
inductive Accepts : Accepted → List LogRecord → Prop
  | intro {document : Document} {accepted : Accepted}
      (hread : (Document.readObject files path t).1 = .ok document)
      (haccept : validated options document = .ok accepted) :
      Accepts accepted (readRecord path document :: accepted.issues.map (issueRecord path))

/-- The references of the document are resolved; what is on record and requested by then. -/
inductive Resolves : Resolution → List LogRecord → List String → Prop
  | intro {accepted : Accepted} {resolution : Resolution} {logs : List LogRecord}
      {requests : List String} (haccepts : Accepts files options path t accepted logs)
      (hresolve : resolveFrom options.resolution fetchers path accepted.document.content =
        ⟨requests, .ok resolution⟩)
      (hcheck : isChecked options.resolution = true →
        ∃ checked, resolution.check true true = .ok checked) :
      Resolves resolution (logs ++ resolution.errors.map (errorRecord path)) requests

/-- The API of the document is extracted; what is on record and requested by then. -/
inductive Extracts : Api → List LogRecord → List String → Prop
  | intro {resolution : Resolution} {api : Api} {logs : List LogRecord} {requests : List String}
      (hresolves : Resolves files fetchers options path t resolution logs requests)
      (hextract : Api.extract path resolution.resolved = .ok api) :
      Extracts api (logs ++ [operationsRecord path api]) requests

/-- The artifacts of the document are made; what is on record and requested by then. -/
inductive Makes : List Code.Artifact → List LogRecord → List String → Prop
  | intro {api : Api} {made : List Code.Artifact} {logs : List LogRecord} {requests : List String}
      (hextracts : Extracts files fetchers options path t api logs requests)
      (hmade : Code.artifacts api = .ok made) : Makes made logs requests

/-- The first stage that fails, all of those before it having succeeded, and its problem; what is on
record and requested by then. -/
inductive FailsFirst : Stage → Problem → List LogRecord → List String → Prop
  | reading {problem : Problem} (hread : (Document.readObject files path t).1 = .error problem) :
      FailsFirst .reading problem [] []
  | validation {document : Document} {f : Failure}
      (hread : (Document.readObject files path t).1 = .ok document)
      (haccept : validated options document = .error f) :
      FailsFirst .validation (.failure f) [readRecord path document] []
  | resolution {accepted : Accepted} {problem : Problem} {logs : List LogRecord}
      {requests : List String} (haccepts : Accepts files options path t accepted logs)
      (hresolve : resolveFrom options.resolution fetchers path accepted.document.content =
        ⟨requests, .error problem⟩) :
      FailsFirst .resolution problem logs requests
  | residue {accepted : Accepted} {resolution : Resolution} {f : Failure} {logs : List LogRecord}
      {requests : List String} (haccepts : Accepts files options path t accepted logs)
      (hresolve : resolveFrom options.resolution fetchers path accepted.document.content =
        ⟨requests, .ok resolution⟩)
      (hchecked : isChecked options.resolution = true)
      (hcheck : resolution.check true true = .error f) :
      FailsFirst .resolution (.failure f) logs requests
  | extraction {resolution : Resolution} {f : Failure} {logs : List LogRecord}
      {requests : List String}
      (hresolves : Resolves files fetchers options path t resolution logs requests)
      (hextract : Api.extract path resolution.resolved = .error f) :
      FailsFirst .extraction (.failure f) logs requests
  | artifacts {api : Api} {u : Unexpected} {logs : List LogRecord} {requests : List String}
      (hextracts : Extracts files fetchers options path t api logs requests)
      (hmade : Code.artifacts api = .error u) :
      FailsFirst .generation (.unexpected u) logs requests
  | writing {made : List Code.Artifact} {directory : String} {problem : Problem}
      {logs : List LogRecord} {requests : List String}
      (hmakes : Makes files fetchers options path t made logs requests)
      (hdirectory : options.outputDirectory = some directory)
      (hwrite : (Code.writeAll files directory made (Document.readObject files path t).2).1 =
        .error problem) :
      FailsFirst .generation problem logs requests

end Stages

/-! ### Single stages -/

theorem bind_ok {α β : Type} (logs : List LogRecord) (requests : List String) (value : α)
    (next : α → Run β) :
    ((⟨logs, requests, .ok value⟩ : Run α) >>= next) =
      ⟨logs ++ (next value).logs, requests ++ (next value).requests, (next value).outcome⟩ := rfl

theorem bind_error {α β : Type} (logs : List LogRecord) (requests : List String) (f : Failure)
    (next : α → Run β) :
    ((⟨logs, requests, .error f⟩ : Run α) >>= next) = ⟨logs, requests, .error f⟩ := rfl

section Steps

variable {α β γ : Type} {logs : List LogRecord} {requests : List String} {value : α}
  {step : α → Run β} {next : α → β → Run γ}

/-- A step that succeeds hands on its value, with its records after those that are there. -/
theorem bind_step_ok (more : List LogRecord) (further : List String) (result : β)
    (h : step value = ⟨more, further, .ok result⟩) :
    ((⟨logs, requests, .ok value⟩ : Run α) >>= fun a => step a >>= next a) =
      (⟨logs ++ more, requests ++ further, .ok result⟩ >>= next value) := by
  rw [bind_ok, bind_ok, h, bind_ok, List.append_assoc, List.append_assoc]

/-- A step that fails ends the run. -/
theorem bind_step_error (further : List String) (f : Failure)
    (h : step value = ⟨[], further, .error f⟩) :
    ((⟨logs, requests, .ok value⟩ : Run α) >>= fun a => step a >>= next a) =
      ⟨logs, requests ++ further, .error f⟩ := by
  rw [bind_ok, h, bind_error, List.append_nil]

theorem bind_pure_ok (g : α → β) :
    ((⟨logs, requests, .ok value⟩ : Run α) >>= fun a => pure (g a)) =
      ⟨logs, requests, .ok (g value)⟩ := by
  rw [bind_ok]
  change (⟨logs ++ [], requests ++ [], .ok (g value)⟩ : Run β) = _
  rw [List.append_nil, List.append_nil]

end Steps

theorem accept_eq (options : RunOptions) (path : String) (document : Document) :
    accept options path document =
      match validated options document with
      | .ok accepted => ⟨accepted.issues.map (issueRecord path), [], .ok accepted⟩
      | .error f => ⟨[], [], .error (Stage.validation.failure path (.failure f))⟩ := by
  unfold accept validated
  dsimp only
  cases (validate options.skipValidation document.content).accept document
    options.lenientValidation <;> rfl

theorem settle_error (options : ResolutionOptions) (path : String) (requests : List String)
    (problem : Problem) :
    settle options path ⟨requests, .error problem⟩ =
      ⟨[], requests, .error (Stage.resolution.failure path problem)⟩ := rfl

theorem settle_residue {options : ResolutionOptions} (hchecked : isChecked options = true)
    (path : String) (requests : List String) {resolution : Resolution} {f : Failure}
    (hcheck : resolution.check true true = .error f) :
    settle options path ⟨requests, .ok resolution⟩ =
      ⟨[], requests, .error (Stage.resolution.failure path (.failure f))⟩ := by
  unfold settle
  dsimp only
  rw [bind_ok, ← isChecked, hchecked, if_pos rfl, hcheck, List.nil_append]
  exact congrArg (fun more => (⟨[], more, _⟩ : Run Resolution)) (List.append_nil requests)

theorem settle_ok {options : ResolutionOptions} (path : String) (requests : List String)
    {resolution : Resolution}
    (hcheck : isChecked options = true → ∃ checked, resolution.check true true = .ok checked) :
    settle options path ⟨requests, .ok resolution⟩ =
      ⟨resolution.errors.map (errorRecord path), requests, .ok resolution⟩ := by
  unfold settle
  dsimp only
  rw [bind_ok, ← isChecked, List.nil_append]
  cases hchecked : isChecked options with
  | true =>
    obtain ⟨checked, hcheck⟩ := hcheck hchecked
    rw [if_pos rfl, hcheck]
    exact congrArg (fun more => (⟨_, more, _⟩ : Run Resolution)) (List.append_nil requests)
  | false =>
    exact congrArg (fun more => (⟨_, more, _⟩ : Run Resolution)) (List.append_nil requests)

/-! ### The course of the work -/

section Course

variable {τ : Type} (files : FileAccess (StateM τ)) (fetchers : Net.Changing Net.Fetcher)
  (options : RunOptions) (path : String) (t : τ)

/-- The work on the document, up to its artifacts. -/
def prepared : Run Product :=
  (read files path t).1 >>= prepareWith (resolveFrom options.resolution fetchers path) options path

theorem read_eq :
    read files path t =
      match Document.readObject files path t with
      | (.error problem, u) => (Run.failed .reading path problem, u)
      | (.ok document, u) => (Run.recorded [readRecord path document] document, u) := by
  rw [read, bind_apply]
  rcases Document.readObject files path t with ⟨problem | document, u⟩ <;> rfl

variable {files path t} in
/-- The work up to the artifacts depends on the files only through what is read. -/
theorem prepared_congr {ρ : Type} {others : FileAccess (StateM ρ)} {r : ρ}
    (h : (Document.readObject others path r).1 = (Document.readObject files path t).1) :
    prepared others fetchers options path r = prepared files fetchers options path t := by
  unfold prepared
  rw [read_eq, read_eq]
  rcases hread : Document.readObject files path t with ⟨outcome, u⟩
  rcases hother : Document.readObject others path r with ⟨other, v⟩
  rw [hread, hother] at h
  cases h
  cases outcome <;> rfl

/-- A run fails at the first stage that does, or makes the artifacts of the document. -/
def IsPrepared (run : Run Product) : Prop :=
  (∃ stage problem, run.outcome = .error (stage.failure path problem) ∧
    FailsFirst files fetchers options path t stage problem run.logs run.requests) ∨
  ∃ product, run.outcome = .ok product ∧ product.path = path ∧ product.written = [] ∧
    Makes files fetchers options path t product.artifacts run.logs run.requests

variable {files fetchers options path t}

theorem IsPrepared.fails {stage : Stage} {problem : Problem}
    {logs : List LogRecord} {requests : List String}
    (h : FailsFirst files fetchers options path t stage problem logs requests) :
    IsPrepared files fetchers options path t
      ⟨logs, requests, .error (stage.failure path problem)⟩ :=
  .inl ⟨stage, problem, rfl, h⟩

/-- What is left to do once the API is extracted. -/
theorem isPrepared_of_extracts {api : Api} {logs : List LogRecord} {requests : List String}
    (h : Extracts files fetchers options path t api logs requests) (accepted : Accepted)
    (resolution : Resolution) :
    IsPrepared files fetchers options path t
      ((⟨logs, requests, .ok api⟩ : Run Api) >>= fun api =>
        Run.ofStage .generation path ((Code.artifacts api).mapError Problem.unexpected) >>=
          fun artifacts => pure ⟨path, accepted, resolution, api, artifacts, []⟩) := by
  cases hmade : Code.artifacts api with
  | error u =>
    rw [bind_step_error [] (Stage.generation.failure path (.unexpected u)) (by rw [hmade]; rfl),
      List.append_nil]
    exact .fails (.artifacts h hmade)
  | ok made =>
    rw [bind_step_ok [] [] made (by rw [hmade]; rfl), bind_pure_ok, List.append_nil,
      List.append_nil]
    exact .inr ⟨_, rfl, rfl, rfl, .intro h hmade⟩

/-- What is left to do once the references are resolved. -/
theorem isPrepared_of_resolves {resolution : Resolution} {logs : List LogRecord}
    {requests : List String}
    (h : Resolves files fetchers options path t resolution logs requests) (accepted : Accepted) :
    IsPrepared files fetchers options path t
      ((⟨logs, requests, .ok resolution⟩ : Run Resolution) >>= fun resolution =>
        extract path resolution >>= fun api =>
          Run.ofStage .generation path ((Code.artifacts api).mapError Problem.unexpected) >>=
            fun artifacts => pure ⟨path, accepted, resolution, api, artifacts, []⟩) := by
  cases hextract : Api.extract path resolution.resolved with
  | error f =>
    rw [bind_step_error [] (Stage.extraction.failure path (.failure f))
      (by rw [extract, hextract]; rfl), List.append_nil]
    exact .fails (.extraction h hextract)
  | ok api =>
    rw [bind_step_ok [operationsRecord path api] [] api (by rw [extract, hextract]; rfl),
      List.append_nil]
    exact isPrepared_of_extracts (.intro h hextract) accepted resolution

/-- What is left to do once the document has passed validation. -/
theorem isPrepared_of_accepts {accepted : Accepted} {logs : List LogRecord}
    (h : Accepts files options path t accepted logs) :
    IsPrepared files fetchers options path t
      ((⟨logs, [], .ok accepted⟩ : Run Accepted) >>= fun accepted =>
        settle options.resolution path
            (resolveFrom options.resolution fetchers path accepted.document.content) >>=
          fun resolution => extract path resolution >>= fun api =>
            Run.ofStage .generation path ((Code.artifacts api).mapError Problem.unexpected) >>=
              fun artifacts => pure ⟨path, accepted, resolution, api, artifacts, []⟩) := by
  rcases hresolve : resolveFrom options.resolution fetchers path accepted.document.content with
    ⟨requests, problem | resolution⟩
  · rw [bind_step_error requests (Stage.resolution.failure path problem)
      (by rw [hresolve, settle_error])]
    exact .fails (.resolution h hresolve)
  · by_cases hcheck : isChecked options.resolution = true →
        ∃ checked, resolution.check true true = .ok checked
    · rw [bind_step_ok (resolution.errors.map (errorRecord path)) requests resolution
        (by rw [hresolve, settle_ok path requests hcheck])]
      exact isPrepared_of_resolves (.intro h hresolve hcheck) accepted
    · obtain ⟨hchecked, hnone⟩ := Classical.not_imp.mp hcheck
      cases hfails : resolution.check true true with
      | ok checked => exact absurd ⟨checked, hfails⟩ hnone
      | error f =>
        rw [bind_step_error requests (Stage.resolution.failure path (.failure f))
          (by rw [hresolve, settle_residue hchecked path requests hfails])]
        exact .fails (.residue h hresolve hchecked hfails)

variable (files fetchers options path t)

/-- **The work up to the artifacts** fails at the first stage that does, or makes the artifacts. -/
theorem isPrepared_prepared :
    IsPrepared files fetchers options path t (prepared files fetchers options path t) := by
  unfold prepared
  rw [read_eq]
  rcases hread : Document.readObject files path t with ⟨problem | document, u⟩
  · exact .fails (.reading (congrArg Prod.fst hread))
  · replace hread := congrArg Prod.fst hread
    dsimp only [Run.recorded]
    unfold prepareWith
    cases haccept : validated options document with
    | error f =>
      rw [bind_step_error [] (Stage.validation.failure path (.failure f))
        (by rw [accept_eq, haccept])]
      exact .fails (.validation hread haccept)
    | ok accepted =>
      rw [bind_step_ok (accepted.issues.map (issueRecord path)) [] accepted
        (by rw [accept_eq, haccept])]
      exact isPrepared_of_accepts (.intro hread haccept)

/-! ### The whole work -/

/-- Reading hands the state on to what follows it. -/
theorem documentFrom_eq :
    documentFrom files fetchers options path t =
      match (prepared files fetchers options path t).outcome with
      | .error _ => (prepared files fetchers options path t, (Document.readObject files path t).2)
      | .ok product =>
        (prepared files fetchers options path t >>= fun _ =>
            (write files options product (Document.readObject files path t).2).1,
          (write files options product (Document.readObject files path t).2).2) := by
  have hstate : (read files path t).2 = (Document.readObject files path t).2 := by
    rw [read_eq]
    rcases Document.readObject files path t with ⟨problem | document, u⟩ <;> rfl
  rw [documentFrom, documentWith, bind_apply, hstate, ← prepared]
  cases (prepared files fetchers options path t).outcome <;> rfl

variable {files fetchers options path t}

theorem documentFrom_of_error {f : Failure}
    (h : (prepared files fetchers options path t).outcome = .error f) :
    documentFrom files fetchers options path t =
      (prepared files fetchers options path t, (Document.readObject files path t).2) := by
  rw [documentFrom_eq, h]

section Written

variable {product : Product} (h : (prepared files fetchers options path t).outcome = .ok product)

include h

theorem prepared_eq :
    prepared files fetchers options path t =
      ⟨(prepared files fetchers options path t).logs,
        (prepared files fetchers options path t).requests, .ok product⟩ := by
  rw [← h]

/-- Without a directory nothing is written. -/
theorem documentFrom_of_none (hnone : options.outputDirectory = none) :
    documentFrom files fetchers options path t =
      (prepared files fetchers options path t, (Document.readObject files path t).2) := by
  rw [documentFrom_eq, h]
  dsimp only
  rw [write, hnone]
  refine Prod.ext ?_ rfl
  dsimp only
  rw [prepared_eq h]
  exact bind_pure_ok fun _ => product

variable {directory : String} (hdirectory : options.outputDirectory = some directory) {u : τ}

include hdirectory

theorem documentFrom_of_written {written : List String}
    (hwrite : Code.writeAll files directory product.artifacts (Document.readObject files path t).2 =
      (.ok written, u)) :
    documentFrom files fetchers options path t =
      (⟨(prepared files fetchers options path t).logs ++ [writtenRecord directory written],
        (prepared files fetchers options path t).requests, .ok { product with written }⟩, u) := by
  rw [documentFrom_eq, h]
  dsimp only
  rw [write, hdirectory]
  dsimp only
  rw [bind_apply, hwrite, prepared_eq h]
  refine Prod.ext ?_ rfl
  exact congrArg (fun more => (⟨_, more, _⟩ : Run Product)) (List.append_nil _)

theorem documentFrom_of_unwritable {problem : Problem}
    (hwrite : Code.writeAll files directory product.artifacts (Document.readObject files path t).2 =
      (.error problem, u)) :
    documentFrom files fetchers options path t =
      (⟨(prepared files fetchers options path t).logs,
        (prepared files fetchers options path t).requests,
        .error (Stage.generation.failure product.path problem)⟩, u) := by
  rw [documentFrom_eq, h]
  dsimp only
  rw [write, hdirectory]
  dsimp only
  rw [bind_apply, hwrite, prepared_eq h]
  refine Prod.ext ?_ rfl
  exact congrArg₂ (fun logs more => (⟨logs, more, _⟩ : Run Product)) (List.append_nil _)
    (List.append_nil _)

end Written

end Course

end ClientGen.Work
