import ClientGen.Files.Tree
import ClientGen.Proofs.Files.Kept
import ClientGen.Proofs.Work.Course
import ClientGen.Proofs.Work.Stages

/-!
# What the work on a document leaves behind

Whatever the files and the fetchers do, the work on a document gives a product or a failure that
names the document and the first stage that failed (`FailsFirst.concerns`), and no half-made output
stays behind unnoticed: nothing is written before all artifacts are made, what is written stands in
front of the artifacts that are not, and a product has all of its artifacts in their files, which
are as many as there are artifacts since no two have one name (`nodup_keys_placed`).
`leavesNothingHalfMade` puts this together.
-/

namespace ClientGen

/-! ### Files of artifacts -/

namespace Code

/-- Artifacts are placed in different files. -/
theorem nodup_keys_placed {api : Api} {made : List Artifact} (h : artifacts api = .ok made)
    (directory : String) : (Entries.keys (made.map (Artifact.placed directory))).Nodup := by
  have hfiles := nodup_file_artifacts h
  rw [List.nodup_iff_pairwise_ne, List.pairwise_map] at hfiles
  rw [Entries.keys, List.map_map, List.nodup_iff_pairwise_ne, List.pairwise_map]
  refine hfiles.imp_of_mem fun {artifact other} hartifact hother hne heq => hne ?_
  exact FilePath.join_injective (isFileName_of_mem_artifacts h hartifact).isAbsolute_eq_false
    (isFileName_of_mem_artifacts h hother).isAbsolute_eq_false heq

end Code

namespace Work

section Attribution

variable {τ : Type} {files : FileAccess (StateM τ)} {fetchers : Net.Changing Net.Fetcher}
  {options : RunOptions} {path : String} {t : τ}

theorem path_of_resolveFrom {options : ResolutionOptions} {content : Value}
    {requests : List String} {resolution : Resolution}
    (h : resolveFrom options fetchers path content = ⟨requests, .ok resolution⟩) :
    resolution.path = path := by
  have houtcome := congrArg Net.Fetched.outcome h
  rw [resolveFrom, Resolution.outcome_resolveFrom] at houtcome
  obtain ⟨resolved, -, rfl⟩ := Resolution.conclude_ok houtcome
  rfl

/-- The problem of the first stage that fails is one of that stage, and of the document. -/
theorem FailsFirst.concerns (hfetchers : ∀ past, (fetchers past).FailsAtResolution) {stage : Stage}
    {problem : Problem} {logs : List LogRecord} {requests : List String}
    (h : FailsFirst files fetchers options path t stage problem logs requests) :
    problem.Concerns stage path := by
  cases h with
  | reading hread => exact (IsReading.readObject files path t).problem problem hread
  | validation hread haccept =>
    rw [← (IsReading.readObject files path t).document _ hread]
    exact concerns_accept haccept
  | resolution haccepts hresolve =>
    obtain ⟨hisOf, hnames⟩ := Resolution.isOf_resolveFrom hfetchers
      (congrArg Net.Fetched.outcome hresolve)
    exact ⟨hisOf, fun f hf => .inr (hnames f hf)⟩
  | residue haccepts hresolve hchecked hcheck =>
    rw [← path_of_resolveFrom hresolve]
    exact Resolution.concerns_check hcheck
  | extraction hresolves hextract => exact Api.concerns_extract hextract
  | artifacts hextracts hmade => exact Problem.concerns_unexpected _ _ _
  | writing hmakes hdirectory hwrite => exact Code.concerns_writeAll path hwrite

end Attribution

/-! ### What is left behind -/

section Result

variable {σ : Type} (files : FileAccess (StateM σ)) (fetchers : Net.Changing Net.Fetcher)
  (options : RunOptions) (path : String) (s : σ)

/-- What a run leaves behind, given what it put on record about files. -/
structure LeavesNothingHalfMade (run : Run Product) (record : List FileAttempt) : Prop where
  /-- A failure names the document and the first stage that failed; no later stage was run. -/
  attributed : ∀ f, run.outcome = .error f → f.file = path ∧
    ∃ problem, f = f.stage.failure path problem ∧
      FailsFirst files fetchers options path s f.stage problem run.logs run.requests
  /-- If an earlier stage than generation fails, or there is no directory, files are left alone. -/
  untouched : (∃ f, run.outcome = .error f ∧ f.stage ≠ .generation) ∨
    options.outputDirectory = none → record = []
  /-- If generation fails, then the artifacts that were written, each with its whole text, stand in
  front of the others; none is written if the artifacts are not made. -/
  partly : ∀ f directory, run.outcome = .error f → f.stage = .generation →
    options.outputDirectory = some directory →
      ∃ done, filesWritten record = done.map (Code.Artifact.placed directory) ∧
        (done = [] ∨ ∃ made, done <+: made ∧
          Makes files fetchers options path s made run.logs run.requests)
  /-- A product is written to the files it names, in order, and these hold its artifacts. -/
  wholly : ∀ product directory, run.outcome = .ok product →
    options.outputDirectory = some directory →
      product.written = product.artifacts.map (fun artifact => (artifact.placed directory).1) ∧
      filesWritten record = product.artifacts.map (Code.Artifact.placed directory) ∧
      contentsWritten record = product.artifacts.map (Code.Artifact.placed directory) ∧
      ∃ logs, Makes files fetchers options path s product.artifacts logs run.requests

variable {files fetchers options path s} {run : Run Product} {record : List FileAttempt}

/-- A run that fails leaves nothing half-made, if what it wrote stands in front of the artifacts. -/
theorem leavesNothingHalfMade_of_fails (hfetchers : ∀ past, (fetchers past).FailsAtResolution)
    {stage : Stage} {problem : Problem}
    (hrun : run.outcome = .error (stage.failure path problem))
    (hfails : FailsFirst files fetchers options path s stage problem run.logs run.requests)
    (hrecord : record = [] ∨ stage = .generation ∧ ∃ directory made done,
      options.outputDirectory = some directory ∧ done <+: made ∧
      Makes files fetchers options path s made run.logs run.requests ∧
      filesWritten record = done.map (Code.Artifact.placed directory)) :
    LeavesNothingHalfMade files fetchers options path s run record := by
  obtain ⟨hstage, hfile⟩ := (hfails.concerns hfetchers).failure
  refine ⟨fun f hf => ?_, fun hearly => ?_, fun f directory hf _ hdirectory => ?_,
    fun product _ hproduct => ?_⟩
  · cases hrun.symm.trans hf
    exact ⟨hfile, problem, by rw [hstage], by rw [hstage]; exact hfails⟩
  · refine hrecord.resolve_right ?_
    rintro ⟨hgeneration, directory, -, -, hdirectory, -⟩
    rcases hearly with ⟨f, hf, hne⟩ | hnone
    · cases hrun.symm.trans hf
      exact hne (hstage.trans hgeneration)
    · cases hnone.symm.trans hdirectory
  · rcases hrecord with rfl | ⟨-, other, made, done, hother, hprefix, hmakes, hwritten⟩
    · exact ⟨[], rfl, .inl rfl⟩
    · cases hdirectory.symm.trans hother
      exact ⟨done, hwritten, .inr ⟨made, hprefix, hmakes⟩⟩
  · cases hrun.symm.trans hproduct

/-- A run that gives a product leaves files alone, if there is no directory. -/
theorem leavesNothingHalfMade_of_none {product : Product} (hrun : run.outcome = .ok product)
    (hnone : options.outputDirectory = none) :
    LeavesNothingHalfMade files fetchers options path s run [] where
  attributed f hf := by cases hrun.symm.trans hf
  untouched _ := rfl
  partly f _ hf := by cases hrun.symm.trans hf
  wholly _ directory _ hdirectory := by cases hnone.symm.trans hdirectory

/-- A run that gives a product leaves nothing half-made, if all of its artifacts are written. -/
theorem leavesNothingHalfMade_of_written {product : Product} {directory : String}
    {logs : List LogRecord} (hrun : run.outcome = .ok { product with
      written := product.artifacts.map fun artifact => (artifact.placed directory).1 })
    (hdirectory : options.outputDirectory = some directory)
    (hmakes : Makes files fetchers options path s product.artifacts logs run.requests) :
    LeavesNothingHalfMade files fetchers options path s run
      (⟨.makeDirectory directory, true⟩ ::
        product.artifacts.map (Code.Artifact.attempt directory true)) where
  attributed f hf := by cases hrun.symm.trans hf
  untouched hearly := by
    rcases hearly with ⟨f, hf, -⟩ | hnone
    · cases hrun.symm.trans hf
    · cases hnone.symm.trans hdirectory
  partly f _ hf := by cases hrun.symm.trans hf
  wholly final other hfinal hother := by
    cases hrun.symm.trans hfinal
    cases hdirectory.symm.trans hother
    have hwritten : filesWritten (⟨.makeDirectory directory, true⟩ ::
        product.artifacts.map (Code.Artifact.attempt directory true)) =
          product.artifacts.map (Code.Artifact.placed directory) :=
      Code.filesWritten_attempts directory product.artifacts
    obtain ⟨hextracts, hmade⟩ := hmakes
    refine ⟨rfl, hwritten, ?_, logs, .intro hextracts hmade⟩
    exact (congrArg Entries.ofList hwritten).trans
      (Entries.ofList_eq_self (Code.nodup_keys_placed hmade directory))

variable (files options path s)

/-- **A failing document leaves no half-made output and is always named.** -/
theorem leavesNothingHalfMade (hfetchers : ∀ past, (fetchers past).FailsAtResolution) :
    LeavesNothingHalfMade files fetchers options path s
      (documentFrom files fetchers options path s).1
      (documentFrom files.recorded fetchers options path (s, [])).2.2 := by
  obtain ⟨hread, hstate⟩ := mimics_readObject files path s []
  have hafter : (Document.readObject files.recorded path (s, [])).2 =
      ((Document.readObject files path s).2, []) :=
    Prod.ext hstate (leaves_readObject files path (s, []))
  have hprepared : prepared files.recorded fetchers options path (s, []) =
      prepared files fetchers options path s := prepared_congr fetchers options hread
  rcases isPrepared_prepared files fetchers options path s with
    ⟨stage, problem, herror, hfails⟩ | ⟨product, hok, hpath, -, hmakes⟩
  · rw [documentFrom_of_error herror, documentFrom_of_error (hprepared ▸ herror), hafter]
    exact leavesNothingHalfMade_of_fails hfetchers herror hfails (.inl rfl)
  · have hok' : (prepared files.recorded fetchers options path (s, [])).outcome = .ok product :=
      hprepared ▸ hok
    cases hdirectory : options.outputDirectory with
    | none =>
      rw [documentFrom_of_none hok hdirectory, documentFrom_of_none hok' hdirectory, hafter]
      exact leavesNothingHalfMade_of_none hok hdirectory
    | some directory =>
      -- The files answer alike with a record and without one.
      have hmimics := (mimics_writeAll files directory product.artifacts
        (Document.readObject files path s).2 []).1
      rcases Code.writeAll_cases files directory product.artifacts
          ((Document.readObject files path s).2, []) with
        ⟨s', hall⟩ | ⟨problem, s', record, done, hsome, hprefix, hwritten⟩
      · rw [hall] at hmimics
        rw [documentFrom_of_written hok hdirectory (Prod.ext hmimics.symm rfl),
          documentFrom_of_written hok' hdirectory (by rw [hafter]; exact hall)]
        exact leavesNothingHalfMade_of_written rfl hdirectory hmakes
      · rw [hsome] at hmimics
        rw [documentFrom_of_unwritable hok hdirectory (Prod.ext hmimics.symm rfl),
          documentFrom_of_unwritable hok' hdirectory (by rw [hafter]; exact hsome), hpath]
        exact leavesNothingHalfMade_of_fails hfetchers rfl
          (.writing hmakes hdirectory hmimics.symm) (.inr ⟨rfl, directory, product.artifacts, done,
            hdirectory, hprefix, hmakes, hwritten⟩)

end Result

/-- The text of a document without operations. -/
def petsText : String :=
  "\x7b\"openapi\": \"3.0.3\", \"info\": \x7b\"title\": \"Pets\", \"version\": \"1\"\x7d, " ++
    "\"paths\": \x7b\x7d\x7d"

/-- A place with a document, and with a directory where its index would be written. -/
def occupied : FileTree :=
  { home := "work"
    entries :=
      [(["work", "pets.json"], .file petsText.toUTF8.toList), (["work", "out"], .directory),
        (["work", "out", "index.ts"], .directory)] }

/-- Settings with a directory for what is generated. -/
def intoOut : RunOptions := { outputDirectory := some "out" }

/-- What the work on the document of a place that is occupied puts on record about files. -/
def occupiedRecord : List FileAttempt :=
  (document FileTree.access.recorded Resolution.unserved intoOut "pets.json" (occupied, [])).2.2

/-- The index cannot be written after the schemas have been. -/
theorem leavesNothingHalfMade_occupied :
    (∀ _ : List String, Resolution.unserved.FailsAtResolution) ∧
    (occupiedRecord.map FileAttempt.succeeded = [true, true, false] ∧
      filesWritten occupiedRecord =
        [("out/schemas.ts", "import \x7b Schema as S \x7d from \"effect\";\n")]) ∧
    LeavesNothingHalfMade FileTree.access (fun _ => Resolution.unserved) intoOut "pets.json"
      occupied (document FileTree.access Resolution.unserved intoOut "pets.json" occupied).1
      occupiedRecord := by
  have hfetchers : ∀ _ : List String, Resolution.unserved.FailsAtResolution := by
    intro past url f h
    cases h
    rfl
  refine ⟨hfetchers, by decide +kernel, ?_⟩
  rw [occupiedRecord, ← documentFrom_steady, ← documentFrom_steady]
  exact leavesNothingHalfMade FileTree.access intoOut "pets.json" occupied hfetchers

end Work

end ClientGen
