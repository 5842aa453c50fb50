import ClientGen.Proofs.Batch.Interleaved
import ClientGen.Proofs.Files.Tree
import ClientGen.Proofs.Work.Document
import ClientGen.Work.Many

/-!
# What documents of one batch do to each other's output

All documents of a batch are written to one directory, by workers that go on at the same time.
`Interleaves` says how such a batch may end: its documents make their calls on files in any order,
and a batch by a schedule is one of these cases (`exists_interleaves_documentsBy`).

Every success is written as a whole (`Wrote`), but all of them have a file for their schemas and an
index, and whoever writes a file last decides what it holds.  So the successes keep their own
output, `Kept`, exactly when no two of them have different texts for a file of one name, `Agree`,
and no document that fails writes to their files later, `WriteLast`
(`kept_iff_agree_and_writeLast`).  If no document fails and they agree, the order of the work leaves
no trace in the files.
`sharesDirectory` puts this together.

Two documents with different titles do not agree: both succeed, and one of them loses its index
(`not_kept_siblings`).
-/

namespace ClientGen

/-- The files that the artifacts of a product are in a directory, with their texts. -/
def Product.placed (directory : String) (product : Product) : List (String × String) :=
  product.artifacts.map (Code.Artifact.placed directory)

namespace Work

/-! ### Documents of a batch -/

/-- The work on one document of a batch, call by call. -/
def batchProgram (transport : Net.Transport) (options : RunOptions) (path : String) :
    Program (Except Problem Product) := do
  let run ← document Program.access (Net.fetch transport options.resolution.limits) options path
  return run.outcome.mapError Problem.failure

theorem performs_documentWith {τ : Type} (files : FileAccess (StateM τ))
    (resolve : Value → Net.Fetched Resolution) (options : RunOptions) (path : String) :
    Performs files (documentWith resolve Program.access options path)
      (documentWith resolve files options path) := by
  have hread : Performs files (read Program.access path) (read files path) := by
    refine (performs_readObject files path).bind fun outcome => ?_
    cases outcome <;> exact .pure _
  refine hread.bind fun read => ?_
  dsimp only
  cases (read >>= prepareWith resolve options path).outcome with
  | error f => exact .pure _
  | ok product =>
    refine Performs.bind ?_ fun written => .pure _
    unfold write
    cases options.outputDirectory with
    | none => exact .pure _
    | some directory =>
      refine (performs_writeAll files directory product.artifacts).bind fun outcome => ?_
      cases outcome <;> exact .pure _

theorem perform_batchProgram {τ : Type} (files : FileAccess (StateM τ)) (transport : Net.Transport)
    (options : RunOptions) (path : String) (t : τ) :
    (batchProgram transport options path).perform files t =
      ((document files (Net.fetch transport options.resolution.limits) options path
          t).1.outcome.mapError Problem.failure,
        (document files (Net.fetch transport options.resolution.limits) options path t).2) := by
  rw [batchProgram, Program.perform_bind]
  rw [document, performs_documentWith files _ options path t]
  rfl

/-- A step of a batch does what its calls do. -/
theorem batchStep_eq {τ : Type} (files : FileAccess (StateM τ)) (transport : Net.Transport)
    (options : RunOptions) (path : String) (requests : List String) (t : τ) :
    (batchStep files transport options path requests t).1.1 =
        ((batchProgram transport options path).perform files t).1 ∧
      (batchStep files transport options path requests t).2 =
        ((batchProgram transport options path).perform files t).2 := by
  rw [perform_batchProgram]
  exact ⟨rfl, rfl⟩

/-! ### What a success does to files -/

/-- A product was written to a directory as a whole, and nothing else was written with it. -/
structure Wrote (directory : String) (product : Product) (record : List FileAttempt) : Prop where
  made : ∃ api, Code.artifacts api = .ok product.artifacts
  names : product.written = (product.placed directory).map Prod.fst
  files : filesWritten record = product.placed directory

/-- What the work on a document writes stands in a directory, and if it succeeds it is the whole
product. -/
structure WroteInto {ε : Type} (directory : String) (outcome : Except ε Product)
    (record : List FileAttempt) : Prop where
  inside : WritesIn directory record
  wholly : ∀ product, outcome = .ok product → Wrote directory product record

/-- Some of the artifacts of an API are files in their directory. -/
theorem writesIn_of_artifacts {api : Api} {made done : List Code.Artifact} {directory : String}
    {record : List FileAttempt} (hmade : Code.artifacts api = .ok made) (hdone : done <+: made)
    (h : filesWritten record = done.map (Code.Artifact.placed directory)) :
    WritesIn directory record := by
  intro entry hentry
  rw [h] at hentry
  obtain ⟨artifact, hartifact, rfl⟩ := List.mem_map.mp hentry
  exact ⟨artifact.file, Code.isFileName_of_mem_artifacts hmade (hdone.subset hartifact), rfl⟩

/-- The work on a document writes to the directory that is given, and a product as a whole. -/
theorem wroteInto_documentFrom {σ : Type} (files : FileAccess (StateM σ))
    (fetchers : Net.Changing Net.Fetcher) {options : RunOptions} (path : String)
    {directory : String} (s : σ) (hdirectory : options.outputDirectory = some directory) :
    WroteInto directory (documentFrom files.recorded fetchers options path (s, [])).1.outcome
      (documentFrom files.recorded fetchers options path (s, [])).2.2 := by
  have hleaves := leaves_readObject files path (s, [])
  rcases hread : Document.readObject files.recorded path (s, []) with ⟨outcome, t, record⟩
  rw [hread] at hleaves
  cases hleaves
  rcases isPrepared_prepared files.recorded fetchers options path (s, []) with
    ⟨stage, problem, herror, -⟩ | ⟨prepared, hok, -, -, hmakes⟩
  · rw [documentFrom_of_error herror, hread, herror]
    refine ⟨fun entry hentry => absurd hentry List.not_mem_nil, fun product hproduct => ?_⟩
    cases hproduct
  · obtain ⟨hextracts, hmade⟩ := hmakes
    rcases Code.writeAll_cases files directory prepared.artifacts (t, []) with
      ⟨u, hall⟩ | ⟨problem, u, record, done, hsome, hprefix, hwritten⟩
    · have hwritten : filesWritten (⟨.makeDirectory directory, true⟩ ::
          prepared.artifacts.map (Code.Artifact.attempt directory true)) =
            prepared.artifacts.map (Code.Artifact.placed directory) :=
        Code.filesWritten_attempts directory prepared.artifacts
      rw [documentFrom_of_written hok hdirectory (by rw [hread]; exact hall)]
      refine ⟨writesIn_of_artifacts hmade (List.prefix_refl _) hwritten, fun product hproduct => ?_⟩
      cases hproduct
      refine ⟨⟨_, hmade⟩, ?_, hwritten⟩
      rw [Product.placed, List.map_map]
      rfl
    · rw [documentFrom_of_unwritable hok hdirectory (by rw [hread]; exact hsome)]
      refine ⟨writesIn_of_artifacts hmade hprefix hwritten, fun product hproduct => ?_⟩
      cases hproduct

/-- However the files answer, a document of a batch writes to the directory that is given, and its
product as a whole. -/
theorem completes_batchProgram {directory : String} (transport : Net.Transport)
    {options : RunOptions} (hdirectory : options.outputDirectory = some directory)
    (path : String) :
    Completes (WroteInto directory) (batchProgram transport options path) [] := by
  intro τ files t
  rw [perform_batchProgram, ← documentFrom_steady]
  obtain ⟨hinside, hwholly⟩ := wroteInto_documentFrom files
    (fun _ => Net.fetch transport options.resolution.limits) path t hdirectory
  refine ⟨hinside, fun product hproduct => hwholly product ?_⟩
  dsimp only at hproduct
  cases houtcome : (documentFrom files.recorded (fun _ => Net.fetch transport
      options.resolution.limits) options path (t, [])).1.outcome with
  | error f =>
    rw [houtcome] at hproduct
    cases hproduct
  | ok other =>
    rw [houtcome] at hproduct
    cases hproduct
    rfl

/-! ### Batches -/

/-- How a batch may end, with the files and the record that it leaves, when its documents make their
calls in any order. -/
inductive Interleaves {σ : Type} (files : FileAccess (StateM σ)) (transport : Net.Transport)
    (options : RunOptions) (policy : BatchPolicy) (workers : Int) (paths : List String) (s : σ) :
    Except BatchFault (BatchResult Product) → σ × List FileAttempt → Prop
  | intro {crew : Crew σ (Except Problem Product)}
      (hreaches : Crew.Reaches files (Batch.workerCount workers paths.length) (Batch.alarms policy)
        (Crew.start (fun task => batchProgram transport options (paths.getD task ""))
          paths.length s)
        crew)
      (hended : crew.HasEnded) :
      Interleaves files transport options policy workers paths s
        (Batch.conclude policy (crew.results paths.length)) crew.state

/-- A batch by a schedule is one in which each document makes all of its calls at once. -/
theorem exists_interleaves_documentsBy {σ : Type} (files : FileAccess (StateM σ))
    (transport : Net.Transport) (options : RunOptions) (policy : BatchPolicy) (workers : Int)
    (schedule : List Move) (paths : List String) (s : σ) :
    ∃ record, Interleaves files transport options policy workers paths s
      (documentsBy files transport options policy workers schedule paths s).1.1
      ((documentsBy files transport options policy workers schedule paths s).2, record) := by
  have hworkers : 0 < Batch.workerCount workers paths.length := by
    unfold Batch.workerCount
    omega
  obtain ⟨crew, hreaches, hended, hresults, hstate⟩ :=
    Crew.exists_reaches_run files (Batch.workerCount workers paths.length) (Batch.alarms policy)
      (fun task => batchStep_eq files transport options (paths.getD task "")) hworkers
      schedule paths.length [] s
  have hinterleaves := Interleaves.intro hreaches hended
  have hleft : crew.state =
      ((documentsBy files transport options policy workers schedule paths s).2, crew.state.2) :=
    Prod.ext hstate rfl
  rw [hresults, hleft] at hinterleaves
  exact ⟨crew.state.2, hinterleaves⟩

/-! ### One directory -/

section Directory

variable (directory : String) (successes : List Product)

/-- Every file that a success names holds the text of its own artifact. -/
def Kept (holds : String → String → Prop) : Prop :=
  ∀ product ∈ successes, ∀ path ∈ product.written, ∃ artifact ∈ product.artifacts,
    (artifact.placed directory).1 = path ∧ holds path artifact.content

/-- No two successes have different texts for a file of one name. -/
def Agree : Prop :=
  ∀ product ∈ successes, ∀ other ∈ successes, ∀ artifact ∈ product.artifacts,
    ∀ rival ∈ other.artifacts, artifact.file = rival.file → artifact.content = rival.content

/-- The files that successes name hold in the end what some success wrote. -/
def WriteLast (holds : String → String → Prop) : Prop :=
  ∀ product ∈ successes, ∀ path ∈ product.written, ∃ other ∈ successes, ∃ text,
    (path, text) ∈ other.placed directory ∧ holds path text

end Directory

/-- What becomes of the output of a batch into one directory that ends with a result, where files
held something before and hold something now. -/
structure SharedOutput (directory : String) (before : String → String → Prop)
    (result : BatchResult Product) (record : List FileAttempt) (holds : String → String → Prop) :
    Prop where
  /-- Each success was written as a whole, in its order, to the files that it names. -/
  written : ∀ product ∈ result.successes,
    product.written = (product.placed directory).map Prod.fst ∧
      (product.placed directory).Sublist (filesWritten record)
  /-- All successes have a file for their schemas, and an index. -/
  common : ∀ product ∈ result.successes, ∀ file ∈ [Code.schemasFile, Code.indexFile],
    FilePath.join directory file ∈ product.written
  /-- All successes keep their output exactly when they agree and write last. -/
  kept_iff : Kept directory result.successes holds ↔
    Agree result.successes ∧ WriteLast directory result.successes holds
  /-- If no document fails, successes write last. -/
  undisturbed : result.failures = [] → WriteLast directory result.successes holds
  /-- If no document fails and all agree, the files hold what the successes have, whatever the order
  in which they were written. -/
  settled : result.failures = [] → Agree result.successes →
    ∀ product ∈ result.successes, ∀ path ∈ product.written, ∀ text,
      holds path text ↔ ∃ other ∈ result.successes, (path, text) ∈ other.placed directory
  /-- If no document fails, files of other names hold what they held. -/
  untouched : result.failures = [] → ∀ file, Code.IsFileName file →
    (∀ product ∈ result.successes, FilePath.join directory file ∉ product.written) →
      ∀ text, before (FilePath.join directory file) text →
        holds (FilePath.join directory file) text

theorem exists_get?_contentsWritten {record : List FileAttempt} {path text : String}
    (h : (path, text) ∈ filesWritten record) :
    ∃ last, Entries.get? path (contentsWritten record) = some last := by
  have hkey : path ∈ Entries.keys (contentsWritten record) :=
    (Entries.mem_keys_overlay path _ _).mpr (.inl (Entries.mem_keys_of_mem h))
  rw [← Option.ne_none_iff_exists', Ne, Entries.get?_eq_none_iff]
  exact not_not_intro hkey

theorem mem_filesWritten_of_get? {record : List FileAttempt} {path text : String}
    (h : Entries.get? path (contentsWritten record) = some text) :
    (path, text) ∈ filesWritten record :=
  (Entries.mem_overlay (Entries.mem_of_get? h)).resolve_right List.not_mem_nil

namespace Wrote

variable {directory : String} {product other : Product} {record more : List FileAttempt}

/-- The files that a product names are those of its artifacts. -/
theorem mem_written_iff (h : Wrote directory product record) {path : String} :
    path ∈ product.written ↔
      ∃ artifact ∈ product.artifacts, (artifact.placed directory).1 = path := by
  rw [h.names, Product.placed, List.map_map, List.mem_map]
  rfl

/-- Artifacts of one product have files of their own. -/
theorem eq_of_placed (h : Wrote directory product record) {artifact rival : Code.Artifact}
    (hartifact : artifact ∈ product.artifacts) (hrival : rival ∈ product.artifacts)
    (hpath : (artifact.placed directory).1 = (rival.placed directory).1) : artifact = rival := by
  obtain ⟨api, hmade⟩ := h.made
  have hnodup := Code.nodup_keys_placed hmade directory
  rw [Entries.keys, List.map_map] at hnodup
  exact List.inj_on_of_nodup_map hnodup hartifact hrival hpath

theorem isFileName (h : Wrote directory product record) {artifact : Code.Artifact}
    (hartifact : artifact ∈ product.artifacts) : Code.IsFileName artifact.file := by
  obtain ⟨api, hmade⟩ := h.made
  exact Code.isFileName_of_mem_artifacts hmade hartifact

/-- Artifacts in one file have one name. -/
theorem file_eq_of_placed (h : Wrote directory product record)
    (hother : Wrote directory other more) {artifact rival : Code.Artifact}
    (hartifact : artifact ∈ product.artifacts) (hrival : rival ∈ other.artifacts)
    (hpath : (artifact.placed directory).1 = (rival.placed directory).1) :
    artifact.file = rival.file :=
  FilePath.join_injective (h.isFileName hartifact).isAbsolute_eq_false
    (hother.isFileName hrival).isAbsolute_eq_false hpath

/-- A product has a file for its schemas, and an index. -/
theorem common (h : Wrote directory product record) {file : String}
    (hfile : file ∈ [Code.schemasFile, Code.indexFile]) :
    FilePath.join directory file ∈ product.written := by
  obtain ⟨api, hmade⟩ := h.made
  have hmem : file ∈ product.artifacts.map Code.Artifact.file := by
    rw [Code.file_artifacts hmade]
    simp only [List.mem_cons, List.not_mem_nil, or_false] at hfile
    rcases hfile with rfl | rfl
    · exact List.mem_cons_self
    · exact List.mem_append_right _ List.mem_cons_self
  obtain ⟨artifact, hartifact, rfl⟩ := List.mem_map.mp hmem
  exact h.mem_written_iff.mpr ⟨artifact, hartifact, rfl⟩

end Wrote

section Shared

variable {directory : String} {successes : List Product} {holds : String → String → Prop}
  (hwrote : ∀ product ∈ successes, ∃ own, Wrote directory product own)

include hwrote

/-- What a success that keeps its output has in a file is held there. -/
theorem Kept.holds_content (h : Kept directory successes holds) {product : Product}
    (hproduct : product ∈ successes) {artifact : Code.Artifact}
    (hartifact : artifact ∈ product.artifacts) :
    holds (artifact.placed directory).1 artifact.content := by
  obtain ⟨own, hown⟩ := hwrote product hproduct
  obtain ⟨kept, hkept, hpath, hholds⟩ :=
    h product hproduct _ (hown.mem_written_iff.mpr ⟨artifact, hartifact, rfl⟩)
  rw [hown.eq_of_placed hkept hartifact hpath] at hholds
  exact hholds

/-- Successes that all keep their output agree, since a file holds one text only. -/
theorem Kept.agree (hunique : ∀ path text other, holds path text → holds path other → text = other)
    (h : Kept directory successes holds) : Agree successes := by
  intro product hproduct other hother artifact hartifact rival hrival hfile
  have hplaces : (rival.placed directory).1 = (artifact.placed directory).1 :=
    congrArg (FilePath.join directory) hfile.symm
  have hrival := h.holds_content hwrote hother hrival
  rw [hplaces] at hrival
  exact hunique _ _ _ (h.holds_content hwrote hproduct hartifact) hrival

omit hwrote in
theorem Kept.writeLast (h : Kept directory successes holds) :
    WriteLast directory successes holds := by
  intro product hproduct path hpath
  obtain ⟨artifact, hartifact, rfl, hholds⟩ := h product hproduct path hpath
  exact ⟨product, hproduct, artifact.content, List.mem_map_of_mem hartifact, hholds⟩

/-- What a success has in a file is what another one that agrees with it wrote last. -/
theorem WriteLast.holds_content (h : WriteLast directory successes holds) (hagree : Agree successes)
    {product : Product} (hproduct : product ∈ successes) {artifact : Code.Artifact}
    (hartifact : artifact ∈ product.artifacts) :
    holds (artifact.placed directory).1 artifact.content := by
  obtain ⟨own, hown⟩ := hwrote product hproduct
  obtain ⟨other, hother, text, hplaced, hholds⟩ :=
    h product hproduct _ (hown.mem_written_iff.mpr ⟨artifact, hartifact, rfl⟩)
  obtain ⟨rival, hrival, heq⟩ := List.mem_map.mp hplaced
  obtain ⟨hpath, htext⟩ := Prod.mk.inj heq
  obtain ⟨more, hmore⟩ := hwrote other hother
  have hfile : artifact.file = rival.file :=
    hown.file_eq_of_placed hmore hartifact hrival hpath.symm
  rw [hagree product hproduct other hother artifact hartifact rival hrival hfile, htext]
  exact hholds

theorem kept_iff_agree_and_writeLast
    (hunique : ∀ path text other, holds path text → holds path other → text = other) :
    Kept directory successes holds ↔
      Agree successes ∧ WriteLast directory successes holds := by
  constructor
  · intro hkept
    exact ⟨hkept.agree hwrote hunique, hkept.writeLast⟩
  · rintro ⟨hagree, hlast⟩ product hproduct path hpath
    obtain ⟨own, hown⟩ := hwrote product hproduct
    obtain ⟨artifact, hartifact, rfl⟩ := hown.mem_written_iff.mp hpath
    exact ⟨artifact, hartifact, rfl, hlast.holds_content hwrote hagree hproduct hartifact⟩

end Shared

/-! ### The output of a batch -/

section Output

variable {directory : String} {policy : BatchPolicy} {results : List (Except Problem Product)}
  {result : BatchResult Product} {record : List FileAttempt}

/-- A batch that ends with results has all values and failures of its documents, and no other
faults. -/
theorem conclude_eq_ok (h : Batch.conclude policy results = .ok result) :
    Batch.firstUnexpected results = none ∧
      result = ⟨Batch.values results, Batch.failures results⟩ := by
  unfold Batch.conclude at h
  split at h
  · cases h
  · rename_i hnone
    refine ⟨hnone, ?_⟩
    split at h
    · cases h
    · exact (Except.ok.inj h).symm

theorem mem_values_iff {product : Product} :
    product ∈ Batch.values results ↔ .ok product ∈ results := by
  rw [Batch.values, List.mem_filterMap]
  constructor
  · rintro ⟨found, hmem, hfound⟩
    split at hfound
    · cases hfound
      exact hmem
    · cases hfound
  · intro hmem
    exact ⟨_, hmem, rfl⟩

/-- Where nothing failed, every result is a success. -/
theorem exists_ok_of_mem (hnone : Batch.firstUnexpected results = none)
    (hfailures : Batch.failures results = []) {found : Except Problem Product}
    (hmem : found ∈ results) : ∃ product, found = .ok product := by
  rw [Batch.firstUnexpected, List.findSome?_eq_none_iff] at hnone
  rw [Batch.failures, List.filterMap_eq_nil_iff] at hfailures
  cases found with
  | ok product => exact ⟨product, rfl⟩
  | error problem =>
    cases problem with
    | failure f => cases hfailures _ hmem
    | unexpected u => cases hnone _ hmem

/-- If no document fails, all that was written is output of the successes. -/
theorem exists_placed_of_mem (hnone : Batch.firstUnexpected results = none)
    (hfailures : Batch.failures results = [])
    (h : BelongTogether (WroteInto directory) results record) {path text : String}
    (hmem : (path, text) ∈ filesWritten record) :
    ∃ product ∈ Batch.values results, (path, text) ∈ product.placed directory := by
  obtain ⟨attempt, hattempt, hfile⟩ := List.mem_filterMap.mp hmem
  obtain ⟨found, hfound, own, hgood, hown⟩ := h.accounted attempt hattempt
  obtain ⟨product, rfl⟩ := exists_ok_of_mem hnone hfailures hfound
  refine ⟨product, mem_values_iff.mpr hfound, ?_⟩
  rw [← (hgood.wholly product rfl).files]
  exact List.mem_filterMap.mpr ⟨attempt, hown, hfile⟩

/-- Results that belong together with a record share a directory, if its files hold what they are to
hold. -/
theorem sharedOutput {before holds : String → String → Prop}
    (hunique : ∀ path text other, holds path text → holds path other → text = other)
    (hholds : ∀ file text, Code.IsFileName file →
      Due before record (FilePath.join directory file) text →
        holds (FilePath.join directory file) text)
    (hconclude : Batch.conclude policy results = .ok result)
    (h : BelongTogether (WroteInto directory) results record) :
    SharedOutput directory before result record holds := by
  obtain ⟨hnone, rfl⟩ := conclude_eq_ok hconclude
  have hwrote : ∀ product ∈ Batch.values results,
      ∃ own, Wrote directory product own ∧ own.Sublist record := by
    intro product hproduct
    obtain ⟨own, hown, hsublist⟩ := h.onRecord _ (mem_values_iff.mp hproduct)
    exact ⟨own, hown.wholly product rfl, hsublist⟩
  have hwhole : ∀ product ∈ Batch.values results, ∃ own, Wrote directory product own :=
    fun product hproduct => (hwrote product hproduct).imp fun _ => And.left
  have hwritten : ∀ product ∈ Batch.values results,
      (product.placed directory).Sublist (filesWritten record) := by
    intro product hproduct
    obtain ⟨own, hown, hsublist⟩ := hwrote product hproduct
    rw [← hown.files]
    exact hsublist.filterMap FileAttempt.written?
  have hlast : Batch.failures results = [] →
      WriteLast directory (Batch.values results) holds := by
    intro hfailures product hproduct path hpath
    obtain ⟨own, hown⟩ := hwhole product hproduct
    obtain ⟨artifact, hartifact, rfl⟩ := hown.mem_written_iff.mp hpath
    obtain ⟨text, hget⟩ := exists_get?_contentsWritten
      ((hwritten product hproduct).subset (List.mem_map_of_mem hartifact))
    obtain ⟨other, hother, hplaced⟩ :=
      exists_placed_of_mem hnone hfailures h (mem_filesWritten_of_get? hget)
    exact ⟨other, hother, text, hplaced,
      hholds artifact.file text (hown.isFileName hartifact) (.inl hget)⟩
  refine ⟨fun product hproduct => ?_, fun product hproduct file hfile => ?_,
    kept_iff_agree_and_writeLast hwhole hunique, hlast,
    fun hfailures hagree product hproduct path hpath text => ?_,
    fun hfailures file hfile hothers text hbefore => ?_⟩
  · obtain ⟨own, hown⟩ := hwhole product hproduct
    exact ⟨hown.names, hwritten product hproduct⟩
  · obtain ⟨own, hown⟩ := hwhole product hproduct
    exact hown.common hfile
  · constructor
    · intro htext
      obtain ⟨other, hother, last, hplaced, hlast⟩ := hlast hfailures product hproduct path hpath
      rw [hunique path text last htext hlast]
      exact ⟨other, hother, hplaced⟩
    · rintro ⟨other, hother, hplaced⟩
      obtain ⟨artifact, hartifact, heq⟩ := List.mem_map.mp hplaced
      obtain ⟨rfl, rfl⟩ := Prod.mk.inj heq
      exact (hlast hfailures).holds_content hwhole hagree hother hartifact
  · refine hholds file text hfile (.inr ⟨fun hkey => ?_, hbefore⟩)
    obtain ⟨entry, hentry, hpath⟩ := List.mem_map.mp hkey
    have hmem : entry ∈ filesWritten record :=
      (Entries.mem_overlay hentry).resolve_right List.not_mem_nil
    obtain ⟨product, hproduct, hplaced⟩ := exists_placed_of_mem hnone hfailures h hmem
    obtain ⟨own, hown⟩ := hwhole product hproduct
    refine hothers product hproduct ?_
    rw [hown.names, ← hpath]
    exact List.mem_map_of_mem hplaced

end Output

/-- Settings with a directory for what is generated. -/
def into (options : RunOptions) (directory : String) : RunOptions :=
  { options with outputDirectory := some directory }

/-- How the documents of a batch share a directory. -/
structure SharesDirectory {σ : Type} (files : FileAccess (StateM σ)) (transport : Net.Transport)
    (options : RunOptions) (directory : String) (holds : σ → String → String → Prop)
    (policy : BatchPolicy) (workers : Int) (paths : List String) (s : σ) : Prop where
  /-- By every schedule the documents make their calls in some order. -/
  scheduled : ∀ schedule, ∃ record,
    Interleaves files transport (into options directory) policy workers paths s
      (documentsBy files transport (into options directory) policy workers schedule paths s).1.1
      ((documentsBy files transport (into options directory) policy workers schedule paths s).2,
        record)
  /-- In whatever order they make them, a batch with results has shared its output. -/
  shared : ∀ result state, Interleaves files transport (into options directory) policy workers paths
    s (.ok result) state → SharedOutput directory (holds s) result state.2 (holds state.1)

/-- **Documents of a batch keep their output** if they agree on the files that they share and no
document that fails writes to them later, and only then. -/
theorem sharesDirectory {σ : Type} {files : FileAccess (StateM σ)} (transport : Net.Transport)
    (options : RunOptions) {directory : String} {holds : σ → String → String → Prop}
    (hkeeps : files.Keeps directory holds) (policy : BatchPolicy) (workers : Int)
    (paths : List String) (s : σ) :
    SharesDirectory files transport options directory holds policy workers paths s where
  scheduled schedule := exists_interleaves_documentsBy files transport (into options directory)
    policy workers schedule paths s
  shared result state h := by
    generalize hending : Except.ok result = ending at h
    obtain @⟨crew, hreaches, hended⟩ := h
    have hprograms : ∀ task, Completes (WroteInto directory)
        (batchProgram transport (into options directory) (paths.getD task "")) [] :=
      fun task => completes_batchProgram transport rfl (paths.getD task "")
    have hstores : crew.Stores directory holds (holds s) :=
      Crew.stores_of_reaches hprograms (fun _ _ hwrote => hwrote.inside) hkeeps hreaches
    exact sharedOutput (hkeeps.unique crew.state.1) hstores hending.symm
      (Crew.belongTogether_of_reaches hprograms hreaches hended)

/-! ### Two documents -/

/-- The text of a document without operations that has a title. -/
def titledText (title : String) : String :=
  "\x7b\"openapi\": \"3.0.3\", \"info\": \x7b\"title\": \"" ++ title ++
    "\", \"version\": \"1\"\x7d, \"paths\": \x7b\x7d\x7d"

/-- A place with two documents that have titles. -/
def siblings (title other : String) : FileTree :=
  { home := "work"
    entries :=
      [(["work", "a.json"], .file (titledText title).toUTF8.toList),
        (["work", "b.json"], .file (titledText other).toUTF8.toList)] }

/-- The batch of the two documents by a schedule. -/
def siblingsBy (schedule : List Move) (title other : String) :
    (Except BatchFault (BatchResult Product) × List String) × FileTree :=
  documentsBy FileTree.access (fun _ => .timeout) (into {} "out") .collect 4 schedule
    ["a.json", "b.json"] (siblings title other)

instance (directory : String) (successes : List Product) (holds : String → String → Prop)
    [∀ path text, Decidable (holds path text)] : Decidable (Kept directory successes holds) :=
  inferInstanceAs (Decidable (∀ product ∈ successes, ∀ path ∈ product.written,
    ∃ artifact ∈ product.artifacts, (artifact.placed directory).1 = path ∧
      holds path artifact.content))

/-- A batch ends with two documents that succeed. -/
structure BothSucceed (run : (Except BatchFault (BatchResult Product) × List String) × FileTree)
    (result : BatchResult Product) : Prop where
  ends : run.1.1 = .ok result
  failures : result.failures = []
  successes : result.successes.length = 2

theorem exists_bothSucceed {kept : Bool}
    {run : (Except BatchFault (BatchResult Product) × List String) × FileTree}
    (h : (run.1.1.toOption.map fun result => (result.failures.length, result.successes.length,
      decide (Kept "out" result.successes run.2.Holds))) = some (0, 2, kept)) :
    ∃ result, BothSucceed run result ∧
      decide (Kept "out" result.successes run.2.Holds) = kept := by
  cases hend : run.1.1 with
  | error fault =>
    rw [hend] at h
    cases h
  | ok result =>
    rw [hend] at h
    obtain ⟨hfailures, hrest⟩ := Prod.mk.inj (Option.some.inj h)
    obtain ⟨hsuccesses, hkept⟩ := Prod.mk.inj hrest
    exact ⟨result, ⟨hend, List.eq_nil_of_length_eq_zero hfailures, hsuccesses⟩, hkept⟩

/-- Two documents with one title share their output. -/
theorem sharesDirectory_siblings :
    FileTree.access.Keeps "out" FileTree.Holds ∧
    (∃ result, BothSucceed (siblingsBy [] "Cats" "Cats") result ∧
      Kept "out" result.successes (siblingsBy [] "Cats" "Cats").2.Holds) ∧
    SharesDirectory FileTree.access (fun _ => .timeout) {} "out" FileTree.Holds .collect 4
      ["a.json", "b.json"] (siblings "Cats" "Cats") := by
  have hkeeps : FileTree.access.Keeps "out" FileTree.Holds := FileTree.keeps_access "out"
  have hboth : ∃ result, BothSucceed (siblingsBy [] "Cats" "Cats") result ∧
      decide (Kept "out" result.successes (siblingsBy [] "Cats" "Cats").2.Holds) = true :=
    exists_bothSucceed (by decide +kernel)
  obtain ⟨result, hsucceed, hkept⟩ := hboth
  refine ⟨hkeeps, ⟨result, hsucceed, of_decide_eq_true hkept⟩, ?_⟩
  exact sharesDirectory (fun _ => .timeout) {} hkeeps .collect 4 ["a.json", "b.json"]
    (siblings "Cats" "Cats")

/-- Two documents with different titles both succeed, but one of them loses its index to the other,
and which one it is depends on the order. -/
theorem not_kept_siblings :
    (∃ result, BothSucceed (siblingsBy [] "Cats" "Dogs") result ∧
      ¬Kept "out" result.successes (siblingsBy [] "Cats" "Dogs").2.Holds) ∧
    (siblingsBy [] "Cats" "Dogs").2.look "out/index.ts" ≠
      (siblingsBy [.take, .take, .finish 1] "Cats" "Dogs").2.look "out/index.ts" := by
  have hloses : ∃ result, BothSucceed (siblingsBy [] "Cats" "Dogs") result ∧
      decide (Kept "out" result.successes (siblingsBy [] "Cats" "Dogs").2.Holds) = false :=
    exists_bothSucceed (by decide +kernel)
  obtain ⟨result, hsucceed, hkept⟩ := hloses
  exact ⟨⟨result, hsucceed, of_decide_eq_false hkept⟩, by decide +kernel⟩

end Work

end ClientGen
