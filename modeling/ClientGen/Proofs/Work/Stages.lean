import ClientGen.Proofs.Files.Recorded
import ClientGen.Proofs.Resolution.Failures
import ClientGen.Proofs.Validation
import ClientGen.Work

/-!
# The failures of the stages

A failure that a stage reports is one of that stage, and it names the document or no file at all
(`Problem.Concerns`).  So the failure in which the work on a document ends always names the document
and the stage at which it arose (`Problem.Concerns.failure`).

Reading a document gives one for its path or fails by a fault of the file there, whatever the
answers of the files are (`Document.ReadsFor.readObject`).
-/

namespace ClientGen

/-- A problem of a document at a stage: a failure is one of the stage, and names no other file. -/
structure Problem.Concerns (stage : Stage) (path : String) (problem : Problem) : Prop where
  isOf : problem.IsOf stage
  names : ∀ f, problem = .failure f → f.file = "" ∨ f.file = path

namespace Problem

theorem concerns_failure {stage : Stage} {path : String} {f : Failure} (hstage : f.stage = stage)
    (hfile : f.file = "" ∨ f.file = path) : (failure f).Concerns stage path where
  isOf := isOf_failure hstage
  names _ h := by
    cases h
    exact hfile

theorem concerns_unexpected (stage : Stage) (path : String) (u : Unexpected) :
    (unexpected u).Concerns stage path where
  isOf := isOf_unexpected stage u
  names _ h := by cases h

/-- The failure that a problem of a document is names the stage and the document. -/
theorem Concerns.failure {stage : Stage} {path : String} {problem : Problem}
    (h : problem.Concerns stage path) :
    (stage.failure path problem).stage = stage ∧ (stage.failure path problem).file = path := by
  cases problem with
  | failure f =>
    have hstage : f.stage = stage := h.isOf f rfl
    rw [Stage.failure]
    split
    · exact ⟨hstage, rfl⟩
    · rename_i hnamed
      refine ⟨hstage, (h.names f rfl).resolve_left fun hempty => hnamed ?_⟩
      rw [hempty]
      rfl
  | unexpected u => cases stage <;> exact ⟨rfl, rfl⟩

end Problem

/-! ### Reading -/

theorem ReadFault.concerns (fault : ReadFault) (path : String) :
    (Problem.failure (fault.failure path)).Concerns .reading path :=
  Problem.concerns_failure (by cases fault <;> rfl) (.inr rfl)

/-- A document is read for its path, or there is a fault of the file at the path. -/
structure Document.ReadsFor (path : String) (outcome : Except Problem Document) : Prop where
  document : ∀ document, outcome = .ok document → document.path = path
  failure : ∀ f, outcome = .error (.failure f) → ∃ fault : ReadFault, f = fault.failure path

namespace Document.ReadsFor

variable {path : String}

theorem ok {document : Document} (h : document.path = path) : ReadsFor path (.ok document) where
  document _ hdocument := by
    cases hdocument
    exact h
  failure _ hf := by cases hf

theorem unexpected (u : Unexpected) : ReadsFor path (.error (.unexpected u)) where
  document _ hdocument := by cases hdocument
  failure _ hf := by cases hf

theorem fault (fault : ReadFault) : ReadsFor path (.error (.failure (fault.failure path))) where
  document _ hdocument := by cases hdocument
  failure _ hf := by
    cases hf
    exact ⟨fault, rfl⟩

theorem parse (text : String) : ReadsFor path (Document.parse path text) := by
  unfold Document.parse
  split
  · exact fault _
  · split
    · rename_i content _
      cases content with
      | text found => exact fault found
      | scalar u => exact unexpected u
    · exact ok rfl

theorem ofReading (reading : Except FileFault String) :
    ReadsFor path (Document.ofReading path reading) := by
  unfold Document.ofReading
  split
  · exact parse _
  · exact fault _
  · exact fault _
  · exact unexpected _

theorem requireObject {outcome : Except Problem Document} (h : ReadsFor path outcome) :
    ReadsFor path (outcome >>= Document.requireObject) := by
  cases outcome with
  | error problem => exact ⟨h.document, h.failure⟩
  | ok document =>
    have hpath : document.path = path := h.document document rfl
    change ReadsFor path document.requireObject
    unfold Document.requireObject
    split
    · exact ok hpath
    · rw [hpath]
      exact fault _

variable {τ : Type} (files : FileAccess (StateM τ)) (path : String) (t : τ)

theorem read : ReadsFor path (Document.read files path t).1 := by
  rw [Document.read, bind_apply]
  rcases files.isPresent path t with ⟨missing | _ | _, u⟩
  · exact unexpected _
  · exact fault _
  · cases Format.ofPath path with
    | error unsupported => exact fault unsupported
    | ok format => exact ofReading _

/-- **Reading a document gives one for its path, or fails by a fault of the file there.** -/
theorem readObject : ReadsFor path (Document.readObject files path t).1 :=
  (read files path t).requireObject

end Document.ReadsFor

/-- A document is read for its path, or there is a problem of the path. -/
structure IsReading (path : String) (outcome : Except Problem Document) : Prop where
  document : ∀ document, outcome = .ok document → document.path = path
  problem : ∀ problem, outcome = .error problem → problem.Concerns .reading path

theorem IsReading.readObject {τ : Type} (files : FileAccess (StateM τ)) (path : String) (t : τ) :
    IsReading path (Document.readObject files path t).1 where
  document := (Document.ReadsFor.readObject files path t).document
  problem problem hproblem := by
    cases problem with
    | failure f =>
      obtain ⟨fault, rfl⟩ := (Document.ReadsFor.readObject files path t).failure f hproblem
      exact fault.concerns path
    | unexpected u => exact Problem.concerns_unexpected _ _ u

/-! ### Validation -/

theorem concerns_accept {skipGrammar lenient : Bool} {document : Document} {f : Failure}
    (h : (validate skipGrammar document.content).accept document lenient = .error f) :
    (Problem.failure f).Concerns .validation document.path := by
  unfold Validation.accept at h
  split at h
  · cases h
  · rename_i first rest hfatal
    cases h
    have hmem : first ∈ (validate skipGrammar document.content).issues :=
      List.mem_of_mem_filter (hfatal ▸ List.mem_cons_self)
    exact Problem.concerns_failure (openApiTier.stage_of_mem_issues skipGrammar _ hmem) (.inr rfl)

/-! ### Resolution, extraction and generation -/

theorem Resolution.concerns_check {r : Resolution} {allowLinks allowCircular : Bool} {f : Failure}
    (h : r.check allowLinks allowCircular = .error f) :
    (Problem.failure f).Concerns .resolution r.path := by
  unfold Resolution.check at h
  dsimp only at h
  split at h
  · cases h
    exact Problem.concerns_failure rfl (.inr rfl)
  · split at h
    · cases h
      exact Problem.concerns_failure rfl (.inr rfl)
    · cases h

theorem Api.concerns_extract {path : String} {content : Value} {f : Failure}
    (h : Api.extract path content = .error f) :
    (Problem.failure f).Concerns .extraction path := by
  unfold Api.extract at h
  split at h
  · cases h
  · rename_i fault _
    cases h
    exact Problem.concerns_failure (by cases fault <;> rfl) (.inr (by cases fault <;> rfl))

theorem concerns_writeProblem (directory path : String) (fault : FileFault) :
    (writeProblem directory fault).Concerns .generation path := by
  cases fault with
  | refused message => exact Problem.concerns_failure rfl (.inl rfl)
  | notUtf8 place => exact Problem.concerns_unexpected _ _ _
  | other u => exact Problem.concerns_unexpected _ _ _

theorem Code.concerns_writeAll {τ : Type} {files : FileAccess (StateM τ)} {directory : String}
    {artifacts : List Artifact} {t : τ} {problem : Problem} (path : String)
    (h : (writeAll files directory artifacts t).1 = .error problem) :
    problem.Concerns .generation path := by
  rw [writeAll_eq] at h
  split at h
  · cases h
    exact Problem.concerns_unexpected _ _ _
  · cases h
    exact Problem.concerns_failure rfl (.inl rfl)
  · split at h
    · cases h
      exact concerns_writeProblem directory path _
    · split at h
      · cases h
        exact concerns_writeProblem directory path _
      · cases h

end ClientGen
