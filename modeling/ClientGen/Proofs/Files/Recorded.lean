import ClientGen.Files.Input
import ClientGen.Files.Output
import ClientGen.Proofs.Entries

/-!
# What is written to files

A place for files is anything that answers the calls on files out of a state of its own, so it may
fail at any call.  `FileAccess.recorded` keeps a record beside the state: every call that would
change files, in order, with its success.  Reading a document and looking at the place of a
directory leave the record alone (`Leaves`), and `writeAll_cases` says what writing artifacts puts
on it: the directory first, and then the artifacts in order, each with its whole text, up to the
first that fails.
-/

namespace ClientGen

/-! ### Records -/

/-- A call that would change files. -/
inductive FileChange where
  | write (path text : String)
  | makeDirectory (path : String)
  deriving Repr, DecidableEq

/-- A call that would change files, and whether it succeeded. -/
structure FileAttempt where
  change : FileChange
  succeeded : Bool
  deriving Repr, DecidableEq

/-- The file that an attempt wrote, with its text. -/
def FileAttempt.written? : FileAttempt → Option (String × String)
  | ⟨.write path text, true⟩ => some (path, text)
  | _ => none

/-- The files that were written, with their texts, in order. -/
def filesWritten (record : List FileAttempt) : List (String × String) :=
  record.filterMap FileAttempt.written?

/-- What the files that were written hold: what was written last. -/
def contentsWritten (record : List FileAttempt) : List (String × String) :=
  Entries.ofList (filesWritten record)

theorem filesWritten_append (record more : List FileAttempt) :
    filesWritten (record ++ more) = filesWritten record ++ filesWritten more :=
  List.filterMap_append

namespace FileAccess

variable {σ β : Type}

/-- A call that changes nothing. -/
def unrecorded (call : StateM σ β) : StateM (σ × List FileAttempt) β :=
  fun state => ((call state.1).1, ((call state.1).2, state.2))

/-- A call that would change files. -/
def onRecord (change : FileChange) (call : StateM σ (Except FileFault Unit)) :
    StateM (σ × List FileAttempt) (Except FileFault Unit) :=
  fun state =>
    ((call state.1).1, ((call state.1).2, state.2 ++ [⟨change, (call state.1).1.isOk⟩]))

/-- The calls on files, with those that would change files on record. -/
def recorded (files : FileAccess (StateM σ)) : FileAccess (StateM (σ × List FileAttempt)) where
  isPresent path := unrecorded (files.isPresent path)
  isDirectory path := unrecorded (files.isDirectory path)
  isFile path := unrecorded (files.isFile path)
  readText path := unrecorded (files.readText path)
  writeText path text := onRecord (.write path text) (files.writeText path text)
  makeDirectory path := onRecord (.makeDirectory path) (files.makeDirectory path)

end FileAccess

/-- The second of two actions starts with the state that the first leaves. -/
theorem bind_apply {τ β γ : Type} (action : StateM τ β) (next : β → StateM τ γ) (t : τ) :
    (action >>= next) t = next (action t).1 (action t).2 := rfl

/-- An action leaves the record as it is. -/
def Leaves {σ β : Type} (action : StateM (σ × List FileAttempt) β) : Prop :=
  ∀ state, (action state).2.2 = state.2

namespace Leaves

variable {σ β γ : Type}

theorem pure (b : β) : Leaves (Pure.pure b : StateM (σ × List FileAttempt) β) := fun _ => rfl

theorem bind {action : StateM (σ × List FileAttempt) β}
    {next : β → StateM (σ × List FileAttempt) γ} (haction : Leaves action)
    (hnext : ∀ b, Leaves (next b)) : Leaves (action >>= next) :=
  fun state => (hnext _ _).trans (haction state)

theorem unrecorded (call : StateM σ β) : Leaves (FileAccess.unrecorded call) := fun _ => rfl

end Leaves

section Looking

variable {σ : Type} (files : FileAccess (StateM σ))

theorem leaves_readObject (path : String) :
    Leaves (Document.readObject files.recorded path) := by
  have hread : Leaves (Document.read files.recorded path) := by
    refine (Leaves.unrecorded _).bind fun present => ?_
    split
    · exact .pure _
    · exact .pure _
    · split
      · exact .pure _
      · exact (Leaves.unrecorded _).bind fun _ => .pure _
  exact hread.bind fun _ => .pure _

theorem leaves_isBlocked (directory : String) :
    Leaves (Code.isBlocked files.recorded directory) := by
  refine (Leaves.unrecorded _).bind fun present => ?_
  split
  · exact .pure _
  · exact .pure _
  · refine (Leaves.unrecorded _).bind fun isDirectory => ?_
    split
    · exact .pure _
    · exact .pure _

end Looking

/-! ### Writing artifacts -/

namespace Code

/-- The file that an artifact is in a directory, with its text. -/
def Artifact.placed (directory : String) (artifact : Artifact) : String × String :=
  (FilePath.join directory artifact.file, artifact.content)

/-- An attempt to write an artifact in a directory. -/
def Artifact.attempt (directory : String) (succeeded : Bool) (artifact : Artifact) : FileAttempt :=
  ⟨.write (artifact.placed directory).1 (artifact.placed directory).2, succeeded⟩

theorem filesWritten_attempts (directory : String) (done : List Artifact) :
    filesWritten (done.map (Artifact.attempt directory true)) =
      done.map (Artifact.placed directory) := by
  rw [filesWritten, List.filterMap_map, ← List.filterMap_eq_map]
  rfl

theorem filesWritten_failed (directory : String) (artifact : Artifact) :
    filesWritten [artifact.attempt directory false] = [] := rfl

section Steps

variable {τ : Type} (files : FileAccess (StateM τ)) (directory : String)

theorem writeEach_cons (artifact : Artifact) (rest : List Artifact) (t : τ) :
    writeEach files directory (artifact :: rest) t =
      match files.writeText (artifact.placed directory).1 artifact.content t with
      | (.error fault, u) => (.error fault, u)
      | (.ok (), u) =>
        match writeEach files directory rest u with
        | (.error fault, v) => (.error fault, v)
        | (.ok paths, v) => (.ok ((artifact.placed directory).1 :: paths), v) := by
  rw [writeEach, Artifact.placed, bind_apply]
  rcases files.writeText (FilePath.join directory artifact.file) artifact.content t with
    ⟨fault | ⟨⟨⟩⟩, u⟩
  · rfl
  · dsimp only
    rw [bind_apply]
    rcases writeEach files directory rest u with ⟨fault | paths, v⟩ <;> rfl

theorem writeAll_eq (artifacts : List Artifact) (t : τ) :
    writeAll files directory artifacts t =
      match isBlocked files directory t with
      | (.error fault, u) => (.error (.unexpected fault.unexpected), u)
      | (.ok true, u) => (.error (.failure (notDirectory directory)), u)
      | (.ok false, u) =>
        match files.makeDirectory directory u with
        | (.error fault, v) => (.error (writeProblem directory fault), v)
        | (.ok (), v) =>
          match writeEach files directory artifacts v with
          | (.error fault, w) => (.error (writeProblem directory fault), w)
          | (.ok paths, w) => (.ok paths, w) := by
  rw [writeAll, bind_apply]
  rcases isBlocked files directory t with ⟨fault | _ | _, u⟩
  · rfl
  · dsimp only
    rw [bind_apply]
    rcases files.makeDirectory directory u with ⟨fault | ⟨⟨⟩⟩, v⟩
    · rfl
    · dsimp only
      rw [bind_apply]
      rcases writeEach files directory artifacts v with ⟨fault | paths, w⟩ <;> rfl
  · rfl

end Steps

variable {σ : Type} (files : FileAccess (StateM σ)) (directory : String)

theorem recorded_writeText (artifact : Artifact) (state : σ × List FileAttempt) :
    ∃ outcome s, files.recorded.writeText (artifact.placed directory).1 artifact.content state =
      (outcome, (s, state.2 ++ [artifact.attempt directory outcome.isOk])) :=
  ⟨_, _, rfl⟩

/-- Artifacts are written in order, each with its text, either all of them or those in front of one
that fails. -/
theorem writeEach_cases (artifacts : List Artifact) (state : σ × List FileAttempt) :
    (∃ s, writeEach files.recorded directory artifacts state =
        (.ok (artifacts.map fun artifact => (artifact.placed directory).1),
          (s, state.2 ++ artifacts.map (Artifact.attempt directory true)))) ∨
    ∃ done failing rest fault s, artifacts = done ++ failing :: rest ∧
      writeEach files.recorded directory artifacts state =
        (.error fault, (s, state.2 ++ done.map (Artifact.attempt directory true) ++
          [failing.attempt directory false])) := by
  induction artifacts generalizing state with
  | nil =>
    refine .inl ⟨state.1, ?_⟩
    rw [List.map_nil, List.map_nil, List.append_nil]
    rfl
  | cons artifact rest ih =>
    obtain ⟨outcome, s, hcall⟩ := recorded_writeText files directory artifact state
    rw [writeEach_cons, hcall]
    cases outcome with
    | error fault =>
      refine .inr ⟨[], artifact, rest, fault, s, rfl, ?_⟩
      rw [List.map_nil, List.append_nil]
      rfl
    | ok done =>
      rcases ih (s, state.2 ++ [artifact.attempt directory true]) with
        ⟨s', hall⟩ | ⟨done, failing, left, fault, s', hrest, hsome⟩
      · refine .inl ⟨s', ?_⟩
        dsimp only [Except.isOk, Except.toBool]
        rw [hall]
        simp
      · refine .inr ⟨artifact :: done, failing, left, fault, s', by rw [hrest]; rfl, ?_⟩
        dsimp only [Except.isOk, Except.toBool]
        rw [hsome]
        simp

/-- Writing artifacts makes the directory and then writes them all, or it fails and those that were
written stand in front of the others. -/
theorem writeAll_cases (artifacts : List Artifact) (state : σ × List FileAttempt) :
    (∃ s, writeAll files.recorded directory artifacts state =
        (.ok (artifacts.map fun artifact => (artifact.placed directory).1),
          (s, state.2 ++ ⟨.makeDirectory directory, true⟩ ::
            artifacts.map (Artifact.attempt directory true)))) ∨
    ∃ problem s record done, writeAll files.recorded directory artifacts state =
        (.error problem, (s, state.2 ++ record)) ∧
      done <+: artifacts ∧ filesWritten record = done.map (Artifact.placed directory) := by
  rw [writeAll_eq]
  have hleaves := leaves_isBlocked files directory state
  rcases hblocked : isBlocked files.recorded directory state with ⟨fault | _ | _, s, record⟩ <;>
    rw [hblocked] at hleaves <;> dsimp only at hleaves <;> subst hleaves
  · exact .inr ⟨_, s, [], [], by rw [List.append_nil], List.nil_prefix, rfl⟩
  · obtain ⟨outcome, s', hmake⟩ : ∃ outcome s',
        files.recorded.makeDirectory directory (s, state.2) =
          (outcome, (s', state.2 ++ [⟨.makeDirectory directory, outcome.isOk⟩])) := ⟨_, _, rfl⟩
    dsimp only
    rw [hmake]
    cases outcome with
    | error fault => exact .inr ⟨_, s', _, [], rfl, List.nil_prefix, rfl⟩
    | ok made =>
      dsimp only
      rcases writeEach_cases files directory artifacts
          (s', state.2 ++ [⟨.makeDirectory directory, true⟩]) with
        ⟨s'', hall⟩ | ⟨done, failing, rest, fault, s'', hartifacts, hsome⟩
      · refine .inl ⟨s'', ?_⟩
        dsimp only [Except.isOk, Except.toBool]
        rw [hall]
        simp
      · refine .inr ⟨writeProblem directory fault, s'', [⟨.makeDirectory directory, true⟩] ++
          done.map (Artifact.attempt directory true) ++ [failing.attempt directory false], done,
          ?_, ⟨failing :: rest, hartifacts.symm⟩, ?_⟩
        · dsimp only [Except.isOk, Except.toBool]
          rw [hsome]
          simp
        · rw [filesWritten_append, filesWritten_append, filesWritten_attempts,
            filesWritten_failed, List.append_nil]
          rfl
  · exact .inr ⟨_, s, [], [], by rw [List.append_nil], List.nil_prefix, rfl⟩

end Code

end ClientGen
