import ClientGen.Proofs.Code.Artifact
import ClientGen.Proofs.Files.Program

/-!
# Files that keep what is written to them

`FileAccess.Keeps` says what it takes for files in a directory to keep their texts: a file holds
what is written to it, and goes on holding it through every call that does not write to the same
file.  Then what files hold in the end can be told from the record of what was done to them: `Due`
is the text that was written to a file last, or what it held before.
-/

namespace ClientGen

/-! ### Keeping texts -/

/-- A call with its answer does not write to a file in a directory: it writes nothing, or to a file
of another name. -/
def FileCall.Spares (directory file : String) : (call : FileCall) → call.Answer → Prop
  | .writeText path _, answer =>
    Except.isOk answer = false ∨
      ∃ other, Code.IsFileName other ∧ other ≠ file ∧ path = FilePath.join directory other
  | _, _ => True

/-- Files in a directory keep their texts. -/
structure FileAccess.Keeps {σ : Type} (files : FileAccess (StateM σ)) (directory : String)
    (holds : σ → String → String → Prop) : Prop where
  /-- A file holds one text at a time. -/
  unique : ∀ s path text other, holds s path text → holds s path other → text = other
  /-- A file holds what has been written to it. -/
  written : ∀ s file text, Code.IsFileName file →
    (files.writeText (FilePath.join directory file) text s).1 = .ok () →
      holds (files.writeText (FilePath.join directory file) text s).2
        (FilePath.join directory file) text
  /-- A file goes on holding its text. -/
  spared : ∀ s call file text, Code.IsFileName file → holds s (FilePath.join directory file) text →
    call.Spares directory file (files.answer call s).1 →
      holds (files.answer call s).2 (FilePath.join directory file) text

/-- A file whose name does not start at the root is below its directory. -/
theorem FilePath.join_injective {directory file other : String}
    (hfile : FilePath.isAbsolute file = false)
    (hother : FilePath.isAbsolute other = false)
    (h : FilePath.join directory file = FilePath.join directory other) : file = other := by
  unfold FilePath.join at h
  rw [hfile, hother] at h
  split at h
  · exact h
  · split at h
    · exact (String.append_right_inj _).mp h
    · exact (String.append_right_inj _).mp h

/-! ### What files hold -/

/-- What is written stands in a directory. -/
def WritesIn (directory : String) (record : List FileAttempt) : Prop :=
  ∀ entry ∈ filesWritten record, ∃ file, Code.IsFileName file ∧
    entry.1 = FilePath.join directory file

/-- What a file is to hold: what was written to it last, or else what it held before. -/
def Due (before : String → String → Prop) (record : List FileAttempt) (path text : String) : Prop :=
  Entries.get? path (contentsWritten record) = some text ∨
    path ∉ Entries.keys (contentsWritten record) ∧ before path text

section Due

variable {before : String → String → Prop} {record : List FileAttempt} {path text : String}

theorem contentsWritten_append (record more : List FileAttempt) :
    contentsWritten (record ++ more) =
      Entries.overlay (filesWritten more) (contentsWritten record) := by
  rw [contentsWritten, filesWritten_append, Entries.ofList, Entries.overlay, List.foldl_append]
  rfl

theorem due_nil : Due before [] path text ↔ before path text := by
  constructor
  · rintro (hwritten | ⟨-, hbefore⟩)
    · cases hwritten
    · exact hbefore
  · intro hbefore
    exact .inr ⟨List.not_mem_nil, hbefore⟩

/-- A file that is written is to hold the new text. -/
theorem due_write_self {new : String} :
    Due before (record ++ [⟨.write path new, true⟩]) path text ↔ text = new := by
  have hcontents : contentsWritten (record ++ [⟨.write path new, true⟩]) =
      Entries.put path new (contentsWritten record) := contentsWritten_append _ _
  rw [Due, hcontents, Entries.get?_put_self]
  constructor
  · rintro (hnew | ⟨hnone, -⟩)
    · exact (Option.some.inj hnew).symm
    · exact absurd ((Entries.mem_keys_put ..).mpr (.inl rfl)) hnone
  · rintro rfl
    exact .inl rfl

/-- A file is to hold what it was, if another one is written. -/
theorem due_write_of_ne {other new : String} (hne : path ≠ other) :
    Due before (record ++ [⟨.write other new, true⟩]) path text ↔ Due before record path text := by
  have hcontents : contentsWritten (record ++ [⟨.write other new, true⟩]) =
      Entries.put other new (contentsWritten record) := contentsWritten_append _ _
  rw [Due, Due, hcontents, Entries.get?_put_of_ne hne, Entries.mem_keys_put, not_or]
  exact or_congr_right (and_congr_left' (and_iff_right hne))

theorem due_append_of_nil {more : List FileAttempt} (hmore : filesWritten more = []) :
    Due before (record ++ more) path text ↔ Due before record path text := by
  rw [Due, Due, contentsWritten_append, hmore, Entries.overlay_nil]

end Due

end ClientGen
