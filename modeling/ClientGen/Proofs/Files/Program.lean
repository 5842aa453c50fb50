import ClientGen.Proofs.Files.Recorded

/-!
# Work on files, call by call

`Program.access` answers no call but waits for the answer, so that work on files becomes a
`Program`: the next call, and how the work goes on after each answer.  A program is performed on
files by making its calls in order, and performing the work so obtained is the work on those files
(`performs_readObject`, `performs_writeAll`).

Performing a program does with a record what it does without one (`mimics_perform`).  And what holds
of a program on all files holds of it however the answers come, also when others change the files
between two calls: `Completes` says that a program will come to a good end whatever is answered, and
it stays so with every answer (`Completes.answered`).
-/

namespace ClientGen

/-! ### Calls -/

/-- A call on files. -/
inductive FileCall where
  | isPresent (path : String)
  | isDirectory (path : String)
  | isFile (path : String)
  | readText (path : String)
  | writeText (path text : String)
  | makeDirectory (path : String)
  deriving DecidableEq

namespace FileCall

/-- What a call is answered with. -/
def Answer : FileCall → Type
  | isPresent _ | isDirectory _ | isFile _ => Except FileFault Bool
  | readText _ => Except FileFault String
  | writeText _ _ | makeDirectory _ => Except FileFault Unit

/-- What a call with its answer is on record. -/
def attempts : (call : FileCall) → call.Answer → List FileAttempt
  | isPresent _, _ | isDirectory _, _ | isFile _, _ | readText _, _ => []
  | writeText path text, answer => [⟨.write path text, Except.isOk answer⟩]
  | makeDirectory path, answer => [⟨.makeDirectory path, Except.isOk answer⟩]

/-- The answer of files that refuse everything. -/
def refused : (call : FileCall) → call.Answer
  | isPresent _ | isDirectory _ | isFile _ => (.error (.refused "") : Except FileFault Bool)
  | readText _ => (.error (.refused "") : Except FileFault String)
  | writeText _ _ | makeDirectory _ => (.error (.refused "") : Except FileFault Unit)

end FileCall

namespace FileAccess

variable {m : Type → Type} {τ : Type}

/-- The answer to a call. -/
def answer (files : FileAccess m) : (call : FileCall) → m call.Answer
  | .isPresent path => files.isPresent path
  | .isDirectory path => files.isDirectory path
  | .isFile path => files.isFile path
  | .readText path => files.readText path
  | .writeText path text => files.writeText path text
  | .makeDirectory path => files.makeDirectory path

/-- Files that answer calls in a given way. -/
def ofAnswers (respond : (call : FileCall) → m call.Answer) : FileAccess m where
  isPresent path := respond (.isPresent path)
  isDirectory path := respond (.isDirectory path)
  isFile path := respond (.isFile path)
  readText path := respond (.readText path)
  writeText path text := respond (.writeText path text)
  makeDirectory path := respond (.makeDirectory path)

theorem answer_ofAnswers (respond : (call : FileCall) → m call.Answer) (call : FileCall) :
    (ofAnswers respond).answer call = respond call := by
  cases call <;> rfl

/-- With a record, a call is answered as it is without, and goes on record. -/
theorem answer_recorded (files : FileAccess (StateM τ)) (call : FileCall)
    (state : τ × List FileAttempt) :
    files.recorded.answer call state =
      ((files.answer call state.1).1,
        ((files.answer call state.1).2,
          state.2 ++ call.attempts (files.answer call state.1).1)) := by
  cases call with
  | isPresent path | isDirectory path | isFile path | readText path =>
    rw [FileCall.attempts, List.append_nil]
    rfl
  | writeText path text => rfl
  | makeDirectory path => rfl

end FileAccess

/-! ### Programs -/

/-- Work that is done, or a call and how the work goes on after its answer. -/
inductive Program (α : Type) where
  | done (value : α)
  | call (call : FileCall) (next : call.Answer → Program α)

namespace Program

variable {α β : Type}

/-- Goes on with the value of a program. -/
def andThen : Program α → (α → Program β) → Program β
  | done value, next => next value
  | call c rest, next => call c fun answer => (rest answer).andThen next

instance : Monad Program where
  pure := done
  bind := andThen

/-- The program of one call. -/
def once (c : FileCall) : Program c.Answer :=
  call c done

/-- Files whose answers are waited for. -/
def access : FileAccess Program :=
  FileAccess.ofAnswers once

/-- Makes the calls of a program on files. -/
def perform {τ : Type} (files : FileAccess (StateM τ)) : Program α → StateM τ α
  | done value => pure value
  | call c next => do perform files (next (← files.answer c))

theorem perform_call {τ : Type} (files : FileAccess (StateM τ)) (c : FileCall)
    (next : c.Answer → Program α) (t : τ) :
    (call c next).perform files t =
      (next (files.answer c t).1).perform files (files.answer c t).2 := rfl

theorem perform_bind {τ : Type} (files : FileAccess (StateM τ)) (program : Program α)
    (next : α → Program β) (t : τ) :
    (program >>= next).perform files t =
      (next (program.perform files t).1).perform files (program.perform files t).2 := by
  induction program generalizing t with
  | done value => rfl
  | call c rest ih => exact ih _ _

/-- A program keeps what is on record. -/
theorem prefix_record {σ : Type} (files : FileAccess (StateM σ)) (program : Program α)
    (state : σ × List FileAttempt) :
    state.2 <+: (program.perform files.recorded state).2.2 := by
  induction program generalizing state with
  | done value => exact List.prefix_refl _
  | call c next ih =>
    rw [perform_call, FileAccess.answer_recorded]
    refine (List.prefix_append state.2 (c.attempts (files.answer c state.1).1)).trans ?_
    exact ih _ ((files.answer c state.1).2, state.2 ++ c.attempts (files.answer c state.1).1)

end Program

/-- Performing a program on files is an action on them. -/
def Performs {τ α : Type} (files : FileAccess (StateM τ)) (program : Program α)
    (action : StateM τ α) : Prop :=
  ∀ t, program.perform files t = action t

namespace Performs

variable {τ α β : Type} {files : FileAccess (StateM τ)}

theorem pure (value : α) : Performs files (Pure.pure value) (Pure.pure value) := fun _ => rfl

theorem bind {program : Program α} {action : StateM τ α} {next : α → Program β}
    {follow : α → StateM τ β} (h : Performs files program action)
    (hnext : ∀ value, Performs files (next value) (follow value)) :
    Performs files (program >>= next) (action >>= follow) := by
  intro t
  rw [Program.perform_bind, bind_apply, h]
  exact hnext _ _

theorem isPresent (path : String) :
    Performs files (Program.access.isPresent path) (files.isPresent path) := fun _ => rfl

theorem isDirectory (path : String) :
    Performs files (Program.access.isDirectory path) (files.isDirectory path) := fun _ => rfl

theorem readText (path : String) :
    Performs files (Program.access.readText path) (files.readText path) := fun _ => rfl

theorem writeText (path text : String) :
    Performs files (Program.access.writeText path text) (files.writeText path text) := fun _ => rfl

theorem makeDirectory (path : String) :
    Performs files (Program.access.makeDirectory path) (files.makeDirectory path) := fun _ => rfl

end Performs

section Reading

variable {τ : Type} (files : FileAccess (StateM τ))

theorem performs_readObject (path : String) :
    Performs files (Document.readObject Program.access path) (Document.readObject files path) := by
  have hread : Performs files (Document.read Program.access path) (Document.read files path) := by
    refine (Performs.isPresent path).bind fun present => ?_
    rcases present with fault | _ | _
    · exact .pure _
    · exact .pure _
    · dsimp only
      cases Format.ofPath path with
      | error fault => exact .pure _
      | ok format => exact (Performs.readText path).bind fun _ => .pure _
  exact hread.bind fun _ => .pure _

theorem performs_isBlocked (directory : String) :
    Performs files (Code.isBlocked Program.access directory) (Code.isBlocked files directory) := by
  refine (Performs.isPresent directory).bind fun present => ?_
  rcases present with fault | _ | _
  · exact .pure _
  · exact .pure _
  · refine (Performs.isDirectory directory).bind fun isDirectory => ?_
    cases isDirectory <;> exact .pure _

theorem performs_writeEach (directory : String) (artifacts : List Code.Artifact) :
    Performs files (Code.writeEach Program.access directory artifacts)
      (Code.writeEach files directory artifacts) := by
  induction artifacts with
  | nil => exact .pure _
  | cons artifact rest ih =>
    refine (Performs.writeText _ _).bind fun outcome => ?_
    rcases outcome with fault | ⟨⟨⟩⟩
    · exact .pure _
    · refine ih.bind fun paths => ?_
      cases paths <;> exact .pure _

theorem performs_writeAll (directory : String) (artifacts : List Code.Artifact) :
    Performs files (Code.writeAll Program.access directory artifacts)
      (Code.writeAll files directory artifacts) := by
  refine (performs_isBlocked files directory).bind fun blocked => ?_
  rcases blocked with fault | _ | _
  · exact .pure _
  · refine (Performs.makeDirectory directory).bind fun outcome => ?_
    rcases outcome with fault | ⟨⟨⟩⟩
    · exact .pure _
    · refine (performs_writeEach files directory artifacts).bind fun paths => ?_
      cases paths <;> exact .pure _
  · exact .pure _

end Reading

/-! ### Records -/

/-- An action does with a record what another one does without. -/
def Mimics {σ β : Type} (action : StateM (σ × List FileAttempt) β) (plain : StateM σ β) : Prop :=
  ∀ s record, (action (s, record)).1 = (plain s).1 ∧ (action (s, record)).2.1 = (plain s).2

section Recorded

variable {σ α : Type} (files : FileAccess (StateM σ))

/-- The calls of a program are answered with a record as they are without. -/
theorem mimics_perform (program : Program α) :
    Mimics (program.perform files.recorded) (program.perform files) := by
  intro s record
  induction program generalizing s record with
  | done value => exact ⟨rfl, rfl⟩
  | call c next ih =>
    rw [Program.perform_call, Program.perform_call, FileAccess.answer_recorded]
    exact ih _ _ _

theorem Performs.mimics {program : Program α} {action : StateM (σ × List FileAttempt) α}
    {plain : StateM σ α} (haction : Performs files.recorded program action)
    (hplain : Performs files program plain) : Mimics action plain := by
  intro s record
  rw [← haction, ← hplain]
  exact mimics_perform files program s record

theorem mimics_readObject (path : String) :
    Mimics (Document.readObject files.recorded path) (Document.readObject files path) :=
  (performs_readObject files.recorded path).mimics files (performs_readObject files path)

theorem mimics_writeAll (directory : String) (artifacts : List Code.Artifact) :
    Mimics (Code.writeAll files.recorded directory artifacts)
      (Code.writeAll files directory artifacts) :=
  (performs_writeAll files.recorded directory artifacts).mimics files
    (performs_writeAll files directory artifacts)

end Recorded

/-! ### Answers from elsewhere -/

namespace FileAccess

variable {τ : Type} (c : FileCall) (given : c.Answer) (files : FileAccess (StateM τ))

/-- Files that answer the next such call in a given way, and all others like some files; the state
tells whether the answer was given. -/
def onceAnswering : FileAccess (StateM (Bool × τ)) :=
  ofAnswers fun call state =>
    if h : state.1 = false ∧ call = c then (h.2 ▸ given, (true, state.2))
    else ((files.answer call state.2).1, (state.1, (files.answer call state.2).2))

theorem onceAnswering_first (t : τ) :
    (files.onceAnswering c given).answer c (false, t) = (given, (true, t)) := by
  rw [onceAnswering, answer_ofAnswers, dif_pos ⟨rfl, rfl⟩]

theorem onceAnswering_later (call : FileCall) (t : τ) :
    (files.onceAnswering c given).answer call (true, t) =
      ((files.answer call t).1, (true, (files.answer call t).2)) := by
  rw [onceAnswering, answer_ofAnswers, dif_neg fun h => Bool.noConfusion h.1]

/-- Once the answer was given, a program goes on as on the other files. -/
theorem perform_onceAnswering {α : Type} (program : Program α) (t : τ) (record : List FileAttempt) :
    (program.perform (files.onceAnswering c given).recorded ((true, t), record)).1 =
      (program.perform files.recorded (t, record)).1 ∧
    (program.perform (files.onceAnswering c given).recorded ((true, t), record)).2.2 =
      (program.perform files.recorded (t, record)).2.2 := by
  induction program generalizing t record with
  | done value => exact ⟨rfl, rfl⟩
  | call other next ih =>
    rw [Program.perform_call, Program.perform_call, answer_recorded, answer_recorded,
      onceAnswering_later]
    exact ih _ _ _

end FileAccess

/-- A program comes to an end of which `Q` holds with the record, whatever files it is performed on
from here on. -/
def Completes {α : Type} (Q : α → List FileAttempt → Prop) (program : Program α)
    (record : List FileAttempt) : Prop :=
  ∀ (τ : Type) (files : FileAccess (StateM τ)) (t : τ),
    Q (program.perform files.recorded (t, record)).1
      (program.perform files.recorded (t, record)).2.2

namespace Completes

variable {α : Type} {Q : α → List FileAttempt → Prop} {record : List FileAttempt}

theorem done {value : α} (h : Completes Q (.done value) record) : Q value record :=
  h Unit (FileAccess.ofAnswers fun call _ => (call.refused, ())) ()

/-- The record so far stands in front of one with which the program comes to a good end. -/
theorem exists_extension {program : Program α} (h : Completes Q program record) :
    ∃ value whole, Q value whole ∧ record <+: whole := by
  set refusing : FileAccess (StateM Unit) := .ofAnswers fun call _ => (call.refused, ())
  exact ⟨_, _, h Unit refusing (), program.prefix_record refusing ((), record)⟩

/-- Whatever a call is answered, the program still comes to a good end. -/
theorem answered {c : FileCall} {next : c.Answer → Program α}
    (h : Completes Q (.call c next) record) (given : c.Answer) :
    Completes Q (next given) (record ++ c.attempts given) := by
  intro τ files t
  -- Files that give this answer first, and then are like those on which the rest is performed.
  have hfirst := h (Bool × τ) (files.onceAnswering c given) (false, t)
  rw [Program.perform_call, FileAccess.answer_recorded, FileAccess.onceAnswering_first] at hfirst
  obtain ⟨hvalue, hrecord⟩ := FileAccess.perform_onceAnswering c given files (next given) t
    (record ++ c.attempts given)
  rw [← hvalue, ← hrecord]
  exact hfirst

end Completes

end ClientGen
