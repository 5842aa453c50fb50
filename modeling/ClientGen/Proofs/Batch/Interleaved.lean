import ClientGen.Proofs.Batch.Pool
import ClientGen.Proofs.Files.Kept
import Mathlib.Logic.Function.Basic
import Mathlib.Logic.Relation

/-!
# Work that goes on at the same time

A `Crew` works on the tasks of a pool call by call: any task that is being worked on may make its
next call, so the calls on files come in any order that leaves the calls of each task in theirs.
`Crew.Step` is one such call, or a move of the pool, and `Crew.Reaches` any number of them.

What each task did to files stands on the common record, in its order, and all that is on the record
some task did: this is kept by every step (`Accounts.step`), and so by every run
(`Accounts.reaches`).  If the work on each task comes to a good end whatever it is answered, then
the results of a crew that has ended and its record belong together (`belongTogether_of_reaches`).
And files that keep their texts hold what was written to them last, or what they held before
(`stores_of_reaches`).

A pool whose tasks are worked off one at a time is a crew as well: whatever the schedule, a crew
reaches what `Pool.run` comes to (`exists_reaches_run`).
-/

namespace ClientGen

/-- A pool whose tasks are worked on at the same time: what is left to do for each task, what the
work on it did to files so far, and the files with what was done to them by all. -/
structure Crew (σ β : Type) where
  pool : Pool β
  left : Nat → Program β
  own : Nat → List FileAttempt
  state : σ × List FileAttempt

namespace Crew

variable {σ β : Type}

/-- A crew before it starts on the first tasks. -/
def start (programs : Nat → Program β) (count : Nat) (s : σ) : Crew σ β :=
  ⟨Pool.start count, programs, fun _ => [], (s, [])⟩

/-- The work on a task makes a call, and goes on with its answer. -/
def goOn (files : FileAccess (StateM σ)) (task : Nat) (c : FileCall)
    (next : c.Answer → Program β) (crew : Crew σ β) : Crew σ β where
  pool := crew.pool
  left := Function.update crew.left task (next (files.recorded.answer c crew.state).1)
  own := Function.update crew.own task
    (crew.own task ++ c.attempts (files.recorded.answer c crew.state).1)
  state := (files.recorded.answer c crew.state).2

/-- The work on a task ends with a value. -/
def finish (task : Nat) (value : β) (crew : Crew σ β) : Crew σ β :=
  { crew with pool := { crew.pool with
      running := crew.pool.running.erase task
      done := crew.pool.done ++ [(task, value)] } }

section Steps

variable (files : FileAccess (StateM σ)) (workers : Nat) (alarms : β → Bool)

/-- What happens next in a crew. -/
inductive Step : Crew σ β → Crew σ β → Prop
  /-- A free worker takes the first task that waits. -/
  | take (crew : Crew σ β) : Step crew { crew with pool := crew.pool.take workers }
  /-- A task that is being worked on makes its next call. -/
  | call {crew : Crew σ β} {task : Nat} {c : FileCall} {next : c.Answer → Program β}
      (hrunning : task ∈ crew.pool.running) (hleft : crew.left task = .call c next) :
      Step crew (crew.goOn files task c next)
  /-- The work on a task has no call left. -/
  | finish {crew : Crew σ β} {task : Nat} {value : β} (hrunning : task ∈ crew.pool.running)
      (hleft : crew.left task = .done value) : Step crew (crew.finish task value)
  /-- The result of a task is looked at. -/
  | look (crew : Crew σ β) (task : Nat) : Step crew { crew with pool := crew.pool.look alarms task }
  /-- A task that waits is given up. -/
  | giveUp (crew : Crew σ β) (task : Nat) : Step crew { crew with pool := crew.pool.giveUp task }

/-- A crew comes from another one by steps. -/
def Reaches : Crew σ β → Crew σ β → Prop :=
  Relation.ReflTransGen (Step files workers alarms)

end Steps

/-- No task is being worked on, and none waits unless there has been an alarm. -/
def HasEnded (crew : Crew σ β) : Prop :=
  crew.pool.running = [] ∧ (crew.pool.waiting = [] ∨ crew.pool.alarmed = true)

/-- The results of the first tasks, in their order. -/
def results (count : Nat) (crew : Crew σ β) : List β :=
  (List.range count).filterMap crew.pool.result?

end Crew

/-! ### What every step keeps -/

/-- Results and a record of what was done to files belong together: `Q` holds of each result with
what the work on it did, which stands on the record in order, and nothing else is on the record. -/
structure BelongTogether {β : Type} (Q : β → List FileAttempt → Prop) (results : List β)
    (record : List FileAttempt) : Prop where
  onRecord : ∀ value ∈ results, ∃ own, Q value own ∧ own.Sublist record
  accounted : ∀ attempt ∈ record, ∃ value ∈ results, ∃ own, Q value own ∧ attempt ∈ own

namespace Crew

variable {σ β : Type} {Q : β → List FileAttempt → Prop} {count : Nat}

/-- A crew whose record is accounted for, and whose work will come to a good end. -/
structure Accounts (Q : β → List FileAttempt → Prop) (count : Nat) (crew : Crew σ β) : Prop where
  /-- What is left of a task comes to a good end with what it did so far. -/
  completes : ∀ task, Completes Q (crew.left task) (crew.own task)
  /-- Of a task that is done nothing is left but its result. -/
  results : ∀ entry ∈ crew.pool.done, crew.left entry.1 = .done entry.2
  /-- What a task did is on record, in its order. -/
  onRecord : ∀ task, (crew.own task).Sublist crew.state.2
  /-- All that is on record a task did that is being worked on, or is done. -/
  accounted : ∀ attempt ∈ crew.state.2, ∃ task, attempt ∈ crew.own task ∧
    (task ∈ crew.pool.running ∨ task ∈ crew.pool.done.map Prod.fst)
  /-- Its tasks are among the first ones. -/
  below : ∀ task, crew.pool.Holds task → task < count

theorem accounts_start {programs : Nat → Program β} (h : ∀ task, Completes Q (programs task) [])
    (s : σ) : Accounts Q count (start programs count s) where
  completes := h
  results entry hentry := by cases hentry
  onRecord task := List.Sublist.slnil
  accounted attempt hattempt := by cases hattempt
  below task htask := by
    rcases htask with hwaiting | hrunning | hdone
    · exact List.mem_range.mp hwaiting
    · cases hrunning
    · cases hdone

section Keeping

variable {crew : Crew σ β}

/-- A move of the pool that ends no work leaves the accounts as they are. -/
theorem Accounts.of_pool {pool : Pool β} (h : Accounts Q count crew)
    (hrunning : ∀ task ∈ crew.pool.running, task ∈ pool.running)
    (hdone : pool.done = crew.pool.done)
    (hholds : ∀ task, pool.Holds task → crew.pool.Holds task) :
    Accounts Q count { crew with pool } where
  completes := h.completes
  results entry hentry := h.results entry (hdone ▸ hentry)
  onRecord := h.onRecord
  accounted attempt hattempt := by
    obtain ⟨task, hown, htask⟩ := h.accounted attempt hattempt
    refine ⟨task, hown, ?_⟩
    rw [hdone]
    exact htask.imp_left (hrunning task)
  below task htask := h.below task (hholds task htask)

theorem Accounts.take (workers : Nat) (h : Accounts Q count crew) :
    Accounts Q count { crew with pool := crew.pool.take workers } := by
  rcases Pool.take_cases workers crew.pool with heq | ⟨first, rest, hwaiting, -, heq⟩
  · rw [heq]
    exact h
  · rw [heq]
    refine h.of_pool (fun task htask => List.mem_append_left _ htask) rfl fun task htask => ?_
    simp only [Pool.Holds, hwaiting, List.mem_cons, List.mem_append] at htask ⊢
    tauto

theorem Accounts.look (alarms : β → Bool) (task : Nat) (h : Accounts Q count crew) :
    Accounts Q count { crew with pool := crew.pool.look alarms task } := by
  rcases Pool.look_cases alarms task crew.pool with heq | ⟨value, -, heq⟩
  · rw [heq]
    exact h
  · rw [heq]
    exact h.of_pool (fun _ => id) rfl fun _ => id

theorem Accounts.giveUp (task : Nat) (h : Accounts Q count crew) :
    Accounts Q count { crew with pool := crew.pool.giveUp task } := by
  rcases Pool.giveUp_cases task crew.pool with heq | ⟨-, heq⟩
  · rw [heq]
    exact h
  · rw [heq]
    exact h.of_pool (fun _ => id) rfl fun other hother => hother.imp_left List.mem_of_mem_erase

theorem Accounts.finish {task : Nat} {value : β} (h : Accounts Q count crew)
    (hrunning : task ∈ crew.pool.running) (hleft : crew.left task = .done value) :
    Accounts Q count (crew.finish task value) where
  completes := h.completes
  results entry hentry := by
    rcases List.mem_append.mp hentry with hold | hnew
    · exact h.results entry hold
    · cases List.mem_singleton.mp hnew
      exact hleft
  onRecord := h.onRecord
  accounted attempt hattempt := by
    obtain ⟨other, hown, hother⟩ := h.accounted attempt hattempt
    refine ⟨other, hown, ?_⟩
    simp only [Crew.finish, List.map_append, List.mem_append, List.map_cons, List.map_nil,
      List.mem_singleton]
    by_cases heq : other = task
    · exact .inr (.inr heq)
    · rw [List.mem_erase_of_ne heq]
      exact hother.imp_right .inl
  below other hother := by
    refine h.below other ?_
    simp only [Pool.Holds, Crew.finish, List.map_append, List.mem_append, List.map_cons,
      List.map_nil, List.mem_singleton] at hother ⊢
    rcases hother with hwaiting | herased | hdone | rfl
    · exact .inl hwaiting
    · exact .inr (.inl (List.mem_of_mem_erase herased))
    · exact .inr (.inr hdone)
    · exact .inr (.inl hrunning)

variable (files : FileAccess (StateM σ))

/-- A call changes what is left and what is done of its own task alone. -/
theorem Accounts.goOn {task : Nat} {c : FileCall} {next : c.Answer → Program β}
    (h : Accounts Q count crew) (hrunning : task ∈ crew.pool.running)
    (hleft : crew.left task = .call c next) : Accounts Q count (crew.goOn files task c next) := by
  have hrecord : (crew.goOn files task c next).state.2 =
      crew.state.2 ++ c.attempts (files.recorded.answer c crew.state).1 := by
    rw [Crew.goOn, FileAccess.answer_recorded]
  refine ⟨fun other => ?_, fun entry hentry => ?_, fun other => ?_, fun attempt hattempt => ?_,
    h.below⟩
  · by_cases heq : other = task
    · subst heq
      have hcompletes := h.completes other
      rw [hleft] at hcompletes
      simp only [Crew.goOn, Function.update_self]
      exact hcompletes.answered _
    · simp only [Crew.goOn, Function.update_of_ne heq]
      exact h.completes other
  · -- The task is not done, since it still had a call to make.
    have hne : entry.1 ≠ task := by
      intro heq
      have hdone := h.results entry hentry
      rw [heq, hleft] at hdone
      cases hdone
    simp only [Crew.goOn, Function.update_of_ne hne]
    exact h.results entry hentry
  · rw [hrecord]
    by_cases heq : other = task
    · subst heq
      simp only [Crew.goOn, Function.update_self]
      exact (h.onRecord other).append (List.Sublist.refl _)
    · simp only [Crew.goOn, Function.update_of_ne heq]
      exact (h.onRecord other).trans (List.sublist_append_left _ _)
  · rw [hrecord] at hattempt
    rcases List.mem_append.mp hattempt with hold | hnew
    · obtain ⟨other, hown, hother⟩ := h.accounted attempt hold
      refine ⟨other, ?_, hother⟩
      by_cases heq : other = task
      · subst heq
        simp only [Crew.goOn, Function.update_self]
        exact List.mem_append_left _ hown
      · simp only [Crew.goOn, Function.update_of_ne heq]
        exact hown
    · refine ⟨task, ?_, .inl hrunning⟩
      simp only [Crew.goOn, Function.update_self]
      exact List.mem_append_right _ hnew

variable {files} {workers : Nat} {alarms : β → Bool} {other : Crew σ β}

/-- Every step keeps the accounts. -/
theorem Accounts.step (h : Accounts Q count crew) (hstep : Step files workers alarms crew other) :
    Accounts Q count other := by
  cases hstep with
  | take => exact h.take workers
  | call hrunning hleft => exact h.goOn files hrunning hleft
  | finish hrunning hleft => exact h.finish hrunning hleft
  | look task => exact h.look alarms task
  | giveUp task => exact h.giveUp task

/-- Every run keeps the accounts. -/
theorem Accounts.reaches (h : Accounts Q count crew)
    (hreaches : Reaches files workers alarms crew other) : Accounts Q count other := by
  induction hreaches with
  | refl => exact h
  | tail _ hstep ih => exact ih.step hstep

/-- The results of a crew are those of its tasks that are done. -/
theorem Accounts.mem_results_iff (h : Accounts Q count crew) {value : β} :
    value ∈ crew.results count ↔ ∃ task, (task, value) ∈ crew.pool.done := by
  rw [Crew.results, List.mem_filterMap]
  constructor
  · rintro ⟨task, -, hresult⟩
    exact ⟨task, Pool.mem_done_of_result? hresult⟩
  · rintro ⟨task, hdone⟩
    have hmem : task ∈ crew.pool.done.map Prod.fst := List.mem_map_of_mem hdone
    obtain ⟨found, hfound⟩ := Pool.exists_result?_of_mem hmem
    -- A task has one result only, since nothing else is left of it.
    have hvalue : Program.done found = .done value :=
      (h.results _ (Pool.mem_done_of_result? hfound)).symm.trans (h.results _ hdone)
    rw [Program.done.inj hvalue] at hfound
    exact ⟨task, List.mem_range.mpr (h.below task (.inr (.inr hmem))), hfound⟩

/-- When the work of a crew has ended, its results and its record belong together. -/
theorem Accounts.belongTogether (h : Accounts Q count crew) (hended : crew.HasEnded) :
    BelongTogether Q (crew.results count) crew.state.2 := by
  have hgood : ∀ entry ∈ crew.pool.done, Q entry.2 (crew.own entry.1) := by
    intro entry hentry
    have hcompletes := h.completes entry.1
    rw [h.results entry hentry] at hcompletes
    exact hcompletes.done
  refine ⟨fun value hvalue => ?_, fun attempt hattempt => ?_⟩
  · obtain ⟨task, hdone⟩ := h.mem_results_iff.mp hvalue
    exact ⟨crew.own task, hgood _ hdone, h.onRecord task⟩
  · obtain ⟨task, hown, htask⟩ := h.accounted attempt hattempt
    rw [hended.1] at htask
    obtain ⟨entry, hentry, rfl⟩ := List.mem_map.mp (htask.resolve_left List.not_mem_nil)
    exact ⟨entry.2, h.mem_results_iff.mpr ⟨entry.1, hentry⟩, crew.own entry.1, hgood entry hentry,
      hown⟩

/-- **Work that goes on at the same time** and comes to a good end whatever it is answered has
results that belong together with what is on record. -/
theorem belongTogether_of_reaches {programs : Nat → Program β} {s : σ}
    (hprograms : ∀ task, Completes Q (programs task) [])
    (hreaches : Reaches files workers alarms (start programs count s) crew)
    (hended : crew.HasEnded) : BelongTogether Q (crew.results count) crew.state.2 :=
  ((accounts_start hprograms s).reaches hreaches).belongTogether hended

end Keeping

/-! ### Files that keep their texts -/

section Storing

variable {files : FileAccess (StateM σ)} {workers : Nat} {alarms : β → Bool}
  {directory : String} {holds : σ → String → String → Prop} {before : String → String → Prop}
  {crew other : Crew σ β}

/-- The files of a crew in a directory hold what they are to hold. -/
def Stores (directory : String) (holds : σ → String → String → Prop)
    (before : String → String → Prop) (crew : Crew σ β) : Prop :=
  ∀ file text, Code.IsFileName file →
    Due before crew.state.2 (FilePath.join directory file) text →
      holds crew.state.1 (FilePath.join directory file) text

/-- A call writes a file, or spares all of them. -/
theorem writes_or_spares (directory : String) (c : FileCall) (answer : c.Answer) :
    (∃ path new, c = .writeText path new ∧ c.attempts answer = [⟨.write path new, true⟩]) ∨
      filesWritten (c.attempts answer) = [] ∧ ∀ file, c.Spares directory file answer := by
  cases c with
  | isPresent path | isDirectory path | isFile path | readText path | makeDirectory path =>
    exact .inr ⟨rfl, fun _ => trivial⟩
  | writeText path new =>
    cases answer with
    | error fault => exact .inr ⟨rfl, fun _ => .inl rfl⟩
    | ok done => exact .inl ⟨path, new, rfl, rfl⟩

/-- What a call writes is held, and all else is held on. -/
theorem Stores.goOn {task : Nat} {c : FileCall} {next : c.Answer → Program β}
    (hkeeps : files.Keeps directory holds) (h : Stores directory holds before crew)
    (hin : WritesIn directory (c.attempts (files.answer c crew.state.1).1)) :
    Stores directory holds before (crew.goOn files task c next) := by
  intro file text hfile hdue
  rw [Crew.goOn, FileAccess.answer_recorded] at hdue ⊢
  dsimp only at hdue ⊢
  rcases writes_or_spares directory c (files.answer c crew.state.1).1 with
    ⟨path, new, rfl, hattempts⟩ | ⟨hnone, hspares⟩
  · rw [hattempts] at hdue hin
    obtain ⟨name, hname, hpath⟩ := hin (path, new) List.mem_cons_self
    have hok : (files.writeText path new crew.state.1).1 = .ok () := by
      have hsucceeded : Except.isOk (files.writeText path new crew.state.1).1 = true :=
        congrArg FileAttempt.succeeded (List.cons.inj hattempts).1
      cases houtcome : (files.writeText path new crew.state.1).1 with
      | error fault =>
        rw [houtcome] at hsucceeded
        cases hsucceeded
      | ok done => rfl
    cases hpath
    by_cases hsame : name = file
    · subst hsame
      cases due_write_self.mp hdue
      exact hkeeps.written crew.state.1 name text hfile hok
    · have hne : FilePath.join directory file ≠ FilePath.join directory name := by
        intro heq
        exact hsame (FilePath.join_injective hfile.isAbsolute_eq_false
          hname.isAbsolute_eq_false heq).symm
      exact hkeeps.spared crew.state.1 (.writeText (FilePath.join directory name) new) file text
        hfile (h file text hfile ((due_write_of_ne hne).mp hdue)) (.inr ⟨name, hname, hsame, rfl⟩)
  · exact hkeeps.spared crew.state.1 c file text hfile
      (h file text hfile ((due_append_of_nil hnone).mp hdue)) (hspares file)

/-- What the tasks of a crew wrote stands in a directory, if it does so at a good end. -/
theorem Accounts.writesIn (h : Accounts Q count crew)
    (hQ : ∀ value own, Q value own → WritesIn directory own) (task : Nat) :
    WritesIn directory (crew.own task) := by
  obtain ⟨value, whole, hgood, hfront⟩ := (h.completes task).exists_extension
  intro entry hentry
  exact hQ value whole hgood entry ((hfront.sublist.filterMap _).subset hentry)

/-- **Files that keep their texts** hold in the end what was written to them last. -/
theorem stores_of_reaches {programs : Nat → Program β} {s : σ}
    (hprograms : ∀ task, Completes Q (programs task) [])
    (hQ : ∀ value own, Q value own → WritesIn directory own)
    (hkeeps : files.Keeps directory holds)
    (hreaches : Reaches files workers alarms (start programs count s) crew) :
    Stores directory holds (holds s) crew := by
  have haccounts : Accounts Q count (start programs count s) := accounts_start hprograms s
  induction hreaches with
  | refl => exact fun file text hfile hdue => due_nil.mp hdue
  | tail hbefore hstep ih =>
    have hlater := (haccounts.reaches hbefore).step hstep
    cases hstep with
    | take => exact ih
    | finish => exact ih
    | look => exact ih
    | giveUp => exact ih
    | @call task c next hrunning hleft =>
      refine ih.goOn hkeeps fun entry hentry => ?_
      have hown := hlater.writesIn hQ task
      rw [Crew.goOn, FileAccess.answer_recorded] at hown
      dsimp only at hown
      rw [Function.update_self] at hown
      refine hown entry ?_
      rw [filesWritten_append]
      exact List.mem_append_right _ hentry

end Storing

/-! ### Pools that work by a schedule -/

section Scheduled

variable (files : FileAccess (StateM σ)) (workers : Nat) (alarms : β → Bool)

/-- A crew makes all the calls of a task that is being worked on, and ends the work on it. -/
theorem exists_reaches_finish {crew : Crew σ β} {task : Nat} {program : Program β}
    (hrunning : task ∈ crew.pool.running) (hleft : crew.left task = program) :
    ∃ after, Reaches files workers alarms crew after ∧
      after.pool =
        { crew.pool with
          running := crew.pool.running.erase task
          done := crew.pool.done ++ [(task, (program.perform files crew.state.1).1)] } ∧
      after.state.1 = (program.perform files crew.state.1).2 ∧
      ∀ other, other ≠ task → after.left other = crew.left other := by
  induction program generalizing crew with
  | done value =>
    exact ⟨crew.finish task value, .single (.finish hrunning hleft), rfl, rfl, fun _ _ => rfl⟩
  | call c next ih =>
    have hstill : task ∈ (crew.goOn files task c next).pool.running := hrunning
    have hnext : (crew.goOn files task c next).left task =
        next (files.answer c crew.state.1).1 := by
      rw [goOn, FileAccess.answer_recorded]
      exact Function.update_self ..
    have hstate : (crew.goOn files task c next).state.1 = (files.answer c crew.state.1).2 := by
      rw [goOn, FileAccess.answer_recorded]
    obtain ⟨after, hreaches, hpool, hafter, hothers⟩ := ih _ hstill hnext
    rw [hstate] at hpool hafter
    refine ⟨after, .head (.call hrunning hleft) hreaches, hpool, hafter, fun other hother => ?_⟩
    rw [hothers other hother]
    exact Function.update_of_ne hother ..

/-- A crew is where a pool is, with all of the work left on the tasks that wait or are being worked
on. -/
structure Follows (programs : Nat → Program β) (pool : Pool β) (state : σ)
    (crew : Crew σ β) : Prop where
  samePool : crew.pool = pool
  sameState : crew.state.1 = state
  fresh : ∀ task ∈ pool.waiting ++ pool.running, crew.left task = programs task
  distinct : (pool.waiting ++ pool.running).Nodup

namespace Follows

variable {programs : Nat → Program β} {pool : Pool β} {state : σ}
  {crew : Crew σ β}

theorem start (count : Nat) (s : σ) :
    Follows programs (Pool.start count) s (Crew.start programs count s) where
  samePool := rfl
  sameState := rfl
  fresh _ _ := rfl
  distinct := by
    rw [Pool.start, List.append_nil]
    exact List.nodup_range

/-- A crew still follows a pool if tasks that wait are taken or given up. -/
theorem of_pool {other : Pool β} (h : Follows programs pool state crew)
    (hsubset : ∀ task ∈ other.waiting ++ other.running, task ∈ pool.waiting ++ pool.running)
    (hdistinct : (other.waiting ++ other.running).Nodup) :
    Follows programs other state { crew with pool := other } where
  samePool := rfl
  sameState := h.sameState
  fresh task htask := h.fresh task (hsubset task htask)
  distinct := hdistinct

theorem take (h : Follows programs pool state crew) :
    Follows programs (pool.take workers) state { crew with pool := pool.take workers } := by
  rcases Pool.take_cases workers pool with heq | ⟨first, rest, hwaiting, -, heq⟩
  · rw [heq]
    exact h.of_pool (fun _ => id) h.distinct
  · rw [heq]
    have hperm : (rest ++ (pool.running ++ [first])).Perm (pool.waiting ++ pool.running) := by
      rw [hwaiting, ← List.append_assoc, List.cons_append]
      exact List.perm_append_singleton first (rest ++ pool.running)
    exact h.of_pool (fun task htask => hperm.subset htask) (hperm.nodup_iff.mpr h.distinct)

theorem look (task : Nat) (h : Follows programs pool state crew) :
    Follows programs (pool.look alarms task) state
      { crew with pool := pool.look alarms task } := by
  rcases Pool.look_cases alarms task pool with heq | ⟨value, -, heq⟩
  · rw [heq]
    exact h.of_pool (fun _ => id) h.distinct
  · rw [heq]
    exact h.of_pool (fun _ => id) h.distinct

theorem giveUp (task : Nat) (h : Follows programs pool state crew) :
    Follows programs (pool.giveUp task) state { crew with pool := pool.giveUp task } := by
  rcases Pool.giveUp_cases task pool with heq | ⟨-, heq⟩
  · rw [heq]
    exact h.of_pool (fun _ => id) h.distinct
  · rw [heq]
    have hsublist : (pool.waiting.erase task ++ pool.running).Sublist
        (pool.waiting ++ pool.running) := List.erase_sublist.append (List.Sublist.refl _)
    exact h.of_pool (fun other hother => hsublist.subset hother) (h.distinct.sublist hsublist)

/-- A crew follows a pool that ends the work on a task. -/
theorem finish {task : Nat} (h : Follows programs pool state crew)
    (htask : task ∈ pool.running) :
    ∃ after, Reaches files workers alarms crew after ∧
      Follows programs
        { pool with
          running := pool.running.erase task
          done := pool.done ++ [(task, ((programs task).perform files state).1)] }
        ((programs task).perform files state).2 after := by
  obtain ⟨rfl, rfl, hfresh, hdistinct⟩ := h
  obtain ⟨after, hreaches, hpool, hstate, hothers⟩ :=
    exists_reaches_finish files workers alarms htask (hfresh task (List.mem_append_right _ htask))
  have hsublist : (crew.pool.waiting ++ crew.pool.running.erase task).Sublist
      (crew.pool.waiting ++ crew.pool.running) :=
    (List.Sublist.refl _).append List.erase_sublist
  refine ⟨after, hreaches, hpool, hstate, fun other hother => ?_, hdistinct.sublist hsublist⟩
  -- No task waits or is being worked on twice, so the one that is done is not met again.
  have hne : other ≠ task := by
    rintro rfl
    obtain ⟨-, hrunning, hdisjoint⟩ := List.nodup_append.mp hdistinct
    rcases List.mem_append.mp hother with hwaiting | herased
    · exact hdisjoint other hwaiting other htask rfl
    · exact hrunning.not_mem_erase herased
  rw [hothers other hne]
  exact hfresh other (hsublist.subset hother)

/-- Working off tasks leaves those that wait or are being worked on as they are. -/
theorem workOff_keeps {ω : Type} (work : Nat → StateT ω (StateM σ) β)
    (tasks : List Nat) (pool : Pool β) (w : ω) (t : σ) :
    (Pool.workOff work tasks pool w t).1.1.waiting = pool.waiting ∧
      (Pool.workOff work tasks pool w t).1.1.running = pool.running := by
  induction tasks generalizing pool w t with
  | nil => exact ⟨rfl, rfl⟩
  | cons task rest ih => exact ih _ _ _

section Moves

variable {ω : Type} {work : Nat → StateT ω (StateM σ) β}
  (hwork : ∀ task w t, (work task w t).1.1 = ((programs task).perform files t).1 ∧
    (work task w t).2 = ((programs task).perform files t).2)

include hwork

/-- Each move of a pool takes a crew some steps. -/
theorem move (next : Move) (w : ω) (h : Follows programs pool state crew) :
    ∃ after, Reaches files workers alarms crew after ∧
      Follows programs (pool.move workers alarms work next w state).1.1
        (pool.move workers alarms work next w state).2 after := by
  cases next with
  | take => exact ⟨_, .single (h.samePool ▸ .take crew), h.take workers⟩
  | finish task =>
    by_cases htask : pool.running.contains task = true
    · obtain ⟨hvalue, hstate⟩ := hwork task w state
      obtain ⟨after, hreaches, hfollows⟩ :=
        h.finish files workers alarms (List.contains_iff_mem.mp htask)
      rw [← hvalue, ← hstate] at hfollows
      simp only [Pool.move, Pool.finish, if_pos htask]
      exact ⟨after, hreaches, hfollows⟩
    · simp only [Pool.move, Pool.finish, if_neg htask]
      exact ⟨crew, .refl, h⟩
  | look task => exact ⟨_, .single (h.samePool ▸ .look crew task), h.look alarms task⟩
  | giveUp task => exact ⟨_, .single (h.samePool ▸ .giveUp crew task), h.giveUp task⟩

/-- A schedule takes a crew some steps. -/
theorem moveAll (schedule : List Move) (w : ω) (h : Follows programs pool state crew) :
    ∃ after, Reaches files workers alarms crew after ∧
      Follows programs (pool.moveAll workers alarms work schedule w state).1.1
        (pool.moveAll workers alarms work schedule w state).2 after := by
  induction schedule generalizing pool state crew w with
  | nil => exact ⟨crew, .refl, h⟩
  | cons next rest ih =>
    obtain ⟨between, hfirst, hbetween⟩ := h.move files workers alarms hwork next w
    obtain ⟨after, hrest, hafter⟩ := ih _ hbetween
    exact ⟨after, hfirst.trans hrest, hafter⟩

/-- The work that is going on is ended. -/
theorem workOff_running (tasks : List Nat) (w : ω) (hrunning : pool.running = [])
    (h : Follows programs { pool with running := tasks } state crew) :
    ∃ after, Reaches files workers alarms crew after ∧
      Follows programs (Pool.workOff work tasks pool w state).1.1
        (Pool.workOff work tasks pool w state).2 after := by
  induction tasks generalizing pool state crew w with
  | nil =>
    rw [← hrunning] at h
    exact ⟨crew, .refl, h⟩
  | cons task rest ih =>
    obtain ⟨hvalue, hstate⟩ := hwork task w state
    obtain ⟨between, hfirst, hbetween⟩ := h.finish files workers alarms List.mem_cons_self
    rw [← hvalue, ← hstate, List.erase_cons_head] at hbetween
    have hlater : (pool.withDone (fun _ => (work task w state).1.1) [task]).running = [] := hrunning
    obtain ⟨after, hrest, hafter⟩ := ih _ hlater hbetween
    exact ⟨after, hfirst.trans hrest, hafter⟩

/-- Tasks that wait are taken and ended one after another. -/
theorem workOff_waiting (hworkers : 0 < workers) (tasks : List Nat) (w : ω)
    (hwaiting : pool.waiting = []) (hrunning : pool.running = [])
    (h : Follows programs { pool with waiting := tasks } state crew) :
    ∃ after, Reaches files workers alarms crew after ∧
      Follows programs (Pool.workOff work tasks pool w state).1.1
        (Pool.workOff work tasks pool w state).2 after := by
  induction tasks generalizing pool state crew w with
  | nil =>
    rw [← hwaiting] at h
    exact ⟨crew, .refl, h⟩
  | cons task rest ih =>
    have htake : ({ pool with waiting := task :: rest } : Pool β).take workers =
        { pool with waiting := rest, running := [task] } := by
      simp only [Pool.take, hrunning, List.length_nil, if_pos hworkers, List.nil_append]
    have htaken := h.take workers
    rw [htake] at htaken
    have htook : Reaches files workers alarms crew
        { crew with pool := { pool with waiting := rest, running := [task] } } := by
      rw [← htake, ← h.samePool]
      exact .single (.take crew)
    obtain ⟨hvalue, hstate⟩ := hwork task w state
    obtain ⟨between, hfirst, hbetween⟩ := htaken.finish files workers alarms List.mem_cons_self
    rw [← hvalue, ← hstate, List.erase_cons_head, ← hrunning] at hbetween
    have hlater : (pool.withDone (fun _ => (work task w state).1.1) [task]).waiting = [] := hwaiting
    obtain ⟨after, hrest, hafter⟩ := ih _ hlater hrunning hbetween
    exact ⟨after, htook.trans (hfirst.trans hrest), hafter⟩

/-- A pool is settled by a crew, which has ended then. -/
theorem settle (hworkers : 0 < workers) (w : ω) (h : Follows programs pool state crew) :
    ∃ after, Reaches files workers alarms crew after ∧ after.HasEnded ∧
      after.pool = (pool.settle work w state).1.1 ∧
      after.state.1 = (pool.settle work w state).2 := by
  have hnone : ({ pool with running := [] } : Pool β).running = [] := rfl
  obtain ⟨between, hfirst, hbetween⟩ :=
    workOff_running files workers alarms hwork pool.running w hnone h
  obtain ⟨-, hrunning⟩ := workOff_keeps work pool.running { pool with running := [] } w state
  simp only [Pool.settle, bind, StateT.bind]
  rcases hended : Pool.workOff work pool.running { pool with running := [] } w state with
    ⟨⟨ended, v⟩, later⟩
  rw [hended] at hbetween hrunning
  dsimp only
  split
  · rename_i halarmed
    refine ⟨between, hfirst, ⟨?_, .inr ?_⟩, hbetween.samePool, hbetween.sameState⟩
    · rw [hbetween.samePool]
      exact hrunning
    · rw [hbetween.samePool]
      exact halarmed
  · have hempty : ({ ended with waiting := [] } : Pool β).waiting = [] := rfl
    obtain ⟨after, hrest, hafter⟩ := workOff_waiting files workers alarms hwork hworkers
      ended.waiting v hempty hrunning hbetween
    obtain ⟨hwaiting, hstill⟩ :=
      workOff_keeps work ended.waiting { ended with waiting := [] } v later
    refine ⟨after, hfirst.trans hrest, ⟨?_, .inl ?_⟩, hafter.samePool, hafter.sameState⟩
    · rw [hafter.samePool, hstill]
      exact hrunning
    · rw [hafter.samePool, hwaiting]

end Moves

end Follows

/-- **A pool that works by a schedule** is a crew: the tasks that it ends make all of their calls at
once. -/
theorem exists_reaches_run {ω : Type} {work : Nat → StateT ω (StateM σ) β}
    {programs : Nat → Program β}
    (hwork : ∀ task w t, (work task w t).1.1 = ((programs task).perform files t).1 ∧
      (work task w t).2 = ((programs task).perform files t).2)
    (hworkers : 0 < workers) (schedule : List Move) (count : Nat) (w : ω) (s : σ) :
    ∃ crew, Reaches files workers alarms (start programs count s) crew ∧ crew.HasEnded ∧
      crew.results count = (Pool.run workers alarms work schedule count w s).1.1 ∧
      crew.state.1 = (Pool.run workers alarms work schedule count w s).2 := by
  obtain ⟨between, hfirst, hbetween⟩ :=
    (Follows.start count s).moveAll files workers alarms hwork schedule w
  obtain ⟨crew, hrest, hended, hpool, hstate⟩ :=
    hbetween.settle files workers alarms hwork hworkers _
  refine ⟨crew, hfirst.trans hrest, hended, ?_, hstate⟩
  rw [results, hpool]
  rfl

end Scheduled

end Crew

end ClientGen
