import ClientGen.Batch.Pool
import Mathlib.Data.List.Basic

/-!
# What a pool of workers never loses

A pool `IsSound` when the results in it are those of its tasks, it has seen no alarm without a
result that alarms, and it has lost no task without an alarm.  Every move keeps a pool sound
(`take_cases`, `look_cases` and `giveUp_cases` say what a move can do), and so does every schedule.
Hence a pool works off all of its tasks, or it leaves some out and one that it has worked off alarms
(`run_spec`), whatever the work does to the state that goes along with it; where the results are
only known while the state has a property, the work has to keep that (`run_spec_within`).
-/

namespace ClientGen.Pool

variable {β σ : Type}

/-! ### Moves -/

/-- The first task that waits is taken, or there is none, or no worker for it. -/
theorem take_cases (workers : Nat) (pool : Pool β) :
    pool.take workers = pool ∨ ∃ first rest, pool.waiting = first :: rest ∧
      pool.running.length < workers ∧
      pool.take workers = { pool with waiting := rest, running := pool.running ++ [first] } := by
  unfold take
  split
  · rename_i first rest hwaiting
    split
    · rename_i hfree
      exact .inr ⟨first, rest, hwaiting, hfree, rfl⟩
    · exact .inl rfl
  · exact .inl rfl

/-- A result that is looked at is one of the pool's. -/
theorem mem_done_of_result? {pool : Pool β} {task : Nat} {value : β}
    (h : pool.result? task = some value) : (task, value) ∈ pool.done := by
  obtain ⟨entry, hentry, rfl⟩ := Option.map_eq_some_iff.mp h
  have hname : entry.1 = task := by simpa using List.find?_some hentry
  rw [← hname]
  exact List.mem_of_find?_eq_some hentry

/-- A task that is done has a result. -/
theorem exists_result?_of_mem {pool : Pool β} {task : Nat} (h : task ∈ pool.done.map Prod.fst) :
    ∃ value, pool.result? task = some value := by
  obtain ⟨entry, hentry, rfl⟩ := List.mem_map.mp h
  obtain ⟨found, hfound⟩ : ∃ found, pool.done.find? (·.1 == entry.1) = some found :=
    Option.isSome_iff_exists.mp (List.find?_isSome.mpr ⟨entry, hentry, by simp⟩)
  exact ⟨found.2, by rw [result?, hfound, Option.map_some]⟩

/-- A result is looked at, or there is none. -/
theorem look_cases (alarms : β → Bool) (task : Nat) (pool : Pool β) :
    pool.look alarms task = pool ∨ ∃ value, (task, value) ∈ pool.done ∧
      pool.look alarms task = { pool with alarmed := pool.alarmed || alarms value } := by
  unfold look
  split
  · rename_i value hvalue
    exact .inr ⟨value, mem_done_of_result? hvalue, rfl⟩
  · exact .inl rfl

/-- A task is given up after an alarm, or nothing happens. -/
theorem giveUp_cases (task : Nat) (pool : Pool β) :
    pool.giveUp task = pool ∨ pool.alarmed = true ∧
      pool.giveUp task = { pool with waiting := pool.waiting.erase task } := by
  unfold giveUp
  split
  · rename_i halarmed
    exact .inr ⟨halarmed, rfl⟩
  · exact .inl rfl

/-! ### Soundness -/

/-- A task waits, is being worked on, or is done. -/
def Holds (pool : Pool β) (task : Nat) : Prop :=
  task ∈ pool.waiting ∨ task ∈ pool.running ∨ task ∈ pool.done.map Prod.fst

/-- A pool of the first tasks whose results are known, with nothing lost but after an alarm. -/
structure IsSound (result : Nat → β) (alarms : β → Bool) (count : Nat) (pool : Pool β) : Prop where
  /-- Its tasks are among the first ones. -/
  below : ∀ task, pool.Holds task → task < count
  /-- Its results are those of its tasks. -/
  results : ∀ entry ∈ pool.done, entry.2 = result entry.1
  /-- There is no alarm without a result that alarms. -/
  cause : pool.alarmed = true → ∃ entry ∈ pool.done, alarms entry.2 = true
  /-- Without an alarm, no task is lost. -/
  whole : pool.alarmed = false → ∀ task < count, pool.Holds task

section Moves

variable {result : Nat → β} {alarms : β → Bool} {count : Nat} {pool : Pool β}

theorem isSound_start : IsSound result alarms count (start count) where
  below task h := by
    rcases h with hwaiting | hrunning | hdone
    · exact List.mem_range.mp hwaiting
    · cases hrunning
    · cases hdone
  results entry h := by cases h
  cause h := by cases h
  whole _ task h := .inl (List.mem_range.mpr h)

/-- A pool that holds the same tasks, with the same results and alarm, is as sound. -/
theorem IsSound.of_holds {other : Pool β} (h : IsSound result alarms count pool)
    (hholds : ∀ task, other.Holds task ↔ pool.Holds task) (hdone : other.done = pool.done)
    (halarmed : other.alarmed = pool.alarmed) : IsSound result alarms count other where
  below task htask := h.below task ((hholds task).mp htask)
  results entry hentry := h.results entry (hdone ▸ hentry)
  cause halarm := by
    rw [hdone]
    exact h.cause (halarmed ▸ halarm)
  whole hcalm task htask := (hholds task).mpr (h.whole (halarmed ▸ hcalm) task htask)

theorem isSound_take (workers : Nat) (h : IsSound result alarms count pool) :
    IsSound result alarms count (pool.take workers) := by
  rcases take_cases workers pool with heq | ⟨first, rest, hwaiting, -, heq⟩
  · rw [heq]
    exact h
  · rw [heq]
    refine h.of_holds (fun task => ?_) rfl rfl
    simp only [Holds, hwaiting, List.mem_cons, List.mem_append]
    tauto

/-- Tasks that are worked off. -/
def withDone (pool : Pool β) (result : Nat → β) (tasks : List Nat) : Pool β :=
  { pool with done := pool.done ++ tasks.map fun task => (task, result task) }

theorem holds_withDone {pool : Pool β} {tasks : List Nat} {task : Nat} :
    (pool.withDone result tasks).Holds task ↔ pool.Holds task ∨ task ∈ tasks := by
  have hnames : (tasks.map fun task => (task, result task)).map Prod.fst = tasks := by
    rw [List.map_map]
    exact List.map_id' tasks
  simp only [Holds, withDone, List.map_append, List.mem_append, hnames]
  tauto

/-- The pool when the work that is going on has ended. -/
def ended (result : Nat → β) (pool : Pool β) : Pool β :=
  { pool with running := [] }.withDone result pool.running

/-- Tasks that the pool held before stay with it when they are worked off. -/
theorem IsSound.withDone {other : Pool β} (h : IsSound result alarms count pool) {tasks : List Nat}
    (hholds : ∀ task, other.Holds task ∨ task ∈ tasks ↔ pool.Holds task)
    (hdone : other.done = pool.done) (halarmed : other.alarmed = pool.alarmed) :
    IsSound result alarms count (other.withDone result tasks) where
  below task htask := h.below task ((hholds task).mp (holds_withDone.mp htask))
  results entry hentry := by
    rcases List.mem_append.mp hentry with hold | hnew
    · exact h.results entry (hdone ▸ hold)
    · obtain ⟨task, -, rfl⟩ := List.mem_map.mp hnew
      rfl
  cause halarm := by
    obtain ⟨entry, hentry, hcause⟩ := h.cause (halarmed ▸ halarm)
    exact ⟨entry, List.mem_append_left _ (hdone ▸ hentry), hcause⟩
  whole hcalm task htask :=
    holds_withDone.mpr ((hholds task).mpr (h.whole (halarmed ▸ hcalm) task htask))

/-- A result that is looked at is one of the pool's, so an alarm that it gives has a cause. -/
theorem isSound_look (task : Nat) (h : IsSound result alarms count pool) :
    IsSound result alarms count (pool.look alarms task) := by
  rcases look_cases alarms task pool with heq | ⟨value, hvalue, heq⟩
  · rw [heq]
    exact h
  · rw [heq]
    refine ⟨h.below, h.results, fun halarm => ?_, fun hcalm => h.whole ?_⟩
    · rcases Bool.or_eq_true_iff.mp halarm with hbefore | hnow
      · exact h.cause hbefore
      · exact ⟨(task, value), hvalue, hnow⟩
    · exact (Bool.or_eq_false_iff.mp hcalm).1

theorem isSound_giveUp (task : Nat) (h : IsSound result alarms count pool) :
    IsSound result alarms count (pool.giveUp task) := by
  rcases giveUp_cases task pool with heq | ⟨halarmed, heq⟩
  · rw [heq]
    exact h
  · rw [heq]
    refine ⟨fun other hother => h.below other ?_, h.results, h.cause, fun hcalm => ?_⟩
    · exact hother.imp_left List.mem_of_mem_erase
    · exact absurd (halarmed.symm.trans hcalm) (by decide)

end Moves

section Run

variable {result : Nat → β} {alarms : β → Bool} {count : Nat} {pool : Pool β}
variable {work : Nat → StateM σ β}

variable {P : σ → Prop}
  (hwork : ∀ task < count, ∀ s, P s → (work task s).1 = result task ∧ P (work task s).2)

include hwork

theorem workOff_spec (tasks : List Nat) (htasks : ∀ task ∈ tasks, task < count) :
    ∀ (pool : Pool β) (s : σ), P s → (workOff work tasks pool s).1 = pool.withDone result tasks ∧
      P (workOff work tasks pool s).2 := by
  induction tasks with
  | nil =>
    intro pool s hs
    rw [withDone, List.map_nil, List.append_nil]
    exact ⟨rfl, hs⟩
  | cons task rest ih =>
    intro pool s hs
    obtain ⟨htask, hrest⟩ := List.forall_mem_cons.mp htasks
    obtain ⟨hresult, hnext⟩ := hwork task htask s hs
    obtain ⟨hpool, hlater⟩ := ih hrest _ _ hnext
    refine ⟨hpool.trans ?_, hlater⟩
    simp [withDone, hresult]

/-- The task that ends was being worked on, and is done. -/
theorem isSound_finish (task : Nat) {s : σ} (hs : P s) (h : IsSound result alarms count pool) :
    IsSound result alarms count (pool.finish work task s).1 ∧ P (pool.finish work task s).2 := by
  by_cases htask : task ∈ pool.running
  · obtain ⟨hresult, hnext⟩ := hwork task (h.below task (.inr (.inl htask))) s hs
    have hcontains : pool.running.contains task = true := List.contains_iff_mem.mpr htask
    have hpool : (pool.finish work task s).1 =
        { pool with running := pool.running.erase task }.withDone result [task] := by
      simp only [finish, hcontains, if_true, withDone, List.map_cons, List.map_nil, ← hresult]
      rfl
    rw [hpool]
    refine ⟨h.withDone (fun other => ?_) rfl rfl, ?_⟩
    · simp only [Holds, List.mem_singleton]
      by_cases hother : other = task
      · simp only [hother, htask, true_or, or_true]
      · simp only [hother, List.mem_erase_of_ne hother, or_false]
    · simp only [finish, hcontains, if_true]
      exact hnext
  · have hcontains : ¬pool.running.contains task = true := fun hmem =>
      htask (List.contains_iff_mem.mp hmem)
    rw [finish, if_neg hcontains]
    exact ⟨h, hs⟩

/-- Every move keeps a pool sound. -/
theorem isSound_move (workers : Nat) (next : Move) {s : σ} (hs : P s)
    (h : IsSound result alarms count pool) :
    IsSound result alarms count (move workers alarms work pool next s).1 ∧
      P (move workers alarms work pool next s).2 := by
  cases next with
  | take => exact ⟨isSound_take workers h, hs⟩
  | finish task => exact isSound_finish hwork task hs h
  | look task => exact ⟨isSound_look task h, hs⟩
  | giveUp task => exact ⟨isSound_giveUp task h, hs⟩

/-- Every schedule keeps a pool sound. -/
theorem isSound_moveAll (workers : Nat) (schedule : List Move) :
    ∀ (pool : Pool β) (s : σ), P s → IsSound result alarms count pool →
      IsSound result alarms count (moveAll workers alarms work schedule pool s).1 ∧
        P (moveAll workers alarms work schedule pool s).2 := by
  induction schedule with
  | nil => exact fun pool s hs h => ⟨h, hs⟩
  | cons next rest ih =>
    intro pool s hs h
    obtain ⟨hsound, hnext⟩ := isSound_move hwork workers next hs h
    exact ih _ _ hnext hsound

theorem settle_eq {s : σ} (hs : P s) (h : IsSound result alarms count pool) :
    (pool.settle work s).1 =
      if (pool.ended result).alarmed then pool.ended result
      else
        { pool.ended result with waiting := [] }.withDone result (pool.ended result).waiting := by
  have hrunning : ∀ task ∈ pool.running, task < count :=
    fun task htask => h.below task (.inr (.inl htask))
  have hwaiting : ∀ task ∈ pool.waiting, task < count :=
    fun task htask => h.below task (.inl htask)
  obtain ⟨hpool, hlater⟩ := workOff_spec hwork _ hrunning { pool with running := [] } s hs
  rcases hrun : workOff work pool.running { pool with running := [] } s with ⟨found, later⟩
  rw [hrun] at hpool hlater
  have hfound : pool.ended result = found := hpool.symm
  simp only [settle, bind, StateT.bind, hrun, ← hfound]
  split
  · rfl
  · exact (workOff_spec hwork _ hwaiting _ later hlater).1

/-- A sound pool that is settled is sound, and no task of it waits or is being worked on unless
there was an alarm. -/
theorem isSound_settle {s : σ} (hs : P s) (h : IsSound result alarms count pool) :
    IsSound result alarms count (pool.settle work s).1 ∧
      ((pool.settle work s).1.alarmed = false →
        (pool.settle work s).1.waiting = [] ∧ (pool.settle work s).1.running = []) := by
  have hsound : IsSound result alarms count (pool.ended result) := by
    refine h.withDone (fun task => ?_) rfl rfl
    simp only [Holds, List.not_mem_nil, false_or]
    tauto
  rw [settle_eq hwork hs h]
  split
  · rename_i halarmed
    exact ⟨hsound, fun hcalm => absurd (halarmed.symm.trans hcalm) (by decide)⟩
  · refine ⟨hsound.withDone (fun task => ?_) rfl rfl, fun _ => ⟨rfl, rfl⟩⟩
    simp only [Holds, List.not_mem_nil, false_or]
    tauto

end Run

/-- In a sound pool the tasks that are done have their results. -/
theorem IsSound.result?_eq {result : Nat → β} {alarms : β → Bool} {count : Nat} {pool : Pool β}
    (h : IsSound result alarms count pool) (task : Nat) :
    pool.result? task =
      if task ∈ pool.done.map Prod.fst then some (result task) else none := by
  split
  · rename_i hdone
    obtain ⟨value, hvalue⟩ := exists_result?_of_mem hdone
    exact hvalue.trans (congrArg some (h.results _ (mem_done_of_result? hvalue)))
  · rename_i hdone
    refine Option.eq_none_iff_forall_ne_some.mpr fun value hvalue => hdone ?_
    exact List.mem_map_of_mem (mem_done_of_result? hvalue)

/-- Whatever the schedule, the results of a run are those of some of its tasks in order: of all of
them, or of some among which one alarms.  The results only have to be known while the state has a
property that the work keeps. -/
theorem run_spec_within {P : σ → Prop} {result : Nat → β} {work : Nat → StateM σ β} {count : Nat}
    (hwork : ∀ task < count, ∀ s, P s → (work task s).1 = result task ∧ P (work task s).2)
    (workers : Nat) (alarms : β → Bool) (schedule : List Move) {s : σ} (hs : P s) :
    ∃ finished : List Nat,
      (run workers alarms work schedule count s).1 = finished.map result ∧
      finished.Sublist (List.range count) ∧
      (finished = List.range count ∨ ∃ task ∈ finished, alarms (result task) = true) := by
  obtain ⟨pool, hpool, hsound, hsettled⟩ : ∃ pool : Pool β,
      (run workers alarms work schedule count s).1 = (List.range count).filterMap pool.result? ∧
      IsSound result alarms count pool ∧
      (pool.alarmed = false → pool.waiting = [] ∧ pool.running = []) := by
    obtain ⟨hmoved, hlater⟩ := isSound_moveAll hwork workers schedule (start count) s hs
      isSound_start
    exact ⟨_, rfl, isSound_settle hwork hlater hmoved⟩
  set isDone : Nat → Bool := fun task => decide (task ∈ pool.done.map Prod.fst) with hisDone
  refine ⟨(List.range count).filter isDone, ?_, List.filter_sublist, ?_⟩
  · rw [hpool, ← List.filterMap_eq_filter, List.map_filterMap]
    refine List.filterMap_congr fun task _ => ?_
    rw [hsound.result?_eq]
    by_cases hdone : task ∈ pool.done.map Prod.fst <;> simp [hisDone, hdone, Option.guard]
  · cases halarmed : pool.alarmed with
    | false =>
      obtain ⟨hwaiting, hrunning⟩ := hsettled halarmed
      refine .inl (List.filter_eq_self.mpr fun task htask => decide_eq_true ?_)
      simpa [Holds, hwaiting, hrunning] using hsound.whole halarmed task (List.mem_range.mp htask)
    | true =>
      obtain ⟨entry, hentry, hcause⟩ := hsound.cause halarmed
      have hdone : entry.1 ∈ pool.done.map Prod.fst := List.mem_map_of_mem hentry
      refine .inr ⟨entry.1, List.mem_filter.mpr ⟨?_, decide_eq_true hdone⟩, ?_⟩
      · exact List.mem_range.mpr (hsound.below _ (.inr (.inr hdone)))
      · rw [← hsound.results entry hentry]
        exact hcause

/-- Whatever the schedule and whatever the work does to the state, the results of a run are those of
some of its tasks in order: of all of them, or of some among which one alarms. -/
theorem run_spec {result : Nat → β} {work : Nat → StateM σ β}
    (hwork : ∀ task s, (work task s).1 = result task) (workers : Nat) (alarms : β → Bool)
    (schedule : List Move) (count : Nat) (s : σ) :
    ∃ finished : List Nat,
      (run workers alarms work schedule count s).1 = finished.map result ∧
      finished.Sublist (List.range count) ∧
      (finished = List.range count ∨ ∃ task ∈ finished, alarms (result task) = true) :=
  run_spec_within (P := fun _ => True) (fun task _ s _ => ⟨hwork task s, trivial⟩) workers alarms
    schedule trivial

end ClientGen.Pool
