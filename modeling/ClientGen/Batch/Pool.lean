/-!
# Pools of workers

Tasks have numbers.  They wait in order, a worker that is free takes the first one, the tasks that
are being worked on end in any order, and their results are looked at in any order.  Once an
alarming result has been looked at, tasks that still wait may be given up.  A schedule is a list of
moves; a move that is not possible changes nothing.  `Pool.run` works off a schedule and then what
is left.
-/

namespace ClientGen

/-- What happens next in a pool. -/
inductive Move where
  /-- A free worker takes the first task that waits. -/
  | take
  /-- The work on a task ends. -/
  | finish (task : Nat)
  /-- The result of a task is looked at. -/
  | look (task : Nat)
  /-- A task that waits is given up. -/
  | giveUp (task : Nat)
  deriving Repr, DecidableEq

/-- The tasks of a pool, with the results of those that are done, and whether an alarming result has
been looked at. -/
structure Pool (β : Type) where
  waiting : List Nat
  running : List Nat
  done : List (Nat × β)
  alarmed : Bool

namespace Pool

variable {β : Type} {m : Type → Type} [Monad m]

/-- A pool in which all of the first tasks wait. -/
def start (count : Nat) : Pool β := ⟨List.range count, [], [], false⟩

/-- The result of a task that is done. -/
def result? (pool : Pool β) (task : Nat) : Option β :=
  (pool.done.find? fun entry => entry.1 == task).map (·.2)

/-- A free worker takes the first task that waits. -/
def take (workers : Nat) (pool : Pool β) : Pool β :=
  match pool.waiting with
  | first :: rest =>
    if pool.running.length < workers then
      { pool with waiting := rest, running := pool.running ++ [first] }
    else pool
  | [] => pool

/-- The work on a task ends, if there is a worker on it. -/
def finish (work : Nat → m β) (task : Nat) (pool : Pool β) : m (Pool β) := do
  if pool.running.contains task then
    let result ← work task
    return { pool with running := pool.running.erase task, done := pool.done ++ [(task, result)] }
  else return pool

/-- The result of a task is looked at, if there is one. -/
def look (alarms : β → Bool) (task : Nat) (pool : Pool β) : Pool β :=
  match pool.result? task with
  | some result => { pool with alarmed := pool.alarmed || alarms result }
  | none => pool

/-- A task that waits is given up, if there has been an alarm. -/
def giveUp (task : Nat) (pool : Pool β) : Pool β :=
  if pool.alarmed then { pool with waiting := pool.waiting.erase task } else pool

/-- Makes a move. -/
def move (workers : Nat) (alarms : β → Bool) (work : Nat → m β) (pool : Pool β) :
    Move → m (Pool β)
  | .take => return pool.take workers
  | .finish task => pool.finish work task
  | .look task => return pool.look alarms task
  | .giveUp task => return pool.giveUp task

/-- Works on tasks one after another. -/
def workOff (work : Nat → m β) : List Nat → Pool β → m (Pool β)
  | [], pool => return pool
  | task :: rest, pool => do
    let result ← work task
    workOff work rest { pool with done := pool.done ++ [(task, result)] }

/-- Ends the work that is going on and, unless there has been an alarm, that on the tasks that
wait. -/
def settle (work : Nat → m β) (pool : Pool β) : m (Pool β) := do
  -- Work that is going on is not given up.
  let ended ← workOff work pool.running { pool with running := [] }
  if ended.alarmed then return ended
  else workOff work ended.waiting { ended with waiting := [] }

/-- Makes the moves of a schedule. -/
def moveAll (workers : Nat) (alarms : β → Bool) (work : Nat → m β) :
    List Move → Pool β → m (Pool β)
  | [], pool => return pool
  | next :: rest, pool => do moveAll workers alarms work rest (← move workers alarms work pool next)

/-- The results of the first tasks by a schedule, in the order of the tasks; those that were given
up have none. -/
def run (workers : Nat) (alarms : β → Bool) (work : Nat → m β) (schedule : List Move)
    (count : Nat) : m (List β) := do
  let pool ← settle work (← moveAll workers alarms work schedule (start count))
  return (List.range count).filterMap pool.result?

end Pool

/-- The schedule in which tasks are taken as soon as there is a worker for them, end in order, and
are looked at as soon as they end; after an alarm no further task is taken. -/
def steadySchedule (workers count : Nat) : List Move :=
  List.replicate workers .take ++
    (List.range count).flatMap fun task =>
      [.finish task, .look task] ++ (List.range count).map .giveUp ++ [.take]

end ClientGen
