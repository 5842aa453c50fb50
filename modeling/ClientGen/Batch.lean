import ClientGen.Batch.Pool
import ClientGen.Failure

/-!
# Batches

The work on several documents goes on at the same time, on a pool of workers.  A batch either stops
at the first failure that is seen, or goes on to the end and collects the failures.  Results keep
the order of the documents, whatever the schedule was.
-/

namespace ClientGen

/-- How a batch goes on after a failure. -/
inductive BatchPolicy where
  | failFast
  | collect
  deriving Repr, DecidableEq

namespace BatchPolicy

/-- The word for a policy. -/
def name : BatchPolicy → String
  | failFast => "fail_fast"
  | collect => "collect"

/-- The policy of a word. -/
def ofName? (name : String) : Option BatchPolicy :=
  [failFast, collect].find? (·.name == name)

end BatchPolicy

/-- The results of a batch. -/
structure BatchResult (α : Type) where
  successes : List α
  failures : List Failure

/-- How a batch ends without results. -/
inductive BatchFault where
  | failed (failure : BatchFailure)
  | unexpected (u : Unexpected)

namespace Batch

variable {α : Type} {m : Type → Type} [Monad m]

/-- Whether the work on a document ended with a failure. -/
def isFailure : Except Problem α → Bool
  | .error (.failure _) => true
  | _ => false

/-- Whether a result stops a batch. -/
def alarms (policy : BatchPolicy) (result : Except Problem α) : Bool :=
  policy == .failFast && isFailure result

/-- The first fault among results that no stage reports. -/
def firstUnexpected (results : List (Except Problem α)) : Option Unexpected :=
  results.findSome? fun result =>
    match result with
    | .error (.unexpected u) => some u
    | _ => none

/-- The values among results. -/
def values (results : List (Except Problem α)) : List α :=
  results.filterMap fun result =>
    match result with
    | .ok value => some value
    | .error _ => none

/-- The failures among results. -/
def failures (results : List (Except Problem α)) : List Failure :=
  results.filterMap fun result =>
    match result with
    | .error (.failure f) => some f
    | _ => none

/-- How a batch with results ends. -/
def conclude (policy : BatchPolicy) (results : List (Except Problem α)) :
    Except BatchFault (BatchResult α) :=
  match firstUnexpected results with
  | some u => .error (.unexpected u)
  | none =>
    match policy, failures results with
    | .failFast, first :: rest => .error (.failed ⟨first :: rest⟩)
    | _, failures => .ok ⟨values results, failures⟩

/-- How many workers a batch has: at least one, and no more than documents. -/
def workerCount (most : Int) (count : Nat) : Nat :=
  max 1 (min most.toNat (max 1 count))

/-- The number of workers where none is given. -/
def defaultWorkers : Int := 4

/-- Works on the documents at paths by a schedule. -/
def run (policy : BatchPolicy) (most : Int) (schedule : List Move)
    (work : String → m (Except Problem α)) (paths : List String) :
    m (Except BatchFault (BatchResult α)) := do
  let results ← Pool.run (workerCount most paths.length) (alarms policy)
    (fun task => work (paths.getD task "")) schedule paths.length
  return conclude policy results

end Batch

end ClientGen
