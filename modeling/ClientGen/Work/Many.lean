import ClientGen.Batch
import ClientGen.Work

/-!
# The work on several documents

A batch whose documents all go through the stages with the same settings.  What is requested goes on
record, document by document.
-/

namespace ClientGen.Work

variable {m : Type → Type} [Monad m]

/-- The work on one document of a batch, which puts on record what is requested. -/
def batchStep (files : FileAccess m) (transport : Net.Transport) (options : RunOptions)
    (path : String) : StateT (List String) m (Except Problem Product) := fun requests => do
  let run ← document files (Net.fetch transport options.resolution.limits) options path
  return (run.outcome.mapError Problem.failure, requests ++ run.requests)

/-- The work on the documents at paths by a schedule, and what is requested. -/
def documentsBy (files : FileAccess m) (transport : Net.Transport) (options : RunOptions)
    (policy : BatchPolicy) (workers : Int) (schedule : List Move) (paths : List String) :
    m (Except BatchFault (BatchResult Product) × List String) :=
  (Batch.run policy workers schedule (batchStep files transport options) paths).run []

/-- The work on the documents at paths, and what is requested. -/
def documents (files : FileAccess m) (transport : Net.Transport) (options : RunOptions)
    (policy : BatchPolicy) (workers : Int) (paths : List String) :
    m (Except BatchFault (BatchResult Product) × List String) :=
  documentsBy files transport options policy workers
    (steadySchedule (Batch.workerCount workers paths.length) paths.length) paths

end ClientGen.Work
