import ClientGen.Command.Invocation
import ClientGen.Command.Transcript
import ClientGen.Report.Failures
import ClientGen.Report.Validation

/-!
# The command that validates documents

Documents are read and validated as a batch, and a report tells of all that could be read.  The exit
code is that of a failure, if there is one, or says that a document is not valid.
-/

namespace ClientGen.Command

variable {m : Type → Type} [Monad m]

/-- Reads and validates the document at a path. -/
def checkDocument (files : FileAccess m) (path : String) :
    m (Except Problem (String × Validation)) := do
  match ← Document.readObject files path with
  | .error problem => return .error problem
  | .ok document => return .ok (path, ClientGen.validate false document.content)

/-- What is said of documents that are all valid. -/
def validMessages (count : Nat) : List Message :=
  [.success (toString count ++ (if count = 1 then " document" else " documents") ++ " valid")]

/-- What is said of a batch that went to its end. -/
def checkedTranscript (result : BatchResult (String × Validation)) : Transcript :=
  let report := Message.data
    (Report.validation (result.successes.map (·.2)) (result.successes.map (·.1)))
  match result.failures with
  | first :: _ => .ending [report, .data (Report.failures result.failures)] first.exitCode
  | [] =>
    if result.successes.all fun checked => checked.2.isValid then
      .ending (report :: validMessages result.successes.length) ExitCode.success.toNat
    else .ending [report] Stage.validation.exitCode

/-- What is said of a batch. -/
def batchTranscript :
    Except BatchFault (BatchResult (String × Validation)) → Transcript
  | .ok result => checkedTranscript result
  | .error (.failed failure) =>
    .ending [.error failure.message, .data (Report.failures failure.failures)] failure.exitCode
  | .error (.unexpected u) => .unexpected u

/-- Validates documents by a schedule. -/
def validateBy (files : FileAccess m) (schedule : List Move) (policy : BatchPolicy)
    (workers : Option Int) (paths : List String) : m Transcript := do
  return batchTranscript (← Batch.run policy (workers.getD Batch.defaultWorkers) schedule
    (checkDocument files) paths)

/-- Validates documents. -/
def validateDocuments (files : FileAccess m) (policy : BatchPolicy) (workers : Option Int)
    (paths : List String) : m Transcript := do
  let most := workers.getD Batch.defaultWorkers
  validateBy files (steadySchedule (Batch.workerCount most paths.length) paths.length) policy
    workers paths

end ClientGen.Command
