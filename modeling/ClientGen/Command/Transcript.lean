import ClientGen.Console
import ClientGen.Settings.Layers
import ClientGen.Settings.Place
import ClientGen.Work

/-!
# Transcripts of commands

What a command did is told by a transcript: what it said in order, what was requested, and its exit
code.  The steps that several commands share are here: reading the configuration, and the work on
one document.
-/

namespace ClientGen

/-- What a command said, what was requested, and its exit code. -/
structure Transcript where
  messages : List Message
  requests : List String
  code : Nat

/-- What commands work with: files, a way to resolve references, and the machine. -/
structure Workplace (m : Type → Type) where
  files : FileAccess m
  /-- What the references of a document at a path come to. -/
  resolve : ResolutionOptions → String → Value → Net.Fetched Resolution
  environment : Environment

namespace Transcript

/-- A command that says something and ends with an exit code. -/
def ending (messages : List Message) (code : Nat) : Transcript :=
  ⟨messages, [], code⟩

/-- Something is said before the rest. -/
def after (messages : List Message) (transcript : Transcript) : Transcript :=
  { transcript with messages := messages ++ transcript.messages }

/-- The end of a command by a fault that no stage reports. -/
def unexpected (u : Unexpected) : Transcript :=
  ending [.error ("Unexpected error: " ++ u.message)] ExitCode.generic.toNat

/-- The end of a command without a configuration. -/
def ofConfigurationFault : ConfigurationFault → Transcript
  | .invalid faults => ending [.error (invalidSettings faults)] ExitCode.usage.toNat
  | .unexpected u => unexpected u

end Transcript

namespace Workplace

variable {m : Type → Type} [Monad m]

/-- A workplace with servers. -/
def served (files : FileAccess m) (transport : Net.Transport) (environment : Environment) :
    Workplace m where
  files
  resolve options := Resolution.resolve options (Net.fetch transport options.limits)
  environment

/-- The files of settings, the lowest one first. -/
def settingsFiles (place : Workplace m) : List String :=
  [place.environment.userFile, Environment.projectFile place.environment.directory]

/-- Says something and goes on, unless a console cannot show it, which is the end. -/
def saying (console : Console) (messages : List Message) (next : m Transcript) : m Transcript := do
  if console.canShow messages then return (← next).after messages
  else return .ending messages ExitCode.generic.toNat

/-- Reads the configuration with given fields on top, and goes on with it after the warnings. -/
def withConfiguration (place : Workplace m) (console : Console) (given : List (String × Value))
    (next : Configuration → m Transcript) : m Transcript := do
  match ← Configuration.load place.files place.settingsFiles given with
  | .error fault => return .ofConfigurationFault fault
  | .ok (config, warnings) => saying console (warnings.map .warning) (next config)

/-- The work on the document at a path. -/
def run (place : Workplace m) (options : RunOptions) (path : String) : m (Run Product) :=
  Work.documentWith (place.resolve options.resolution path) place.files options path

end Workplace

/-- The transcript of the work on a document: the log, and what is said of its outcome. -/
def Run.transcript {α : Type} (run : Run α) (failed : Failure → List Message)
    (finished : α → List Message) : Transcript :=
  let (messages, code) := match run.outcome with
    | .ok value => (finished value, ExitCode.success.toNat)
    | .error f => (.error f.text :: failed f, f.exitCode)
  ⟨run.logs.map .record ++ messages, run.requests, code⟩

end ClientGen
