import ClientGen.Command.Generate
import ClientGen.Command.Inspect
import ClientGen.Command.Validate

/-!
# The command line

A command line is read, the command is carried out, and the console shows what it said.
`CommandLine.transcript` tells what a command does, and `CommandLine.finish` what is seen of it.
-/

namespace ClientGen

namespace Command

/-- Carries a command out, with a console that shows what it says. -/
def transcript {m : Type → Type} [Monad m] (place : Workplace m) (console : Console) :
    Command → m Transcript
  | .generate options => generateCode place console options
  | .validate files policy workers => validateDocuments place.files policy workers files
  | .inspect view file resolveExternal => inspectDocument place console view file resolveExternal

end Command

/-- What is seen of a command: what it writes, what was requested, and its exit code. -/
structure Ending where
  streams : Streams
  requests : List String
  code : Nat

/-- What is seen of a transcript.  A message that cannot be shown ends the command as an unexpected
error, which has to be shown in its stead. -/
def Console.finish (console : Console) (transcript : Transcript) : Except Markup.Fault Ending :=
  match console.renderAll transcript.messages with
  | (streams, none) => .ok ⟨streams, transcript.requests, transcript.code⟩
  | (streams, some fault) => do
    let more ← console.render (.error ("Unexpected error: " ++ fault.message))
    return ⟨streams.append more, transcript.requests, ExitCode.generic.toNat⟩

/-- Carries a command out and shows what it says. -/
def Command.run {m : Type → Type} [Monad m] (place : Workplace m) (screen : Screen)
    (display : DisplayOptions) (command : Command) : m (Except Markup.Fault Ending) := do
  let console := display.console screen
  return console.finish (← command.transcript place console)

/-- The name of the program and its version. -/
def versionText : String := "httpapigen 0.1.0"

end ClientGen
