import ClientGen.Command.Invocation
import ClientGen.Command.Transcript
import ClientGen.Report.Failures

/-!
# The command that generates code

Settings from the command line are laid over those in files, and the document that they name goes
through all stages.
-/

namespace ClientGen

namespace GenerateOptions

/-- A truth value that may be missing. -/
def truth (b : Option Bool) : Value :=
  (b.map Value.bool).getD .null

/-- A text that may be missing. -/
def text (s : Option String) : Value :=
  (s.map Value.str).getD .null

/-- The settings that the command line gives; null stands for what it does not give. -/
def given (options : GenerateOptions) (verbose : Bool) : List (String × Value) :=
  [("input_path", text options.input), ("output_dir", text options.output),
   ("resolve_external", truth options.resolveExternal),
   ("allowed_domains",
     if options.domains.isEmpty then .null else .list (options.domains.map Value.str)),
   ("timeout", (options.timeout.map Value.float).getD .null),
   ("skip_validation", truth options.skipValidation),
   ("continue_on_validation_error", truth options.lenient),
   ("continue_on_resolution_error", truth options.lenient)] ++
    if verbose then [("verbose", .bool true)] else []

end GenerateOptions

namespace Command

variable {m : Type → Type} [Monad m]

/-- What is said where no document is named. -/
def noInput : Transcript :=
  .ending
    [.error "No input document given.",
     .suggestion "Pass --input PATH or set input_path in .httpapigenrc"]
    ExitCode.usage.toNat

/-- What is said of a failure with details: a report. -/
def failureReport (f : Failure) : List Message :=
  if f.details.isEmpty then [] else [.data (Report.failures [f])]

/-- What is said of generated code. -/
def generatedMessages (directory : String) (product : Product) : List Message :=
  product.written.map (fun path => .debug ("wrote " ++ path)) ++
    [.success ("Generated " ++ toString product.written.length ++ " files for " ++
      toString product.api.operations.length ++ " operations in " ++ directory)]

/-- Generates code for a document with a configuration. -/
def generateWith (place : Workplace m) (console : Console) (config : Configuration) :
    m Transcript := do
  let path := config.inputPath.getD ""
  if path.isEmpty then return noInput
  else
    Workplace.saying console [.info ("Generating from " ++ path)] do
      let run ← place.run (config.runOptions true) path
      return run.transcript failureReport (generatedMessages config.outputDirectory)

/-- Generates code. -/
def generateCode (place : Workplace m) (console : Console) (options : GenerateOptions) :
    m Transcript :=
  place.withConfiguration console (options.given console.verbose) (generateWith place console)

end Command

end ClientGen
