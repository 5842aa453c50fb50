import ClientGen.Resolution
import ClientGen.Shape.Check

/-!
# Settings

The settings of a resolution, of the work on one document, and of a whole run, with the names under
which they are given and the values that stand for what is not given.  Settings that come from
outside are checked against the shape of their group first.
-/

namespace ClientGen

/-- The groups of settings. -/
inductive SettingsGroup where
  | resolution
  | pipeline
  | generator
  deriving Repr, DecidableEq

namespace SettingsGroup

/-- The title of a group in messages. -/
def title : SettingsGroup → String
  | resolution => "ResolutionOptions"
  | pipeline => "PipelineOptions"
  | generator => "GeneratorConfig"

/-- A setting that may be left out. -/
def setting (name : String) (shape : Shape SettingsGroup) : Member SettingsGroup :=
  ⟨name, name, false, shape⟩

/-- The settings of a group. -/
def members : SettingsGroup → List (Member SettingsGroup)
  | resolution =>
    [setting "resolve_external" .truth,
     setting "continue_on_error" .truth,
     setting "allowed_domains" (.tuple (.text 0)),
     setting "max_redirects" (.integer (some 0)),
     setting "timeout" (.number true)]
  | pipeline =>
    [setting "output_dir" (.nullable (.text 0)),
     setting "skip_validation" .truth,
     setting "continue_on_validation_error" .truth,
     setting "resolution" (.record .resolution)]
  | generator =>
    [setting "input_path" (.nullable (.text 0)),
     setting "output_dir" (.text 0),
     setting "verbose" .truth,
     setting "resolve_external" .truth,
     setting "allowed_domains" (.list (.text 0)),
     setting "timeout" (.number true),
     setting "max_redirects" (.integer (some 0)),
     setting "skip_validation" .truth,
     setting "continue_on_validation_error" .truth,
     setting "continue_on_resolution_error" .truth]

/-- The record of a group; only the settings of a whole run refuse names that they do not know. -/
def grammar (group : SettingsGroup) : Record SettingsGroup :=
  ⟨group.title, group.members, group == generator⟩

/-- Reads a value as settings of a group. -/
def read (group : SettingsGroup) (value : Value) : Except (List Shape.Fault) Value :=
  Shape.check grammar (.record group) value

/-- The problem that faults in the settings of a group are. -/
def problem (group : SettingsGroup) (faults : List Shape.Fault) : Problem :=
  .unexpected ⟨.input, Shape.report group.title faults⟩

end SettingsGroup

namespace Value

/-- The truth value under a name, or the given one. -/
def flagAt (name : String) (default : Bool) (value : Value) : Bool :=
  match value.field? name with
  | some (bool b) => b
  | _ => default

/-- The text under a name. -/
def textAt? (name : String) (value : Value) : Option String :=
  (value.field? name).bind str?

/-- The texts of the list under a name. -/
def textsAt (name : String) (value : Value) : List String :=
  match value.field? name with
  | some (list items) => items.filterMap str?
  | _ => []

/-- The integer under a name, or the given one. -/
def integerAt (name : String) (default : Int) (value : Value) : Int :=
  match value.field? name with
  | some (int n) => n
  | _ => default

/-- The number under a name, or the given one. -/
def numberAt (name : String) (default : Float) (value : Value) : Float :=
  match value.field? name with
  | some (float x) => x
  | _ => default

end Value

/-- The settings of a resolution that a checked value holds. -/
def ResolutionOptions.ofChecked (value : Value) : ResolutionOptions :=
  { external := value.flagAt "resolve_external" false
    lenient := value.flagAt "continue_on_error" false
    domains := value.textsAt "allowed_domains"
    redirects := value.integerAt "max_redirects" 0
    timeout := value.numberAt "timeout" 5.0 }

/-- Reads the settings of a resolution. -/
def ResolutionOptions.read (value : Value) : Except Problem ResolutionOptions :=
  match SettingsGroup.resolution.read value with
  | .ok checked => .ok (ofChecked checked)
  | .error faults => .error (SettingsGroup.resolution.problem faults)

/-- The settings of the work on one document: where its files go, if they are written at all, and
what is tolerated. -/
structure RunOptions where
  outputDirectory : Option String := none
  skipValidation : Bool := false
  lenientValidation : Bool := false
  resolution : ResolutionOptions := {}

/-- The settings of a run that a checked value holds. -/
def RunOptions.ofChecked (value : Value) : RunOptions :=
  { outputDirectory := value.textAt? "output_dir"
    skipValidation := value.flagAt "skip_validation" false
    lenientValidation := value.flagAt "continue_on_validation_error" false
    resolution := ResolutionOptions.ofChecked ((value.field? "resolution").getD (.object [])) }

/-- Reads the settings of a run. -/
def RunOptions.read (value : Value) : Except Problem RunOptions :=
  match SettingsGroup.pipeline.read value with
  | .ok checked => .ok (ofChecked checked)
  | .error faults => .error (SettingsGroup.pipeline.problem faults)

/-- The settings of the whole program. -/
structure Configuration where
  inputPath : Option String := none
  outputDirectory : String := "generated"
  verbose : Bool := false
  resolveExternal : Bool := false
  domains : List String := []
  timeout : Float := 5.0
  redirects : Int := 0
  skipValidation : Bool := false
  lenientValidation : Bool := false
  lenientResolution : Bool := false

namespace Configuration

/-- The settings that a checked value holds; what it does not mention has its default. -/
def ofChecked (value : Value) : Configuration :=
  let default : Configuration := {}
  { inputPath := value.textAt? "input_path"
    outputDirectory := (value.textAt? "output_dir").getD default.outputDirectory
    verbose := value.flagAt "verbose" default.verbose
    resolveExternal := value.flagAt "resolve_external" default.resolveExternal
    domains := value.textsAt "allowed_domains"
    timeout := value.numberAt "timeout" default.timeout
    redirects := value.integerAt "max_redirects" default.redirects
    skipValidation := value.flagAt "skip_validation" default.skipValidation
    lenientValidation := value.flagAt "continue_on_validation_error" default.lenientValidation
    lenientResolution := value.flagAt "continue_on_resolution_error" default.lenientResolution }

/-- The settings for the work on one document, whose files are written or not. -/
def runOptions (config : Configuration) (write : Bool) : RunOptions :=
  { outputDirectory := if write then some config.outputDirectory else none
    skipValidation := config.skipValidation
    lenientValidation := config.lenientValidation
    resolution :=
      { external := config.resolveExternal
        lenient := config.lenientResolution
        domains := config.domains
        redirects := config.redirects
        timeout := config.timeout } }

end Configuration

end ClientGen
