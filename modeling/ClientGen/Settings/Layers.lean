import ClientGen.Document
import ClientGen.Files.Access
import ClientGen.Settings

/-!
# Layers of settings

Settings come from files and from the command line.  A file that is not there has none; one that
cannot be used has none either, and there is a warning.  Layers are laid over one another field by
field, and what the command line gives lies on top.
-/

namespace ClientGen

/-- The settings of one file, as they stand there, and a warning if the file cannot be used. -/
structure Layer where
  values : List (String × Value)
  warning : Option String

namespace Layer

/-- A layer without settings. -/
def empty : Layer := ⟨[], none⟩

/-- The layer of a file that cannot be used. -/
def ignored (path reason : String) : Layer :=
  ⟨[], some ("Ignoring config file " ++ FilePath.normal path ++ ": " ++ reason)⟩

/-- The wording of faults in the settings of a file. -/
def faultsText (faults : List Shape.Fault) : String :=
  Text.join "; " (faults.map fun fault => fault.location ++ ": " ++ fault.cause.message)

/-- The layer of a value. -/
def ofValue (path : String) (value : Value) : Layer :=
  match value with
  | .null => empty
  | value =>
    if !value.isObject then ignored path "expected a mapping at the top level"
    else match SettingsGroup.generator.read value with
      | .error faults => ignored path (faultsText faults)
      | .ok _ =>
        match value with
        | .object fields => ⟨fields, none⟩
        | _ => empty

/-- The layer of the text of a file.  Faults that the reading of a scalar meets are not those of a
file that cannot be used. -/
def ofText (path text : String) : Except Unexpected Layer :=
  match Yaml.load .settings text with
  | .ok value => .ok (ofValue path value)
  | .error .malformed => .ok (ignored path Yaml.Fault.malformed.message)
  | .error fault => .error ⟨fault.nature, fault.message⟩

/-- The layer of what reading a file gives. -/
def ofReading (path : String) : Except FileFault String → Except Unexpected Layer
  | .ok text => ofText path text
  | .error (.refused message) => .ok (ignored path message)
  | .error fault => .error fault.unexpected

/-- Reads the layer of a file; one that is not there has no settings. -/
def load {m : Type → Type} [Monad m] (files : FileAccess m) (path : String) :
    m (Except Unexpected Layer) := do
  match ← files.isFile path with
  | .error fault => return .error fault.unexpected
  | .ok false => return .ok empty
  | .ok true => return ofReading path (← files.readText path)

/-- Reads the layers of files, as far as that goes. -/
def loadAll {m : Type → Type} [Monad m] (files : FileAccess m) :
    List String → m (Except Unexpected (List Layer))
  | [] => return .ok []
  | path :: rest => do
    match ← load files path with
    | .error u => return .error u
    | .ok layer =>
      match ← loadAll files rest with
      | .error u => return .error u
      | .ok layers => return .ok (layer :: layers)

/-- The fields of layers, the lowest one first, with given fields on top. -/
def merge (layers : List Layer) (given : List (String × Value)) : List (String × Value) :=
  Entries.overlay given (layers.foldl (fun all layer => Entries.overlay layer.values all) [])

/-- The fields that are given: null stands for what is not. -/
def givenFields (given : List (String × Value)) : List (String × Value) :=
  given.filter fun field =>
    match field.2 with
    | .null => false
    | _ => true

end Layer

/-- Why there is no configuration. -/
inductive ConfigurationFault where
  | invalid (faults : List Shape.Fault)
  | unexpected (u : Unexpected)

/-- The wording of settings that are refused. -/
def invalidSettings (faults : List Shape.Fault) : String :=
  "Invalid configuration: " ++ Shape.report SettingsGroup.generator.title faults

namespace Configuration

/-- The configuration of layers, the lowest one first, with given fields on top. -/
def ofLayers (layers : List Layer) (given : List (String × Value)) :
    Except (List Shape.Fault) Configuration :=
  match SettingsGroup.generator.read (.object (Layer.merge layers (Layer.givenFields given))) with
  | .ok checked => .ok (ofChecked checked)
  | .error faults => .error faults

/-- Reads the configuration of files, the lowest one first, with given fields on top, and the
warnings about files that cannot be used. -/
def load {m : Type → Type} [Monad m] (files : FileAccess m) (paths : List String)
    (given : List (String × Value)) :
    m (Except ConfigurationFault (Configuration × List String)) := do
  match ← Layer.loadAll files paths with
  | .error u => return .error (.unexpected u)
  | .ok layers =>
    match ofLayers layers given with
    | .error faults => return .error (.invalid faults)
    | .ok config => return .ok (config, layers.filterMap Layer.warning)

end Configuration

end ClientGen
