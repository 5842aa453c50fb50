import ClientGen.FilePath
import ClientGen.Text.Search

/-!
# Where settings are kept

A user keeps settings in a file of the directory for configurations, on systems that have one, and
else in a file of the home directory; a project keeps them in a file of its own directory.
-/

namespace ClientGen

/-- What a run knows of the machine it is on: the home directory, the directory for configurations
(empty when it is not set), the system, and the working directory. -/
structure Environment where
  home : String
  configHome : String
  system : String
  directory : String

namespace Environment

/-- The name of the program among the configurations. -/
def application : String := "httpapigen"

/-- The name of the file of settings in a directory that is not for configurations alone. -/
def hiddenFile : String := ".httpapigenrc"

/-- The name of the file of settings in the directory of the program. -/
def plainFile : String := "config.json"

/-- The home directory without slashes at its end. -/
def homeDirectory (env : Environment) : String :=
  let home := Text.dropTrailing '/' env.home
  if home.isEmpty then "/" else home

/-- Whether the system has a directory for configurations. -/
def hasConfigHome (env : Environment) : Bool :=
  env.system == "Linux" || Text.endsWith "BSD" env.system

/-- The directory of the program among the configurations. -/
def configDirectory (env : Environment) : String :=
  FilePath.child
    (if env.configHome.isEmpty then FilePath.child env.homeDirectory ".config" else env.configHome)
    application

/-- The file of the user's settings. -/
def userFile (env : Environment) : String :=
  if env.hasConfigHome then FilePath.child env.configDirectory plainFile
  else FilePath.child env.homeDirectory hiddenFile

/-- The file of the settings of the project in a directory. -/
def projectFile (directory : String) : String :=
  FilePath.child directory hiddenFile

end Environment

end ClientGen
