import ClientGen.CommandLine

/-!
# The program

The command line on a machine: files are those of its disk, settings for the screen and the places
of files come from its variables, and there is no connection to servers, so that every request
fails.
-/

namespace ClientGen.Machine

/-- The outcome of an action that the system may refuse. -/
def attempt {α : Type} (action : IO α) : IO (Except FileFault α) := do
  try
    return .ok (← action)
  catch e => return .error (.refused (toString e))

/-- Whether there is a directory at a path; nothing when there is nothing at all. -/
def kind? (path : String) : IO (Option Bool) := do
  try
    return some (← (← IO.FS.realPath path).isDir)
  catch _ => return none

/-- The calls on the files of the disk. -/
def files : FileAccess IO where
  isPresent path := return .ok (← kind? path).isSome
  isDirectory path := return .ok ((← kind? path) == some true)
  isFile path := return .ok ((← kind? path) == some false)
  readText path := do
    return (← attempt (IO.FS.readBinFile path)) >>= fun octets => FileAccess.textOf octets.toList
  writeText path text := attempt (IO.FS.writeFile path text)
  makeDirectory path := attempt (IO.FS.createDirAll path)

/-- What a run knows of the machine. -/
def environment : IO Environment := do
  return {
    home := (← IO.getEnv "HOME").getD ""
    configHome := (← IO.getEnv "XDG_CONFIG_HOME").getD ""
    system := "Linux"
    directory := toString (← IO.currentDir) }

/-- The width of a screen that does not tell its own. -/
def usualWidth : Nat := 80

/-- What a run knows of the screen. -/
def screen : IO Screen := do
  return {
    isInteractive := ← (← IO.getStdout).isTty
    colourless := (← IO.getEnv "NO_COLOR").isSome || (← IO.getEnv "TERM") == some "dumb"
    width := ((← IO.getEnv "COLUMNS").bind String.toNat?).getD usualWidth }

/-- Servers that cannot be reached. -/
def transport : Net.Transport := fun _ => .broken "There is no connection"

/-- How the program is used. -/
def helpText : String :=
  Text.join "\n"
    ["Usage: httpapigen [OPTIONS] COMMAND [ARGS]...", "",
     "Generate Effect platform HttpApi definitions from OpenAPI 3.0/3.1 documents.", "",
     "Options: --version --json --plain --no-color -q/--quiet -v/--verbose --help", "",
     "Commands:",
     "  generate  -i/--input PATH -o/--output DIRECTORY --[no-]resolve-external",
     "            --allowed-domain DOMAIN --timeout SECONDS --skip-validation",
     "            --continue-on-error",
     "  validate  FILES... --collect/--fail-fast --workers NUMBER",
     "  inspect   summary|paths|schemas|refs|groups FILE --resolve-external"]

/-- Writes what a command shows. -/
def write (streams : Streams) : IO Unit := do
  IO.print streams.output
  IO.eprint streams.errors

/-- Carries out what a command line asks for. -/
def run : Invocation → IO Nat
  | .help wanted => do
    IO.println helpText
    return (if wanted then ExitCode.success else .usage).toNat
  | .version => do
    IO.println versionText
    return ExitCode.success.toNat
  | .misuse fault => do
    IO.eprintln helpText
    IO.eprintln fault.message
    return ExitCode.usage.toNat
  | .perform display command => do
    let place : Workplace IO := .served files transport (← environment)
    match ← command.run place (← screen) display with
    | .ok ending => do
      write ending.streams
      return ending.code
    | .error fault => do
      IO.eprintln fault.message
      return ExitCode.generic.toNat

end ClientGen.Machine

/-- Runs the program with the arguments of its command line. -/
def main (arguments : List String) : IO UInt32 := do
  return UInt32.ofNat (← ClientGen.Machine.run (ClientGen.Invocation.ofArguments arguments))
