import ClientGen.Batch
import ClientGen.Command.Arguments
import ClientGen.Console
import ClientGen.Decimal.Numeral

/-!
# Invocations of the program

A command line asks for help or the version, is misused, or gives one of the commands with its
options. Options in front of the command say how things are shown.  Asking for help or the version
takes precedence over everything that stands in the same place.
-/

namespace ClientGen

/-- The options in front of the command. -/
structure DisplayOptions where
  json : Bool
  plain : Bool
  noColour : Bool
  quiet : Bool
  verbose : Bool
  deriving Repr, DecidableEq

/-- The options of code generation; what is not given is left to the settings in files. -/
structure GenerateOptions where
  input : Option String
  output : Option String
  resolveExternal : Option Bool
  domains : List String
  timeout : Option Float
  skipValidation : Option Bool
  lenient : Option Bool

/-- The views of a document. -/
inductive View where
  | summary
  | paths
  | schemas
  | refs
  | groups
  deriving Repr, DecidableEq

/-- The view of a word. -/
def View.ofName? : String → Option View
  | "summary" => some .summary
  | "paths" => some .paths
  | "schemas" => some .schemas
  | "refs" => some .refs
  | "groups" => some .groups
  | _ => none

/-- A command. -/
inductive Command where
  | generate (options : GenerateOptions)
  | validate (files : List String) (policy : BatchPolicy) (workers : Option Int)
  | inspect (view : View) (file : String) (resolveExternal : Bool)

/-- What a command line asks for. -/
inductive Invocation where
  /-- Help, because it was asked for or because there is nothing else to do. -/
  | help (wanted : Bool)
  | version
  | misuse (fault : UsageFault)
  | perform (display : DisplayOptions) (command : Command)

namespace Invocation

/-- A switch that is turned on by its names. -/
def switch (key : String) (names : List String) : OptionRule :=
  ⟨names, key, some Arguments.isOn.switchedOn⟩

/-- A switch that is turned off by its names. -/
def switchOff (key : String) (names : List String) : OptionRule :=
  ⟨names, key, some "off"⟩

/-- An option that takes a value. -/
def valued (key : String) (names : List String) : OptionRule :=
  ⟨names, key, none⟩

/-- The option that asks for help. -/
def helpRule : OptionRule := switch "help" ["--help"]

/-- The options in front of the command. -/
def displayRules : List OptionRule :=
  [switch "version" ["--version"], switch "json" ["--json"], switch "plain" ["--plain"],
   switch "no-color" ["--no-color"], switch "quiet" ["--quiet", "-q"],
   switch "verbose" ["--verbose", "-v"], helpRule]

/-- The options of code generation. -/
def generateRules : List OptionRule :=
  [valued "input" ["--input", "-i"], valued "output" ["--output", "-o"],
   switch "resolve-external" ["--resolve-external"],
   switchOff "resolve-external" ["--no-resolve-external"],
   valued "allowed-domain" ["--allowed-domain"], valued "timeout" ["--timeout"],
   switch "skip-validation" ["--skip-validation"],
   switch "continue-on-error" ["--continue-on-error"], helpRule]

/-- The options of validation. -/
def validateRules : List OptionRule :=
  [switch "collect" ["--collect"], switchOff "collect" ["--fail-fast"],
   valued "workers" ["--workers"], helpRule]

/-- The options of a view. -/
def viewRules : List OptionRule :=
  [switch "resolve-external" ["--resolve-external"], helpRule]

/-- Goes on with arguments that do not ask for help. -/
def unlessHelp (scanned : Except UsageFault Arguments) (next : Arguments → Invocation) :
    Invocation :=
  match scanned with
  | .error fault => .misuse fault
  | .ok arguments => if arguments.isOn "help" then .help true else next arguments

/-- A command, or why the command line gives none. -/
def ofCommand (display : DisplayOptions) : Except UsageFault Command → Invocation
  | .ok command => .perform display command
  | .error fault => .misuse fault

/-- The value of a switch, if it is given. -/
def switchValue (arguments : Arguments) (key : String) : Option Bool :=
  (arguments.last? key).map fun _ => arguments.isOn key

/-- The number given for an option. -/
def floatOption (arguments : Arguments) (key : String) : Except UsageFault (Option Float) :=
  match arguments.last? key with
  | none => .ok none
  | some text =>
    match Numeral.float? text with
    | some x => .ok (some x)
    | none => .error (.badValue ("--" ++ key) text)

/-- The positive integer given for an option. -/
def countOption (arguments : Arguments) (key : String) : Except UsageFault (Option Int) :=
  match arguments.last? key with
  | none => .ok none
  | some text =>
    match Numeral.integer? text with
    | some n => if 1 ≤ n then .ok (some n) else .error (.badValue ("--" ++ key) text)
    | none => .error (.badValue ("--" ++ key) text)

/-- Code generation with the given arguments. -/
def generate (arguments : Arguments) : Except UsageFault Command := do
  if !arguments.others.isEmpty then throw (.furtherArguments arguments.others)
  let timeout ← floatOption arguments "timeout"
  return .generate
    { input := arguments.last? "input"
      output := arguments.last? "output"
      resolveExternal := switchValue arguments "resolve-external"
      domains := arguments.all "allowed-domain"
      timeout
      skipValidation := switchValue arguments "skip-validation"
      lenient := switchValue arguments "continue-on-error" }

/-- Validation with the given arguments. -/
def validate (arguments : Arguments) : Except UsageFault Command := do
  if arguments.others.isEmpty then throw (.missingArgument "FILES...")
  let workers ← countOption arguments "workers"
  let policy := if arguments.isOn "collect" then BatchPolicy.collect else .failFast
  return .validate arguments.others policy workers

/-- A view with the given arguments. -/
def inspect (view : View) (arguments : Arguments) : Except UsageFault Command :=
  match arguments.others with
  | [] => .error (.missingArgument "FILE")
  | [file] => .ok (.inspect view file (arguments.isOn "resolve-external"))
  | _ :: others => .error (.furtherArguments others)

/-- Whether an option stands above the command. -/
def isUrgent (option : String × String) : Bool :=
  option.1 == "help" || option.1 == "version"

/-- What options ask for that stand above the command. -/
def urgent? (arguments : Arguments) : Option Invocation :=
  (arguments.options.find? isUrgent).map fun option =>
    if option.1 == "version" then .version else .help true

/-- What is asked for where a command should stand and another word does: it may be an option that
stands above the command. -/
def ofStray (rules : List OptionRule) (name : String) (rest : List String) : Invocation :=
  match Arguments.scan rules false (name :: rest) with
  | .error fault => .misuse fault
  | .ok scanned => (urgent? scanned).getD (.misuse (.unknownCommand name))

/-- What a command line asks for behind the command for views. -/
def ofViewArguments (display : DisplayOptions) (arguments : List String) : Invocation :=
  if arguments.isEmpty then .help false
  else
    unlessHelp (Arguments.scan [helpRule] false arguments) fun scanned =>
      match scanned.others with
      | [] => .misuse .missingCommand
      | name :: rest =>
        match View.ofName? name with
        | none => ofStray [helpRule] name rest
        | some view =>
          unlessHelp (Arguments.scan viewRules true rest) fun own =>
            ofCommand display (inspect view own)

/-- What a command line asks for behind the options in front of the command. -/
def ofCommandArguments (display : DisplayOptions) : List String → Invocation
  | [] => .misuse .missingCommand
  | "generate" :: rest =>
    unlessHelp (Arguments.scan generateRules true rest) fun own => ofCommand display (generate own)
  | "validate" :: rest =>
    unlessHelp (Arguments.scan validateRules true rest) fun own => ofCommand display (validate own)
  | "inspect" :: rest => ofViewArguments display rest
  | name :: rest => ofStray displayRules name rest

/-- How things are shown, by the options in front of the command. -/
def displayOf (arguments : Arguments) : DisplayOptions :=
  { json := arguments.isOn "json"
    plain := arguments.isOn "plain"
    noColour := arguments.isOn "no-color"
    quiet := arguments.isOn "quiet"
    verbose := arguments.isOn "verbose" }

/-- What a command line asks for. -/
def ofArguments (arguments : List String) : Invocation :=
  if arguments.isEmpty then .help false
  else match Arguments.scan displayRules false arguments with
    | .error fault => .misuse fault
    | .ok scanned =>
      (urgent? scanned).getD (ofCommandArguments (displayOf scanned) scanned.others)

end Invocation

/-- The format of data that the options in front of the command choose. -/
def DisplayOptions.format? (display : DisplayOptions) : Option OutputFormat :=
  if display.json then some .json else if display.plain then some .plain else none

/-- The console that the options in front of the command ask for. -/
def DisplayOptions.console (display : DisplayOptions) (screen : Screen) : Console :=
  Console.create display.format? display.noColour display.quiet display.verbose screen

end ClientGen
