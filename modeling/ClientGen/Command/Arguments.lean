import ClientGen.Text.Search
import ClientGen.Value

/-!
# Options on a command line

An option has a long name, which starts with two dashes, or a letter, which starts with one; some
take a value.  The value of a long option stands in the next argument or behind an equals sign, that
of a letter in the rest of the argument or in the next one, and letters without values may share an
argument.  Two dashes alone end the options.  `Arguments.scan` tells options from other arguments.
-/

namespace ClientGen

/-- An option: its names, what it stands for, and the value that it gives, unless it takes the value
from the command line. -/
structure OptionRule where
  names : List String
  key : String
  constant : Option String

/-- Options in the order in which they are given, each with its value, and the other arguments. -/
structure Arguments where
  options : List (String × String)
  others : List String
  deriving Repr, DecidableEq

/-- Why a command line cannot be read. -/
inductive UsageFault where
  | unknownOption (name : String)
  | missingValue (name : String)
  | needlessValue (name : String)
  | missingCommand
  | unknownCommand (name : String)
  | missingArgument (name : String)
  | furtherArguments (arguments : List String)
  | badValue (option value : String)
  deriving Repr, DecidableEq

/-- The wording of a fault. -/
def UsageFault.message : UsageFault → String
  | unknownOption name => "No such option: " ++ name
  | missingValue name => "Option '" ++ name ++ "' requires an argument."
  | needlessValue name => "Option '" ++ name ++ "' does not take a value."
  | missingCommand => "Missing command."
  | unknownCommand name => "No such command '" ++ name ++ "'."
  | missingArgument name => "Missing argument '" ++ name ++ "'."
  | furtherArguments arguments => "Got unexpected extra arguments: " ++ " ".intercalate arguments
  | badValue option value => "Invalid value for '" ++ option ++ "': '" ++ value ++ "'"

namespace Arguments

/-- An argument that starts with a dash, as options: those that are complete, and one that takes its
value from the next argument. -/
structure Reading where
  complete : List (String × String)
  pending : Option OptionRule

/-- The rule of a name. -/
def rule? (rules : List OptionRule) (name : String) : Option OptionRule :=
  rules.find? fun rule => rule.names.contains name

/-- The options of letters that share an argument. -/
def letters (rules : List OptionRule) : List Char → Except UsageFault Reading
  | [] => .ok ⟨[], none⟩
  | c :: rest =>
    let name := String.ofList ['-', c]
    match rule? rules name with
    | none => .error (.unknownOption name)
    | some rule =>
      match rule.constant with
      | some constant => do
        let more ← letters rules rest
        return ⟨(rule.key, constant) :: more.complete, more.pending⟩
      | none =>
        if rest.isEmpty then .ok ⟨[], some rule⟩
        else .ok ⟨[(rule.key, String.ofList rest)], none⟩

/-- The option of a rule, with the value behind the equals sign if there is one. -/
def long (rule : OptionRule) (name : String) : Option String → Except UsageFault Reading
  | some value =>
    match rule.constant with
    | some _ => .error (.needlessValue name)
    | none => .ok ⟨[(rule.key, value)], none⟩
  | none =>
    match rule.constant with
    | some constant => .ok ⟨[(rule.key, constant)], none⟩
    | none => .ok ⟨[], some rule⟩

/-- The name of an option and the value behind the equals sign, if there is one. -/
def splitValue (argument : String) : String × Option String :=
  let cs := argument.toList
  let name := cs.takeWhile (· ≠ '=')
  if name.length < cs.length then
    (String.ofList name, some (String.ofList (cs.drop (name.length + 1))))
  else (argument, none)

/-- Whether a name is that of a long option. -/
def isLong (name : String) : Bool :=
  Text.startsWith "--" name

/-- An argument that starts with a dash, as options. -/
def read (rules : List OptionRule) (argument : String) : Except UsageFault Reading :=
  let (name, value) := splitValue argument
  match if isLong name then rule? rules name else none with
  | some rule => long rule name value
  | none =>
    if isLong argument then .error (.unknownOption name)
    else letters rules (argument.toList.drop 1)

/-- Whether an argument is read as options. -/
def isOption (argument : String) : Bool :=
  match argument.toList with
  | '-' :: _ :: _ => true
  | _ => false

/-- Adds options in front. -/
def withOptions (options : List (String × String)) (a : Arguments) : Arguments :=
  { a with options := options ++ a.options }

/-- Adds another argument in front. -/
def withOther (argument : String) (a : Arguments) : Arguments :=
  { a with others := argument :: a.others }

/-- Tells options from other arguments; where `mixed` is false, the first other argument ends the
options. -/
def scan (rules : List OptionRule) (mixed : Bool) : List String → Except UsageFault Arguments
  | [] => .ok ⟨[], []⟩
  | argument :: rest =>
    if argument = "--" then .ok ⟨[], rest⟩
    else if isOption argument then do
      let reading ← read rules argument
      match reading.pending with
      | none => return (← scan rules mixed rest).withOptions reading.complete
      | some rule =>
        match rest with
        | value :: rest =>
          return (← scan rules mixed rest).withOptions (reading.complete ++ [(rule.key, value)])
        | [] => throw (.missingValue (rule.names.headD ""))
    else if mixed then (scan rules mixed rest).map (withOther argument)
    else .ok ⟨[], argument :: rest⟩

/-- The last value given for an option. -/
def last? (a : Arguments) (key : String) : Option String :=
  (a.options.reverse.find? fun option => option.1 == key).map (·.2)

/-- Every value given for an option. -/
def all (a : Arguments) (key : String) : List String :=
  (a.options.filter fun option => option.1 == key).map (·.2)

/-- Whether an option is given last with the value of a switch that is on. -/
def isOn (a : Arguments) (key : String) : Bool :=
  a.last? key == some switchedOn
where
  /-- The value of a switch that is on. -/
  switchedOn : String := "on"

end Arguments

end ClientGen
