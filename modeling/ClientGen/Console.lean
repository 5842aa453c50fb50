import ClientGen.Console.Markup
import ClientGen.Json.Writer
import ClientGen.Log

/-!
# The console

A command says things of different kinds.  Data goes to the standard output, as text, JSON or a
table; all else goes to the error output, with a lead that tells its kind.  A quiet console leaves
out what is not essential, and only a verbose one shows what helps with finding faults.  What a
console shows of a message depends on nothing but the console and the message (`Console.render`).

Styles are not modelled, and neither is the layout of JSON and tables on an interactive screen: in
the rich format data is given as its text alone.
-/

namespace ClientGen

/-- How data is shown. -/
inductive OutputFormat where
  | json
  | plain
  /-- The format of an interactive screen. -/
  | rich
  deriving Repr, DecidableEq

namespace OutputFormat

/-- The word for a format. -/
def name : OutputFormat → String
  | json => "json"
  | plain => "plain"
  | rich => "rich"

/-- The format of a word. -/
def ofName? (name : String) : Option OutputFormat :=
  [json, plain, rich].find? (·.name == name)

end OutputFormat

/-- What a run knows of the screen: whether there is one, whether it asks for no colours, and its
width. -/
structure Screen where
  isInteractive : Bool
  colourless : Bool
  width : Nat

/-- How things are shown. -/
structure Console where
  format : OutputFormat
  colourless : Bool
  quiet : Bool
  verbose : Bool
  width : Nat

/-- Something that a command says. -/
inductive Message where
  | data (text : String)
  | json (value : Value)
  | table (headers : List String) (rows : List (List String))
  | info (text : String)
  | success (text : String)
  | warning (text : String)
  | error (text : String)
  | suggestion (text : String)
  | debug (text : String)
  | record (r : LogRecord)

/-- What is written to the two outputs. -/
structure Streams where
  output : String
  errors : String
  deriving Repr, DecidableEq

namespace Streams

/-- Nothing. -/
def empty : Streams := ⟨"", ""⟩

/-- What is written first and what is written then. -/
def append (first then_ : Streams) : Streams :=
  ⟨first.output ++ then_.output, first.errors ++ then_.errors⟩

/-- A line of the standard output. -/
def ofData (text : String) : Streams := ⟨text ++ "\n", ""⟩

/-- A line of the error output. -/
def ofDiagnostic (text : String) : Streams := ⟨"", text ++ "\n"⟩

end Streams

namespace Console

/-- A console for a screen; where no format is chosen, an interactive screen with colours is used to
the full. -/
def create (choice : Option OutputFormat) (noColour quiet verbose : Bool) (screen : Screen) :
    Console :=
  let colourless := noColour || screen.colourless
  { format := choice.getD (if screen.isInteractive && !colourless then .rich else .plain)
    colourless, quiet, verbose
    width := screen.width }

/-- A line of the error output: as it is on a console without colours, else from markup. -/
def diagnostic (console : Console) (text markup : String) : Except Markup.Fault Streams :=
  if console.colourless then .ok (.ofDiagnostic text)
  else (Markup.plain console.width markup).map Streams.ofDiagnostic

/-- A line of the error output that a quiet console leaves out. -/
def unlessQuiet (console : Console) (text markup : String) : Except Markup.Fault Streams :=
  if console.quiet then .ok .empty else console.diagnostic text markup

/-- The rows of a table as objects with the headers as names. -/
def tableValue (headers : List String) (rows : List (List String)) : Value :=
  .list (rows.map fun row =>
    .object (Entries.ofList ((headers.zip row).map fun (header, cell) => (header, .str cell))))

/-- The lines of a table: headers and rows, with tabulators between cells. -/
def tableText (headers : List String) (rows : List (List String)) : String :=
  String.join ((headers :: rows).map fun row => Text.join "\t" row ++ "\n")

/-- A table on the standard output.  In the rich format the frame around it is not modelled: it has
the text of the plain format. -/
def showTable (console : Console) (headers : List String) (rows : List (List String)) : Streams :=
  match console.format with
  | .json => .ofData (Json.indented (tableValue headers rows))
  | .plain | .rich => ⟨tableText headers rows, ""⟩

/-- The columns of the level of a record. -/
def levelWidth : Nat := 8

/-- The text for the level of a record. -/
def levelText (level : LogLevel) : String :=
  level.name ++ String.ofList (List.replicate (levelWidth - level.name.length) ' ')

/-- A record of the log on a screen of some width: its level, and its message with all lines below
one another.  The screen is taken to be wide enough for a message beside the level. -/
def recordText (width : Nat) (record : LogRecord) : String :=
  let message := Markup.layOut (width - (levelWidth + 1))
    (record.message.toList.filter Markup.isShown)
  levelText record.level ++ " " ++
    Text.replace "\n" ("\n" ++ String.ofList (List.replicate (levelWidth + 1) ' '))
      (String.ofList message)

/-- What a console shows of a message. -/
def render (console : Console) : Message → Except Markup.Fault Streams
  | .data text => .ok (.ofData text)
  | .json value => .ok (.ofData (Json.indented value))
  | .table headers rows => .ok (console.showTable headers rows)
  | .info text => console.unlessQuiet text text
  | .success text => console.unlessQuiet text ("[green]" ++ text ++ "[/green]")
  | .warning text =>
    console.diagnostic ("Warning: " ++ text) ("[yellow]Warning:[/yellow] " ++ text)
  | .error text => console.diagnostic ("Error: " ++ text) ("[bold red]Error:[/bold red] " ++ text)
  | .suggestion text => console.unlessQuiet ("→ " ++ text) ("[dim]→ " ++ text ++ "[/dim]")
  | .debug text =>
    if console.verbose then
      console.diagnostic ("[debug] " ++ text) ("[dim]\\[debug] " ++ text ++ "[/dim]")
    else .ok .empty
  | .record r =>
    if r.isShown (LogLevel.threshold console.verbose console.quiet) then
      .ok (.ofDiagnostic (recordText console.width r))
    else .ok .empty

/-- What a console shows of messages in order, up to one that cannot be shown. -/
def renderAll (console : Console) : List Message → Streams × Option Markup.Fault
  | [] => (.empty, none)
  | message :: rest =>
    match console.render message with
    | .error fault => (.empty, some fault)
    | .ok streams =>
      let (more, fault) := renderAll console rest
      (streams.append more, fault)

/-- Whether a console can show all of some messages. -/
def canShow (console : Console) (messages : List Message) : Bool :=
  (console.renderAll messages).2.isNone

end Console

end ClientGen
