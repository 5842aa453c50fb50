import ClientGen.Api
import ClientGen.Report.Layout
import ClientGen.Resolution

/-!
# The reports on a resolution and on an API

The report on a resolution has every reference of the document with what became of it, the
references that were not resolved, and the errors that were put on record.  The report on an API has
title and version, servers, and how many operations and components there are.
-/

namespace ClientGen.Report

/-! ### Resolutions -/

/-- The line of a reference of the document. -/
def referenceLine (r : Resolution) (ref : String) : String :=
  let (mark, note) :=
    if r.linked.contains ref then (okMark, " (linked)")
    else if r.circular.contains ref then (warnMark, " (circular)")
    else if r.remaining.contains ref then (failMark, "")
    else (okMark, "")
  "  " ++ mark ++ " " ++ ref ++ note

/-- A section with a title, unless it is empty. -/
def sectionLines (title : String) (lines : List String) : List String :=
  linesWhen (!lines.isEmpty) ((title ++ ":") :: lines ++ [""])

/-- The report on a resolution. -/
def resolution (r : Resolution) : String :=
  let unresolved := r.remaining.filter fun ref =>
    !r.linked.contains ref && !r.circular.contains ref
  let resolved : Int := (r.references.length : Int) - r.remaining.length
  ofLines
    (heading "Reference Resolution Report" ++
      [countLine "Original references found" r.references.length,
        countLine "Remaining unresolved references" r.remaining.length,
        "Successfully resolved: " ++ toString resolved] ++
      linesWhen (!r.linked.isEmpty) [countLine "Kept as component links" r.linked.length] ++
      linesWhen (!r.circular.isEmpty) [countLine "Circular references" r.circular.length] ++
      [""] ++
      sectionLines "Original references" (r.references.map (referenceLine r)) ++
      sectionLines "Unresolved references"
        (unresolved.map fun ref => "  " ++ failMark ++ " " ++ ref) ++
      sectionLines "Errors" (r.errors.map fun message => "  - " ++ message))

/-! ### APIs -/

/-- Whether there is a text that is not empty. -/
def isGiven (text : Option String) : Bool :=
  text.any fun s => !s.isEmpty

/-- The line of a server. -/
def serverLine (server : ServerInfo) : String :=
  "  - " ++ server.url ++
    (if isGiven server.description then " (" ++ server.description.getD "" ++ ")" else "")

/-- The lines that count components, those that there are none of left out. -/
def componentLines (components : Components) : List String :=
  let counts :=
    [("schemas", components.schemas.length), ("responses", components.responses.length),
     ("parameters", components.parameters.length), ("requestBodies", components.bodies.length)]
  counts.filterMap fun (name, count) =>
    if count = 0 then none else some (countLine ("  " ++ name) count)

/-- Lines under a heading, with an empty line behind them, unless there are none. -/
def block (title : String) (lines : List String) : List String :=
  linesWhen (!lines.isEmpty) (title :: lines ++ [""])

/-- The report on an API. -/
def extraction (api : Api) : String :=
  ofLines
    (heading "API Data Extraction Report" ++
      ["API: " ++ api.info.title ++ " (v" ++ api.info.version ++ ")"] ++
      linesWhen (isGiven api.info.description)
        ["Description: " ++ api.info.description.getD ""] ++
      [""] ++
      block (countLine "Servers" api.servers.length) (api.servers.map serverLine) ++
      [countLine "Paths" api.paths.length, countLine "Operations" api.operations.length, ""] ++
      block "HTTP Methods:" (tallyLines Operation.method api.operations) ++
      block "Components:" (componentLines api.components) ++
      linesWhen (!api.tags.isEmpty)
        ["Tags: " ++ String.intercalate ", " (api.tags.map TagInfo.name), ""])

end ClientGen.Report
