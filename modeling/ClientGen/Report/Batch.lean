import ClientGen.Work
import ClientGen.Report.Layout

/-!
# The report on a batch

How many documents went through, by format, the documents that did with the issues that were
tolerated, and those that failed.
-/

namespace ClientGen.Report

/-- How many issues of a document are listed. -/
def maxIssues : Nat := 3

/-- The lines of a document that went through. -/
def productLines (product : Product) : List String :=
  let issues := product.accepted.issues
  let info := product.api.info
  let mark := if issues.isEmpty then okMark else warnMark
  let note :=
    if issues.isEmpty then "" else " (" ++ counted issues.length "validation error" ++ ")"
  ["  " ++ mark ++ " " ++ product.path ++ " - " ++ info.title ++ " v" ++ info.version ++ note] ++
    (issues.take maxIssues).map (fun issue => "    - " ++ issue.path ++ ": " ++ issue.message) ++
    linesWhen (decide (maxIssues < issues.length))
      ["    ... and " ++ toString (issues.length - maxIssues) ++ " more"]

/-- The format of a product in capitals. -/
def formatLabel (product : Product) : String :=
  match product.accepted.document.format with
  | .json => "JSON"
  | .yaml => "YAML"

/-- The report on the documents of a batch. -/
def batch (products : List Product) (failures : List Failure) : String :=
  let tolerated := products.filter fun product => !product.accepted.issues.isEmpty
  ofLines
    (heading "OpenAPI Parsing Report" ++
      [countLine "Total files processed" (products.length + failures.length),
        countLine "Successful parses" products.length,
        countLine "Failed parses" failures.length,
        countLine "Valid specifications" (products.length - tolerated.length),
        countLine "Invalid specifications" tolerated.length, ""] ++
      linesWhen (!products.isEmpty)
        (("File formats:" :: tallyLines formatLabel products) ++ [""] ++
          ((okMark ++ " Successfully parsed files:") :: products.flatMap productLines) ++ [""]) ++
      linesWhen (!failures.isEmpty)
        (((failMark ++ " Failed files:") ::
          failures.map fun f => "  " ++ failMark ++ " " ++ f.shownFile ++ ": " ++ f.line) ++ [""]))

end ClientGen.Report
