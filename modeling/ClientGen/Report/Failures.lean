import ClientGen.Failure
import ClientGen.Report.Layout

/-!
# The reports on failures

A summary counts failures by stage, and a report lists them by file with their details.
-/

namespace ClientGen.Report

/-- Failures by stage, in the order of their first appearance. -/
def byStage (failures : List Failure) : List (Stage × List Failure) :=
  groupBy Failure.stage failures

/-- Failures by file, in the order of their first appearance. -/
def byFile (failures : List Failure) : List (String × List Failure) :=
  groupBy Failure.file failures

/-- How many failures each stage has. -/
def failureSummary (failures : List Failure) : String :=
  if failures.isEmpty then "No errors"
  else
    ofLines (countLine "Total errors" failures.length ::
      (byStage failures).map fun group => countLine ("  " ++ group.1.name) group.2.length)

/-- The lines of a failure.  Of a validation, the first detail repeats the message; the details of
references that were not resolved are the references. -/
def failureLines (f : Failure) : List String :=
  let details := if f.stage = .validation then f.details.drop 1 else f.details
  let lead := match f.kind with
    | .resolutionIncomplete | .circularUnresolved => "Unresolved: "
    | _ => ""
  ("  - " ++ f.line) :: details.map fun detail => "      " ++ lead ++ detail

/-- Every failure with its details, by file. -/
def failures (failures : List Failure) : String :=
  if failures.isEmpty then okMark ++ " No errors found"
  else
    ofLines (heading (failMark ++ " Error Report") ++
      (byFile failures).flatMap fun group =>
        ((if group.1.isEmpty then "<unknown>" else group.1) ++ ":") ::
          group.2.flatMap failureLines ++ [""])

end ClientGen.Report
