import ClientGen.Json.Writer
import ClientGen.Report.Layout
import ClientGen.Validation

/-!
# The report on validations

One block per file: a line for a valid one, and the issues of any other.
-/

namespace ClientGen.Report

/-- The lines of an issue. -/
def issueLines (issue : Issue) : List String :=
  ["   Path: " ++ issue.path, "   Error: " ++ issue.message] ++
    (match issue.value with
     | .null => []
     | value => ["   Value: " ++ Json.compact .ascii value]) ++
    [""]

/-- The block of a file. -/
def validationBlock (path : String) (v : Validation) : List String :=
  if v.isValid then [okMark ++ " " ++ path ++ ": Valid"]
  else
    (failMark ++ " " ++ path ++ ": Invalid (" ++ counted v.issues.length "error" ++ ")") ::
      v.issues.flatMap issueLines

/-- The blocks of files, the first of which has number `i`; those without a path are named by their
number. -/
def validationBlocks (i : Nat) : List Validation → List String → List String
  | [], _ => []
  | v :: rest, [] => validationBlock ("File " ++ toString i) v ++ validationBlocks (i + 1) rest []
  | v :: rest, path :: paths => validationBlock path v ++ validationBlocks (i + 1) rest paths

/-- The report on some validations and the paths of their files. -/
def validation (results : List Validation) (paths : List String) : String :=
  let valid := results.countP Validation.isValid
  ofLines
    (heading "OpenAPI Validation Report" ++
      [countLine "Total files" results.length, countLine "Valid files" valid,
        countLine "Invalid files" (results.length - valid), ""] ++
      validationBlocks 1 results paths)

end ClientGen.Report
