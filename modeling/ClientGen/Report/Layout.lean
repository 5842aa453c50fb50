/-!
# The layout of reports

Reports are lines of text.  They start with an underlined title and an empty line, and marks stand
for what is right, wrong or doubtful.
-/

namespace ClientGen.Report

/-- The mark of what is right. -/
def okMark : String := "✅"

/-- The mark of what is wrong. -/
def failMark : String := "❌"

/-- The mark of what is doubtful. -/
def warnMark : String := "⚠️"

/-- The lines of a title. -/
def heading (title : String) : List String :=
  [title, String.ofList (List.replicate title.length '='), ""]

/-- A number with its noun. -/
def counted (count : Nat) (noun : String) : String :=
  toString count ++ " " ++ noun ++ (if count = 1 then "" else "s")

/-- A line that gives a number. -/
def countLine (label : String) (count : Nat) : String :=
  label ++ ": " ++ toString count

/-- The text of lines. -/
def ofLines (lines : List String) : String :=
  String.intercalate "\n" lines

/-- Lines that are only there under a condition. -/
def linesWhen (condition : Bool) (lines : List String) : List String :=
  if condition then lines else []

/-- Groups by a key, keys in the order of their first appearance. -/
def groupBy {α κ : Type} [DecidableEq κ] (key : α → κ) (xs : List α) : List (κ × List α) :=
  ((xs.map key).foldl (fun keys k => if k ∈ keys then keys else keys ++ [k]) []).map fun k =>
    (k, xs.filter fun x => key x = k)

/-- Lines that count the values of a key. -/
def tallyLines {α : Type} (key : α → String) (xs : List α) : List String :=
  (groupBy key xs).map fun group => countLine ("  " ++ group.1) group.2.length

end ClientGen.Report
