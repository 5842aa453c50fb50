import ClientGen.Files.Tree
import ClientGen.Main
import ClientGen.Naming
import ClientGen.Report.Batch
import ClientGen.Work.Many
import ClientGen.Proofs.Entries
import ClientGen.Proofs.Outcome
import ClientGen.Proofs.Text
import ClientGen.Proofs.Shape
import ClientGen.Proofs.Shape.Closed
import ClientGen.Proofs.Yaml.Keys
import ClientGen.Proofs.Validation
import ClientGen.Proofs.Reference
import ClientGen.Proofs.Pointer
import ClientGen.Proofs.PathTemplate
import ClientGen.Proofs.Url
import ClientGen.Proofs.Naming
import ClientGen.Proofs.Naming.Conversions
import ClientGen.Proofs.Naming.Search
import ClientGen.Proofs.Json.Writer
import ClientGen.Proofs.Json.Roundtrip
import ClientGen.Proofs.TypeExpr
import ClientGen.Proofs.Code.Group
import ClientGen.Proofs.Code.Artifact
import ClientGen.Proofs.Code.Schemas
import ClientGen.Proofs.Code.Comment
import ClientGen.Proofs.Code.Endpoint
import ClientGen.Proofs.Code.Index
import ClientGen.Proofs.Code.Brackets
import ClientGen.Proofs.Code.Struct
import ClientGen.Proofs.Code.Parameters
import ClientGen.Proofs.Batch.Pool
import ClientGen.Proofs.Batch
import ClientGen.Proofs.Files.Recorded
import ClientGen.Proofs.Files.Program
import ClientGen.Proofs.Batch.Interleaved
import ClientGen.Proofs.Net.Address
import ClientGen.Proofs.Net.Gate
import ClientGen.Proofs.Net.Verdict
import ClientGen.Proofs.Net.Fetch
import ClientGen.Proofs.Resolution.Run
import ClientGen.Proofs.Resolution.Derivation
import ClientGen.Proofs.Resolution.Course
import ClientGen.Proofs.Resolution.Served
import ClientGen.Proofs.Resolution.Bookkeeping
import ClientGen.Proofs.Resolution.Requests
import ClientGen.Proofs.Resolution.Visits
import ClientGen.Proofs.Resolution.Leniency
import ClientGen.Proofs.Resolution.Refusals
import ClientGen.Proofs.Resolution.Meaning
import ClientGen.Proofs.Resolution.Nesting
import ClientGen.Proofs.Resolution.Residue
import ClientGen.Proofs.Resolution.Failures
import ClientGen.Proofs.Resolution.Internal
import ClientGen.Proofs.Resolution.Escapes
import ClientGen.Proofs.Extraction.Readers
import ClientGen.Proofs.Extraction.References
import ClientGen.Proofs.Extraction.Complete
import ClientGen.Proofs.Extraction.Defined
import ClientGen.Proofs.Extraction.Conflict
import ClientGen.Proofs.Extraction.Conforming
import ClientGen.Proofs.Extraction.Schemas
import ClientGen.Proofs.Extraction.Nullable
import ClientGen.Proofs.Extraction.Agreement
import ClientGen.Proofs.Extraction.Stops
import ClientGen.Proofs.Extraction.Accepted
import ClientGen.Proofs.Reading
import ClientGen.Proofs.Work.Stages
import ClientGen.Proofs.Work.Course
import ClientGen.Proofs.Work.Document
import ClientGen.Proofs.Settings.Layers
import ClientGen.Proofs.Settings.Precedence
import ClientGen.Proofs.Settings.Verbosity
import ClientGen.Proofs.Files.Kept
import ClientGen.Proofs.Files.Tree
import ClientGen.Proofs.Work.Together
import ClientGen.Proofs.Report
import ClientGen.Proofs.Console
import ClientGen.Proofs.Command.Validate
import ClientGen.Proofs.Command.Switches
import ClientGen.Proofs.Command.Verbosity
