import PathQuery.Main
import PathQuery.Proofs.Query.RoundTrip
import PathQuery.Proofs.Evaluation.Identity
import PathQuery.Proofs.Evaluation.Depth
import PathQuery.Proofs.Evaluation.Links
import PathQuery.Proofs.Evaluation.Injectivity
import PathQuery.Proofs.Evaluation.Route
import PathQuery.Proofs.Evaluation.Locality
import PathQuery.Proofs.Evaluation.Lockstep
import PathQuery.Proofs.Document.Json
import PathQuery.Proofs.Document.Yaml
import PathQuery.Proofs.Document.Insertion
import PathQuery.Proofs.Evaluation.Reuse
import PathQuery.Proofs.CommandLine.Output
import PathQuery.Proofs.Query.Refusal
import PathQuery.Proofs.Query.Joining
import PathQuery.Proofs.Evaluation.Preorder
import PathQuery.Proofs.Evaluation.Repeats
import PathQuery.Proofs.Yaml.Ending
import PathQuery.Proofs.Document.Rendered
import PathQuery.Proofs.Evaluation.Descent
import PathQuery.Proofs.Evaluation.StepBack
import PathQuery.Proofs.Evaluation.Lookup
import PathQuery.Proofs.Evaluation.Partition
import PathQuery.Proofs.Evaluation.Deduplication
import PathQuery.Proofs.Text.Inline
import PathQuery.Proofs.CommandLine.Lines
import PathQuery.Proofs.Number.Integer
import PathQuery.Proofs.Document.RoundTrip
import PathQuery.Proofs.Number.Reading
import PathQuery.Proofs.Evaluation.Narrowing
import PathQuery.Proofs.Evaluation.Termination
import PathQuery.Proofs.Evaluation.Siblings
import PathQuery.Proofs.Evaluation.Records
import PathQuery.Proofs.Loading.Compressed
import PathQuery.Proofs.CommandLine.Settings
