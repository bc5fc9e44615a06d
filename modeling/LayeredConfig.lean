import LayeredConfig.CommandLine
import LayeredConfig.Field.Cache
import LayeredConfig.Main
import LayeredConfig.Proofs.FilePath.NormalForm
import LayeredConfig.Proofs.Fallible
import LayeredConfig.Proofs.FileSystem.Place
import LayeredConfig.Proofs.FilePath.Canonical
import LayeredConfig.Proofs.FilePath.Reference
import LayeredConfig.Proofs.Glob.Expression
import LayeredConfig.Proofs.Glob.Matching
import LayeredConfig.Proofs.Yaml.Budget
import LayeredConfig.Proofs.Chain.Unfolding
import LayeredConfig.Proofs.Chain.Run
import LayeredConfig.Proofs.Chain.Build
import LayeredConfig.Proofs.Chain.Spelling
import LayeredConfig.Proofs.Chain.ParentsFirst
import LayeredConfig.Proofs.Value.Path
import LayeredConfig.Proofs.Value.Places
import LayeredConfig.Proofs.Value.Ordered
import LayeredConfig.Proofs.Value.Overwriting
import LayeredConfig.Proofs.Leaf.Codec
import LayeredConfig.Proofs.Text.Blank
import LayeredConfig.Proofs.Leaf.Text
import LayeredConfig.Proofs.Sorting
import LayeredConfig.Proofs.Merge.Change
import LayeredConfig.Proofs.Merge.Locality
import LayeredConfig.Proofs.Merge.Writes
import LayeredConfig.Proofs.Merge.Rejection
import LayeredConfig.Proofs.Operation.Keys
import LayeredConfig.Proofs.Operation.Flattening
import LayeredConfig.Proofs.Operation.Written
import LayeredConfig.Proofs.Operation.FlatSpelling
import LayeredConfig.Proofs.Merge.Reporting
import LayeredConfig.Proofs.Merge.Complete
import LayeredConfig.Proofs.Merge.Idempotence
import LayeredConfig.Proofs.Merge.Lists
import LayeredConfig.Proofs.Shape.Fingerprint
import LayeredConfig.Proofs.Shape.Leaves
import LayeredConfig.Proofs.Shape.Declarations
import LayeredConfig.Proofs.Shape.Descriptions
import LayeredConfig.Proofs.Merge.Nulls
import LayeredConfig.Proofs.Field.Discovery
import LayeredConfig.Proofs.Field.Naming
import LayeredConfig.Proofs.Shape.Documents
import LayeredConfig.Proofs.Field.Cache
import LayeredConfig.Proofs.Settings.Leaves
import LayeredConfig.Proofs.Settings.Typed
import LayeredConfig.Proofs.Settings.Partial
import LayeredConfig.Proofs.Settings.Parents
import LayeredConfig.Proofs.Resolution.Layers
import LayeredConfig.Proofs.Resolution.Defaults
import LayeredConfig.Proofs.Resolution.Fallback
import LayeredConfig.Proofs.Resolution.Locality
import LayeredConfig.Proofs.Resolution.Order
import LayeredConfig.Proofs.Resolution.Environment
import LayeredConfig.Proofs.Resolution.Legacy
import LayeredConfig.Proofs.Resolution.Skipped
import LayeredConfig.Proofs.Resolution.Origin
import LayeredConfig.Proofs.Resolution.FileOrigin
import LayeredConfig.Proofs.Resolution.Views
import LayeredConfig.Proofs.Text.Lines
import LayeredConfig.Proofs.Report.Values
import LayeredConfig.Proofs.Text.Words
import LayeredConfig.Proofs.Environment.Variables
