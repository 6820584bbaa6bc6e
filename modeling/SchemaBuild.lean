import SchemaBuild.Main
import SchemaBuild.Config.Document
import SchemaBuild.Proofs.Build.Calls
import SchemaBuild.Proofs.Build.Output
import SchemaBuild.Proofs.Build.Failure
import SchemaBuild.Proofs.Build.Snapshot
import SchemaBuild.Proofs.Lookup.Precedence
import SchemaBuild.Proofs.Archive.Members
import SchemaBuild.Proofs.Lookup.Truncation
import SchemaBuild.Proofs.FileSystem.Named
import SchemaBuild.Proofs.Build.Programs
import SchemaBuild.Proofs.CommandLine.Frame
import SchemaBuild.Proofs.Settings.Distinct
import SchemaBuild.Proofs.Settings.Variables
import SchemaBuild.Proofs.Toml.Distinct
import SchemaBuild.Proofs.Config.Leaves
import SchemaBuild.Proofs.Config.Overrides
import SchemaBuild.Proofs.Config.Precedence
import SchemaBuild.Proofs.Archive.Headers
import SchemaBuild.Proofs.Archive.Bundles
import SchemaBuild.Proofs.FileSystem.Entries
import SchemaBuild.Proofs.Lookup.Interchange
import SchemaBuild.Proofs.Archive.Decoding
import SchemaBuild.Proofs.Archive.PrefixCodes
import SchemaBuild.Proofs.Archive.Inflating
import SchemaBuild.Proofs.Archive.Compressed
import SchemaBuild.Proofs.Lookup.Compression
import SchemaBuild.Proofs.Resolution.Recorded
import SchemaBuild.Proofs.Resolution.Classification
import SchemaBuild.Proofs.Roots.Publishing
import SchemaBuild.Proofs.Roots.Directives
import SchemaBuild.Proofs.Json.Printed
import SchemaBuild.Proofs.Path.Text
import SchemaBuild.Proofs.Json.Documents
import SchemaBuild.Proofs.Config.Parts
import SchemaBuild.Proofs.CommandLine.Runs
import SchemaBuild.Proofs.CommandLine.SearchPath
import SchemaBuild.Proofs.Build.Requests
import SchemaBuild.Proofs.Build.Success
import SchemaBuild.Proofs.CommandLine.ExitStatus
import SchemaBuild.Proofs.CommandLine.Outcome
import SchemaBuild.Proofs.Settings.Sources
import SchemaBuild.Proofs.FileSystem.Elsewhere
import SchemaBuild.Proofs.Config.Elsewhere
import SchemaBuild.Proofs.Resolution.Placed
import SchemaBuild.Proofs.CommandLine.WorkingDirectory
import SchemaBuild.Proofs.Dotenv.Present
import SchemaBuild.Proofs.Lookup.Containment
import SchemaBuild.Proofs.Config.Said
import SchemaBuild.Proofs.CommandLine.Collected
import SchemaBuild.Proofs.CommandLine.Decided
import SchemaBuild.Proofs.Classpath.Listing
import SchemaBuild.Proofs.Resolution.Routes
import SchemaBuild.Proofs.Build.Registered
import SchemaBuild.Proofs.Lookup.Recognised
import SchemaBuild.Proofs.Path.Chains
import SchemaBuild.Proofs.FileSystem.Obstruction
import SchemaBuild.Proofs.FileSystem.Creation
import SchemaBuild.Proofs.Build.Created
import SchemaBuild.Proofs.Build.FirstFailure
import SchemaBuild.Proofs.Roots.Distinct
import SchemaBuild.Proofs.Json.Literals
import SchemaBuild.Proofs.Json.Spelling
import SchemaBuild.Proofs.Json.ReadBack
import SchemaBuild.Proofs.Json.Values
import SchemaBuild.Proofs.Build.Handover
import SchemaBuild.Proofs.Json.RoundTrip
import SchemaBuild.Proofs.Text.Trim
import SchemaBuild.Proofs.Classpath.Grammar
import SchemaBuild.Proofs.Classpath.Chaining
import SchemaBuild.Proofs.Config.Placement
import SchemaBuild.Proofs.Config.Packages
import SchemaBuild.Proofs.CommandLine.Written
import SchemaBuild.Proofs.Archive.Fronts
import SchemaBuild.Proofs.Archive.Items
import SchemaBuild.Proofs.Archive.Records
import SchemaBuild.Proofs.Lookup.RootFiles
