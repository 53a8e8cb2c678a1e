import ReleasePipeline.Checks
import ReleasePipeline.Command.Arguments
import ReleasePipeline.Command.Checking
import ReleasePipeline.Command.Describing
import ReleasePipeline.Command.Outcome
import ReleasePipeline.Command.Program
import ReleasePipeline.Command.Project
import ReleasePipeline.Command.Publishing
import ReleasePipeline.Config.Document
import ReleasePipeline.Config.Loading
import ReleasePipeline.Config.Resolution
import ReleasePipeline.Config.Settings
import ReleasePipeline.Data.Datum
import ReleasePipeline.Digest.Sha256
import ReleasePipeline.Fault
import ReleasePipeline.Files.IoError
import ReleasePipeline.Files.Path
import ReleasePipeline.Files.Tree
import ReleasePipeline.Glob.Pattern
import ReleasePipeline.Glob.Walk
import ReleasePipeline.Host.Program
import ReleasePipeline.Host.World
import ReleasePipeline.Json.Decoding
import ReleasePipeline.Json.Reader
import ReleasePipeline.Json.Token
import ReleasePipeline.Json.Writer
import ReleasePipeline.Lock.Catalog
import ReleasePipeline.Lock.Document
import ReleasePipeline.Lock.Drift
import ReleasePipeline.Lock.Entry
import ReleasePipeline.Lock.Snapshot
import ReleasePipeline.Main
import ReleasePipeline.Pipeline.Backend
import ReleasePipeline.Pipeline.Receipt
import ReleasePipeline.Pipeline.Run
import ReleasePipeline.Pipeline.Stage
import ReleasePipeline.Proofs.Command.Comparison
import ReleasePipeline.Proofs.Command.ExitStatus
import ReleasePipeline.Proofs.Command.Prediction
import ReleasePipeline.Proofs.Command.Relock
import ReleasePipeline.Proofs.Command.Success
import ReleasePipeline.Proofs.Config.Names
import ReleasePipeline.Proofs.Config.Resolution
import ReleasePipeline.Proofs.Config.Validation
import ReleasePipeline.Proofs.Fault.Context
import ReleasePipeline.Proofs.Files.FileName
import ReleasePipeline.Proofs.Files.Loading
import ReleasePipeline.Proofs.Files.Path
import ReleasePipeline.Proofs.Files.PathOrder
import ReleasePipeline.Proofs.Files.Tree
import ReleasePipeline.Proofs.Glob.Components
import ReleasePipeline.Proofs.Glob.Reading
import ReleasePipeline.Proofs.Host.Actions
import ReleasePipeline.Proofs.Host.Frame
import ReleasePipeline.Proofs.Json.RoundTrip
import ReleasePipeline.Proofs.Json.Tokens
import ReleasePipeline.Proofs.Lock.Canonical
import ReleasePipeline.Proofs.Lock.Drift
import ReleasePipeline.Proofs.Lock.Gathering
import ReleasePipeline.Proofs.Lock.Groups
import ReleasePipeline.Proofs.Lock.Pairing
import ReleasePipeline.Proofs.Lock.RoundTrip
import ReleasePipeline.Proofs.Pipeline.Atomicity
import ReleasePipeline.Proofs.Pipeline.Causes
import ReleasePipeline.Proofs.Pipeline.Fetching
import ReleasePipeline.Proofs.Pipeline.Hurdles
import ReleasePipeline.Proofs.Pipeline.Integrity
import ReleasePipeline.Proofs.Pipeline.Moments
import ReleasePipeline.Proofs.Pipeline.Order
import ReleasePipeline.Proofs.Pipeline.Publication
import ReleasePipeline.Proofs.Pipeline.ReadBack
import ReleasePipeline.Proofs.Pipeline.Script
import ReleasePipeline.Proofs.Publish.Attempts
import ReleasePipeline.Proofs.Publish.Confinement
import ReleasePipeline.Proofs.Publish.Layout
import ReleasePipeline.Proofs.Publish.Location
import ReleasePipeline.Proofs.Publish.Routing
import ReleasePipeline.Proofs.Publish.Storing
import ReleasePipeline.Proofs.Publish.Uploading
import ReleasePipeline.Proofs.Quality.Discovery
import ReleasePipeline.Proofs.Quality.Gate
import ReleasePipeline.Proofs.Quality.LineRules
import ReleasePipeline.Proofs.Quality.Lines
import ReleasePipeline.Proofs.Quality.OpenPoints
import ReleasePipeline.Proofs.Quality.Owners
import ReleasePipeline.Proofs.Quality.Scheduling
import ReleasePipeline.Proofs.Quality.Sources
import ReleasePipeline.Proofs.Quality.Tabs
import ReleasePipeline.Proofs.Quality.TodoPattern
import ReleasePipeline.Proofs.Release.Assembly
import ReleasePipeline.Proofs.Release.Builds
import ReleasePipeline.Proofs.Release.Extension
import ReleasePipeline.Proofs.Release.Metadata
import ReleasePipeline.Proofs.Secrecy.Actions
import ReleasePipeline.Proofs.Secrecy.Commands
import ReleasePipeline.Proofs.Secrecy.Data
import ReleasePipeline.Proofs.Secrecy.Recording
import ReleasePipeline.Proofs.Secrecy.Release
import ReleasePipeline.Proofs.Text.Pieces
import ReleasePipeline.Proofs.Text.Placeholders
import ReleasePipeline.Proofs.Text.Slashes
import ReleasePipeline.Proofs.Text.Utf8
import ReleasePipeline.Proofs.Toml.Document
import ReleasePipeline.Proofs.Toml.Quoted
import ReleasePipeline.Proofs.Workspace.Graph
import ReleasePipeline.Proofs.Workspace.Resolution
import ReleasePipeline.Publish.Channel
import ReleasePipeline.Publish.Location
import ReleasePipeline.Publish.Repository
import ReleasePipeline.Publish.Upload
import ReleasePipeline.Quality.Gate
import ReleasePipeline.Quality.Report
import ReleasePipeline.Quality.Rules
import ReleasePipeline.Quality.Settings
import ReleasePipeline.Quality.Violation
import ReleasePipeline.Regex.Expr
import ReleasePipeline.Regex.Meaning
import ReleasePipeline.Regex.Reader
import ReleasePipeline.Regex.Tree
import ReleasePipeline.Release.Artifact
import ReleasePipeline.Release.Assembly
import ReleasePipeline.Release.Layout
import ReleasePipeline.Release.Metadata
import ReleasePipeline.Release.SemVer
import ReleasePipeline.Release.Version
import ReleasePipeline.Secret
import ReleasePipeline.Shell.Running
import ReleasePipeline.Shell.Script
import ReleasePipeline.Shell.Tools
import ReleasePipeline.Signing.Credential
import ReleasePipeline.Signing.Keyring
import ReleasePipeline.Text.Basic
import ReleasePipeline.Text.Blank
import ReleasePipeline.Text.Hex
import ReleasePipeline.Text.Utf8
import ReleasePipeline.Toml.Decoding
import ReleasePipeline.Toml.Quoted
import ReleasePipeline.Toml.Reader
import ReleasePipeline.Toml.Scalar
import ReleasePipeline.Toml.Table
import ReleasePipeline.Toml.Writer
import ReleasePipeline.Unicode.Classes
import ReleasePipeline.Unicode.Folding
import ReleasePipeline.Workspace.Graph
import ReleasePipeline.Workspace.Listing
