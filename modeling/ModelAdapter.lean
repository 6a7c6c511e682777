import ModelAdapter.Buffer
import ModelAdapter.Detection
import ModelAdapter.Device
import ModelAdapter.Engine
import ModelAdapter.Environment
import ModelAdapter.Event
import ModelAdapter.Fault
import ModelAdapter.Files.Library
import ModelAdapter.Files.Listing
import ModelAdapter.Files.Path
import ModelAdapter.Files.Tree
import ModelAdapter.Hexagon.Abi
import ModelAdapter.Hexagon.Artifact
import ModelAdapter.Hexagon.Calls
import ModelAdapter.Hexagon.Model
import ModelAdapter.Hexagon.Script
import ModelAdapter.Hexagon.Spec
import ModelAdapter.Json.Reader
import ModelAdapter.Json.Stored
import ModelAdapter.Json.Value
import ModelAdapter.Loading
import ModelAdapter.Number.Binary32
import ModelAdapter.Number.Binary64
import ModelAdapter.Number.Decimal
import ModelAdapter.Number.Integer
import ModelAdapter.Operation
import ModelAdapter.Settings.Config
import ModelAdapter.Settings.Format
import ModelAdapter.Settings.Ini
import ModelAdapter.Settings.Json
import ModelAdapter.Settings.Json5
import ModelAdapter.Settings.Load
import ModelAdapter.Settings.Ron
import ModelAdapter.Settings.Setting
import ModelAdapter.Settings.Toml.Moment
import ModelAdapter.Settings.Toml.Reader
import ModelAdapter.Settings.Toml.Table
import ModelAdapter.Settings.Yaml.Mark
import ModelAdapter.Settings.Yaml.Reader
import ModelAdapter.Settings.Yaml.Scalar
import ModelAdapter.Sparse
import ModelAdapter.Text.Blank
import ModelAdapter.Text.Comment
import ModelAdapter.Text.Escape
import ModelAdapter.Text.Scan
import ModelAdapter.Text.Utf8
import ModelAdapter.Threads
import ModelAdapter.Treelite.Abi
import ModelAdapter.Treelite.Artifact
import ModelAdapter.Treelite.Calls
import ModelAdapter.Treelite.Model
import ModelAdapter.Treelite.Script
import ModelAdapter.Word
import ModelAdapter.Proofs.Hexagon.Protocol
import ModelAdapter.Proofs.Hexagon.Transitions
import ModelAdapter.Proofs.Session
import ModelAdapter.Proofs.Sparse
import ModelAdapter.Proofs.Treelite.Buffers
import ModelAdapter.Proofs.Treelite.History
import ModelAdapter.Proofs.Treelite.Readiness
import ModelAdapter.Proofs.Treelite.Resources
import ModelAdapter.Proofs.Treelite.Transitions
import ModelAdapter.Proofs.Treelite.Rounds
import ModelAdapter.Proofs.Hexagon.InputBuffer
import ModelAdapter.Proofs.Lockstep
import ModelAdapter.Proofs.Text.Utf8
import ModelAdapter.Proofs.Treelite.Binding
import ModelAdapter.Proofs.Binding
import ModelAdapter.Proofs.Detection
import ModelAdapter.Proofs.Treelite.Metadata
import ModelAdapter.Proofs.Values
import ModelAdapter.Proofs.Hexagon.SharedBuffer
import ModelAdapter.Proofs.Settings.ThreadText
import ModelAdapter.Proofs.Settings.Precedence
import ModelAdapter.Proofs.SparseRows
import ModelAdapter.Proofs.SparseColumns
import ModelAdapter.Proofs.Treelite.Shortfall
import ModelAdapter.Proofs.Settings.ThreadCount
import ModelAdapter.Proofs.SkeletonPath
import ModelAdapter.Proofs.Layers
import ModelAdapter.Proofs.Treelite.Functions
import ModelAdapter.Proofs.Treelite.Refusals
import ModelAdapter.Proofs.Treelite.Tidying
import ModelAdapter.Proofs.Replay
import ModelAdapter.Proofs.Treelite.Replay
import ModelAdapter.Proofs.Treelite.FailedInput
import ModelAdapter.Proofs.Treelite.Acceptance
import ModelAdapter.Proofs.Hexagon.Discovery
import ModelAdapter.Proofs.Hexagon.Acceptance
import ModelAdapter.Proofs.Number.Written
import ModelAdapter.Proofs.Settings.LibraryPath
import ModelAdapter.Proofs.Files.Tree
import ModelAdapter.Proofs.Files.Enumeration
import ModelAdapter.Proofs.Treelite.Location
import ModelAdapter.Proofs.Hexagon.Location
import ModelAdapter.Proofs.Hexagon.Matching
import ModelAdapter.Proofs.Hexagon.Names
import ModelAdapter.Proofs.Hexagon.Diagnostics
import ModelAdapter.Proofs.Treelite.Floats
import ModelAdapter.Proofs.Json.Written
import ModelAdapter.Proofs.Settings.Stored
import ModelAdapter.Proofs.Files.Naming
