import Syllogistic.Batch.Rank
import Syllogistic.Batch.Run
import Syllogistic.Batch.Sequential
import Syllogistic.Batch.Worker
import Syllogistic.Collective.Call
import Syllogistic.Collective.Crew
import Syllogistic.Collective.Fabric
import Syllogistic.Collective.Network
import Syllogistic.Collective.Operation
import Syllogistic.Command.Arguments
import Syllogistic.Command.Complaint
import Syllogistic.Command.Disk
import Syllogistic.Command.Display
import Syllogistic.Command.Program
import Syllogistic.Command.Request
import Syllogistic.Command.Session
import Syllogistic.Consensus.Basic
import Syllogistic.Engine.Answer
import Syllogistic.Engine.Invocation
import Syllogistic.Engine.Kind
import Syllogistic.Engine.Setup
import Syllogistic.Engine.Status
import Syllogistic.Engine.Timeout
import Syllogistic.Fault
import Syllogistic.Formula.Basic
import Syllogistic.Formula.Rendering
import Syllogistic.Layout.Partition
import Syllogistic.Layout.Topology
import Syllogistic.Main
import Syllogistic.Memory
import Syllogistic.Number.Binary64
import Syllogistic.Proofs.Batch.Frames
import Syllogistic.Proofs.Batch.Launch
import Syllogistic.Proofs.Batch.Longest
import Syllogistic.Proofs.Batch.Outcomes
import Syllogistic.Proofs.Batch.Ranks
import Syllogistic.Proofs.Batch.Run
import Syllogistic.Proofs.Batch.Seats
import Syllogistic.Proofs.Batch.Sequential
import Syllogistic.Proofs.Batch.Statistics
import Syllogistic.Proofs.Collective.Abandoned
import Syllogistic.Proofs.Collective.Agreement
import Syllogistic.Proofs.Collective.Choreography
import Syllogistic.Proofs.Collective.Completion
import Syllogistic.Proofs.Collective.Conservation
import Syllogistic.Proofs.Collective.Course
import Syllogistic.Proofs.Collective.Curtailed
import Syllogistic.Proofs.Collective.Departure
import Syllogistic.Proofs.Collective.Fabric
import Syllogistic.Proofs.Collective.Failure
import Syllogistic.Proofs.Collective.InStep
import Syllogistic.Proofs.Collective.Placement
import Syllogistic.Proofs.Collective.Polling
import Syllogistic.Proofs.Collective.Roles
import Syllogistic.Proofs.Collective.Segments
import Syllogistic.Proofs.Collective.Stream
import Syllogistic.Proofs.Consensus.Columns
import Syllogistic.Proofs.Consensus.Decision
import Syllogistic.Proofs.Consensus.Evidence
import Syllogistic.Proofs.Engine.Heading
import Syllogistic.Proofs.Engine.Invocation
import Syllogistic.Proofs.Engine.ProofLines
import Syllogistic.Proofs.Engine.StatusAnswer
import Syllogistic.Proofs.Engine.Timeout
import Syllogistic.Proofs.Engine.Votes
import Syllogistic.Proofs.Formula.Notations
import Syllogistic.Proofs.Formula.Renaming
import Syllogistic.Proofs.Formula.Style
import Syllogistic.Proofs.Layout.Grid
import Syllogistic.Proofs.Layout.Groups
import Syllogistic.Proofs.Layout.Partition
import Syllogistic.Proofs.Layout.Slices
import Syllogistic.Proofs.Layout.Words
import Syllogistic.Proofs.Number.Rounding
import Syllogistic.Proofs.Report.Reading
import Syllogistic.Proofs.Rows
import Syllogistic.Proofs.Semantics.Categorical
import Syllogistic.Proofs.Semantics.Model
import Syllogistic.Proofs.Semantics.Opposition
import Syllogistic.Proofs.Semantics.Validity
import Syllogistic.Proofs.Settings.Accepted
import Syllogistic.Proofs.Settings.Reach
import Syllogistic.Proofs.Settings.Refused
import Syllogistic.Proofs.Syllogism.Code
import Syllogistic.Proofs.Syllogism.Distinct
import Syllogistic.Proofs.Syllogism.Enumeration
import Syllogistic.Proofs.Syllogism.Selection
import Syllogistic.Proofs.Syllogism.Shape
import Syllogistic.Proofs.Text.Lines
import Syllogistic.Proofs.Wire.Canonical
import Syllogistic.Proofs.Wire.Datum
import Syllogistic.Proofs.Wire.RoundTrip
import Syllogistic.Report.Csv
import Syllogistic.Report.Rank
import Syllogistic.Report.Table
import Syllogistic.Settings.Basic
import Syllogistic.Settings.File
import Syllogistic.Syllogism.Basic
import Syllogistic.Syllogism.Code
import Syllogistic.Syllogism.Enumeration
import Syllogistic.Syllogism.Mood
import Syllogistic.Syllogism.Template
import Syllogistic.Text.Blank
import Syllogistic.Text.Casing
import Syllogistic.Text.Casing.Table
import Syllogistic.Text.Json
import Syllogistic.Text.Lines
import Syllogistic.Text.Quoted
import Syllogistic.Text.Quoted.Table
import Syllogistic.Text.Utf8
import Syllogistic.Toml.Document
import Syllogistic.Toml.Scalar
import Syllogistic.Toml.Value
import Syllogistic.Wire.Codec
import Syllogistic.Wire.Message
