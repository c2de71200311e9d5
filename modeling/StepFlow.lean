import StepFlow.Builtin
import StepFlow.Dict
import StepFlow.Document.Basic
import StepFlow.Document.Bindings
import StepFlow.Document.Mismatch
import StepFlow.Document.Step
import StepFlow.Document.Text
import StepFlow.Fault
import StepFlow.Flow.Basic
import StepFlow.Flow.Branch
import StepFlow.Flow.Each
import StepFlow.Flow.Recover
import StepFlow.Flow.While
import StepFlow.Json.Reader
import StepFlow.Json.Writer
import StepFlow.Log
import StepFlow.Number.Basic
import StepFlow.Number.Binary64
import StepFlow.Number.Power
import StepFlow.Number.Shortest
import StepFlow.Path
import StepFlow.Projection.Input
import StepFlow.Projection.Output
import StepFlow.Projection.Spread
import StepFlow.Registry
import StepFlow.Run.Context
import StepFlow.Run.Engine
import StepFlow.Run.Journal
import StepFlow.Run.Program
import StepFlow.Session
import StepFlow.Settings.Basic
import StepFlow.Settings.EnvFile
import StepFlow.Text.Alphanumeric
import StepFlow.Text.Blank
import StepFlow.Text.Bytes
import StepFlow.Text.Printable
import StepFlow.Text.Quoted
import StepFlow.Value
import StepFlow.Yaml.Cursor
import StepFlow.Yaml.Lexer
import StepFlow.Yaml.Node
import StepFlow.Yaml.Reader
import StepFlow.Yaml.Scalar
import StepFlow.Yaml.Schema
import StepFlow.Yaml.Tag
import StepFlow.Yaml.Token
import StepFlow.Proofs.Evolution
import StepFlow.Proofs.Moves
import StepFlow.Proofs.Cleanup
import StepFlow.Proofs.Isolation
import StepFlow.Proofs.ScopeKeeping
import StepFlow.Proofs.Cancellation
import StepFlow.Proofs.StateGrowth
import StepFlow.Proofs.Ensuring
import StepFlow.Proofs.RoundTrip
import StepFlow.Proofs.Standard
import StepFlow.Proofs.Discipline
import StepFlow.Proofs.Placement
import StepFlow.Proofs.Limit
import StepFlow.Proofs.Termination
import StepFlow.Proofs.Grammar
import StepFlow.Proofs.Requests
import StepFlow.Proofs.SideBySide
import StepFlow.Proofs.CleanupFailures
import StepFlow.Proofs.LogFilter
import StepFlow.Proofs.Performing
import StepFlow.Proofs.Inlining
import StepFlow.Proofs.Recovery
import StepFlow.Proofs.LoopAgreement
import StepFlow.Proofs.ConditionalLoop
import StepFlow.Proofs.LoopLimit
import StepFlow.Proofs.LoopSteering
import StepFlow.Proofs.Picking
import StepFlow.Proofs.InputKeys
import StepFlow.Proofs.SlotReport
import StepFlow.Proofs.PathReading
import StepFlow.Proofs.Resolution
import StepFlow.Proofs.ResolvedShape
import StepFlow.Proofs.References
import StepFlow.Proofs.Locations
import StepFlow.Proofs.WriteOnly
import StepFlow.Proofs.Sequencing
import StepFlow.Proofs.SlotAgreement
import StepFlow.Proofs.Nesting
import StepFlow.Proofs.History
