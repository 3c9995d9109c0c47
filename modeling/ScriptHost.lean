import ScriptHost.Builtin
import ScriptHost.Builtin.Native
import ScriptHost.Builtin.Number
import ScriptHost.Clock
import ScriptHost.Command
import ScriptHost.Command.Objects
import ScriptHost.Command.Schedule
import ScriptHost.Config
import ScriptHost.Engine
import ScriptHost.Error
import ScriptHost.FrameLock
import ScriptHost.Function.Context
import ScriptHost.Function.Registry
import ScriptHost.Function.Routine
import ScriptHost.Function.Signature
import ScriptHost.Json.Node
import ScriptHost.Json.Number
import ScriptHost.Json.Reader
import ScriptHost.Number.Decimal
import ScriptHost.Number.Rounding
import ScriptHost.Object
import ScriptHost.Object.Container
import ScriptHost.Object.Distance
import ScriptHost.Object.Search
import ScriptHost.Object.Type
import ScriptHost.ObjectId
import ScriptHost.Playbook
import ScriptHost.Program
import ScriptHost.Proofs.Builtin.Caller
import ScriptHost.Proofs.Builtin.Frame
import ScriptHost.Proofs.Builtin.Number
import ScriptHost.Proofs.Builtin.Soundness
import ScriptHost.Proofs.Engine.CallFrame
import ScriptHost.Proofs.Engine.CallTree
import ScriptHost.Proofs.Engine.Cancellation
import ScriptHost.Proofs.Engine.Change
import ScriptHost.Proofs.Engine.Course
import ScriptHost.Proofs.Engine.Deferred
import ScriptHost.Proofs.Engine.Delay
import ScriptHost.Proofs.Engine.Destruction
import ScriptHost.Proofs.Engine.Effect
import ScriptHost.Proofs.Engine.Events
import ScriptHost.Proofs.Engine.FiringOrder
import ScriptHost.Proofs.Engine.LastWriter
import ScriptHost.Proofs.Engine.Lookup
import ScriptHost.Proofs.Engine.ModuleObject
import ScriptHost.Proofs.Engine.Nearest
import ScriptHost.Proofs.Engine.Nesting
import ScriptHost.Proofs.Engine.NumberText
import ScriptHost.Proofs.Engine.Pump
import ScriptHost.Proofs.Engine.PumpIsolation
import ScriptHost.Proofs.Engine.Queue
import ScriptHost.Proofs.Engine.Script
import ScriptHost.Proofs.Engine.SelfReference
import ScriptHost.Proofs.Engine.Totality
import ScriptHost.Proofs.Function.Consistency
import ScriptHost.Proofs.Function.Dispatch
import ScriptHost.Proofs.Function.Table
import ScriptHost.Proofs.Json.Integer
import ScriptHost.Proofs.Json.RoundTrip
import ScriptHost.Proofs.Number.Rounding
import ScriptHost.Proofs.Object.Container
import ScriptHost.Proofs.Object.Inventory
import ScriptHost.Proofs.Object.Nearness
import ScriptHost.Proofs.Object.Reference
import ScriptHost.Proofs.Object.Scan
import ScriptHost.Proofs.Object.Search
import ScriptHost.Proofs.Object.Unplaced
import ScriptHost.Proofs.ObjectId
import ScriptHost.Proofs.Schedule.Conservation
import ScriptHost.Proofs.Schedule.Pending
import ScriptHost.Proofs.Schedule.Taking
import ScriptHost.Proofs.Single.Arithmetic
import ScriptHost.Proofs.SortedMap
import ScriptHost.Proofs.Storage
import ScriptHost.Random
import ScriptHost.Schedule
import ScriptHost.Schedule.Action
import ScriptHost.Script
import ScriptHost.Single
import ScriptHost.Single.Text
import ScriptHost.SortedMap
import ScriptHost.Step
import ScriptHost.Storage
import ScriptHost.Text.Blank
import ScriptHost.Text.Quoted
import ScriptHost.Text.Reader
import ScriptHost.Text.Shown
import ScriptHost.Text.Unprintable
import ScriptHost.Toml.Reader
import ScriptHost.Toml.Value
import ScriptHost.Value
import ScriptHost.Value.Text
import ScriptHost.ValueType
import ScriptHost.Vector
import ScriptHost.World
