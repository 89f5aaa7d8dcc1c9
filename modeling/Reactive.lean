import Reactive.Component.Compile
import Reactive.Component.Compose
import Reactive.Component.Emit
import Reactive.Component.Error
import Reactive.Component.Graph
import Reactive.Component.Model
import Reactive.Component.Options
import Reactive.Component.Plan
import Reactive.Component.PlanJson
import Reactive.Component.Scope
import Reactive.Component.Source
import Reactive.Component.Validate
import Reactive.Eval
import Reactive.Host
import Reactive.Instance.Basic
import Reactive.Instance.Lifecycle
import Reactive.Json.Basic
import Reactive.Json.Reader
import Reactive.Json.Schema
import Reactive.Proofs.Schedule.Graph
import Reactive.Proofs.Schedule.Greedy
import Reactive.Proofs.Schedule.Ordering
import Reactive.Proofs.Schedule.Theorems
import Reactive.Number.Binary
import Reactive.Number.Format
import Reactive.Number.Read
import Reactive.Number.Shortest
import Reactive.Script.Encode
import Reactive.Script.Expr
import Reactive.Script.Lexer
import Reactive.Script.Lower
import Reactive.Script.Parser
import Reactive.Script.Printer
import Reactive.Script.Source
import Reactive.Script.Token
import Reactive.Session.Basic
import Reactive.Session.Json
import Reactive.Text.Blank
import Reactive.Text.Case
import Reactive.Text.CaseData
import Reactive.Text.IdentData
import Reactive.Text.QuoteData
import Reactive.Text.Quoted
import Reactive.Text.Table
import Reactive.Value
import Reactive.Value.Json
import Reactive.Proofs.Schedule.CycleSearch
import Reactive.Proofs.Runtime.Pass
import Reactive.Proofs.Runtime.Exec
import Reactive.Proofs.Runtime.Calm
import Reactive.Proofs.Runtime.Request
import Reactive.Proofs.StateRun
import Reactive.Proofs.Compose.Nesting
import Reactive.Proofs.Compose.Instances
import Reactive.Proofs.Runtime.Triple
import Reactive.Proofs.Runtime.Mount
import Reactive.Proofs.Compose.Program
import Reactive.Proofs.Teardown.Footprint
import Reactive.Proofs.Teardown.HostEffect
import Reactive.Proofs.Teardown.Frame
import Reactive.Proofs.Teardown.MountEffect
import Reactive.Proofs.Teardown.Unmount
import Reactive.Proofs.Teardown.Restore
import Reactive.Proofs.Volatile.Closure
import Reactive.Proofs.Volatile.Plan
import Reactive.Proofs.Volatile.Run
import Reactive.Proofs.Volatile.Observe
import Reactive.Proofs.Runtime.Flushing
import Reactive.Proofs.Compose.Reach
import Reactive.Proofs.Runtime.MountFailure
import Reactive.Proofs.Events.Traced
import Reactive.Proofs.Events.Tally
import Reactive.Proofs.Events.Routing
import Reactive.Proofs.Eval.Frame
import Reactive.Proofs.Eval.Handlers
import Reactive.Proofs.Runtime.Idempotence
import Reactive.Proofs.Compose.Layout
import Reactive.Proofs.Compose.Variables
import Reactive.Proofs.Eval.Relational
import Reactive.Proofs.Value.NumericString
import Reactive.Proofs.Scope.Dependencies
import Reactive.Proofs.Eval.Indexing
import Reactive.Proofs.Number.Accumulate
import Reactive.Proofs.Eval.ParseInt
import Reactive.Proofs.Runtime.SoundRuns
import Reactive.Proofs.Compose.Coherence
import Reactive.Proofs.Runtime.MountSound
import Reactive.Proofs.Runtime.Render
