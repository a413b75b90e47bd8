import Workflow.Http.Service
import Workflow.Live.Session
import Workflow.Main
import Workflow.Password.Hash
import Workflow.Relay
import Workflow.Template.Resolve
import Workflow.Token.Basic
import Workflow.Value.Lemmas
import Workflow.Proofs.Graph.Precedence
import Workflow.Proofs.Graph.Release
import Workflow.Proofs.Graph.TopologicalOrder
import Workflow.Proofs.Template.Pieces
import Workflow.Proofs.Text.Trim
import Workflow.Proofs.Template.Evaluation
import Workflow.Proofs.Engine.Trail
import Workflow.Proofs.Engine.Downstream
import Workflow.Proofs.Handler.Action
import Workflow.Proofs.Value.Patch
import Workflow.Proofs.Store.Changes
import Workflow.Proofs.Handler.Effect
import Workflow.Proofs.Handler.Atomicity
import Workflow.Proofs.Handler.Wording
import Workflow.Proofs.Engine.Return
import Workflow.Proofs.Engine.History
import Workflow.Proofs.Engine.Passwords
import Workflow.Proofs.Handler.Login
import Workflow.Proofs.Http.GraphRequests
import Workflow.Proofs.Engine.Composition
import Workflow.Proofs.Engine.Interference
import Workflow.Proofs.Engine.LogHistory
import Workflow.Proofs.Signup.Run
import Workflow.Proofs.Engine.Lifecycle
import Workflow.Proofs.Engine.Publications
import Workflow.Proofs.Handler.Reads
import Workflow.Proofs.Engine.Names
import Workflow.Proofs.Engine.Interleaving
import Workflow.Proofs.Trace.FanOut
import Workflow.Proofs.Store.Journal
import Workflow.Proofs.Http.Ways
import Workflow.Proofs.Engine.InputWrites
import Workflow.Proofs.Live.Delivery
import Workflow.Proofs.Live.Recording
import Workflow.Proofs.Value.Readable
import Workflow.Proofs.Value.ReadBack
import Workflow.Proofs.Live.Transcript
import Workflow.Proofs.Graph.ReleaseKeys
import Workflow.Proofs.Graph.Renaming
import Workflow.Proofs.Engine.Requirements
import Workflow.Proofs.Store.Selection
import Workflow.Proofs.Engine.DeclaredVariables
import Workflow.Proofs.Handler.LoginReport
import Workflow.Proofs.Live.Heartbeat
import Workflow.Proofs.Store.Repetition
import Workflow.Proofs.Template.NormalForm
import Workflow.Proofs.Handler.Validation
import Workflow.Proofs.Engine.Defaults
import Workflow.Proofs.Graph.ReleaseLoop
import Workflow.Proofs.Template.Pattern
import Workflow.Proofs.Token.RoundTrip
