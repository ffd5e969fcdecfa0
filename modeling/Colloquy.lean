import Colloquy.App.Dispatch
import Colloquy.Compile.Catalog
import Colloquy.Console.Table
import Colloquy.Dialog.Rehearsal
import Colloquy.File.FlowFile
import Colloquy.File.Load
import Colloquy.Flow.Checked
import Colloquy.Log.Entry
import Colloquy.Main
import Colloquy.Run.Script
import Colloquy.Shell.Invoke
import Colloquy.Value.Json.Reader
import Colloquy.Yaml.Document
import Colloquy.Yaml.Node
import Colloquy.Yaml.Token
import Colloquy.Proofs.Compile.Derivation
import Colloquy.Proofs.Direct.Interpreter
import Colloquy.Proofs.Direct.Laws
import Colloquy.Proofs.Compile.Growth
import Colloquy.Proofs.Direct.Position
import Colloquy.Proofs.Direct.Soundness
import Colloquy.Proofs.Run.PathIndependence
import Colloquy.Proofs.Session.Effects
import Colloquy.Proofs.Direct.Plain
import Colloquy.Proofs.Compile.Closed
import Colloquy.Proofs.Dialog.Build
import Colloquy.Proofs.Direct.Resumption
import Colloquy.Proofs.Run.Expansion
import Colloquy.Proofs.Dialog.ClosedRuns
import Colloquy.Proofs.Dialog.Results
import Colloquy.Proofs.Dialog.FreshKeys
import Colloquy.Proofs.Dialog.Buttons
import Colloquy.Proofs.Dialog.Transfers
import Colloquy.Proofs.Value.Receiver
import Colloquy.Proofs.Session.Variables
import Colloquy.Proofs.Run.Points
import Colloquy.Proofs.Run.Variables
import Colloquy.Proofs.Dialog.Variables
import Colloquy.Proofs.Session.OwnWrites
import Colloquy.Proofs.Dialog.Extending
import Colloquy.Proofs.Dialog.LoopFree
import Colloquy.Proofs.Dialog.Mistakes
import Colloquy.Proofs.Session.Lock
import Colloquy.Proofs.App.Routing
import Colloquy.Proofs.Compile.Signals
import Colloquy.Proofs.Dialog.LateFlows
import Colloquy.Proofs.Dialog.Described
import Colloquy.Proofs.Flow.ActionValue
import Colloquy.Proofs.Flow.RawForm
import Colloquy.Proofs.Direct.Counting
import Colloquy.Proofs.Run.Literal
import Colloquy.Proofs.Run.Delivery
import Colloquy.Proofs.Dialog.Continuations
import Colloquy.Proofs.Run.Negation
import Colloquy.Proofs.Run.Alike
import Colloquy.Proofs.Compile.Plans
import Colloquy.Proofs.Run.Exchange
import Colloquy.Proofs.Run.Counterparts
import Colloquy.Proofs.Dialog.Negations
import Colloquy.Proofs.Flow.Codec
import Colloquy.Proofs.Run.Simultaneous
import Colloquy.Proofs.Number.Double
import Colloquy.Proofs.Run.Waiting
import Colloquy.Proofs.Run.Calling
import Colloquy.Proofs.Dialog.EntryFlows
import Colloquy.Proofs.Flow.GivenIds
import Colloquy.Proofs.Compile.Calls
import Colloquy.Proofs.Run.Destructuring
