import Colloquy.Dialog.Rehearsal
import Colloquy.Shell.Command
import Colloquy.Shell.Task

/-!
# Trying a flow

A flow of a file is run once in a session that is kept in memory, and what it did is listed.
-/

namespace Colloquy.Shell

open Console

def handlersOf (env : Environment) : Option String → Task Handlers
  | none => pure []
  | some name =>
    match env.modules.lookup name with
    | some (some handlers) => pure handlers
    | some none => throw .usage
    | none =>
      throw (.escaped (.fault (
        if name.isEmpty then .badValue
        else if name.toList.head? == some '.' then .wrongType
        else .missingModule)))

def effectTable (title : String) (w : World) : Table where
  title := title
  columns := [{ header := "Effect" }, { header := "Value" }]
  rows :=
    let shown (entries : Entries) : String := (w.heap.current (.dict .anonymous entries)).toText
    let text (v : Value) : String := (w.heap.current v).toText
    (w.session.sent.map fun m => ["send", shown m]) ++
    (w.session.started.map fun f =>
      ["start", text f.dialog ++ " tag=" ++ text f.tag ++ " args=" ++ shown f.locals]) ++
    (w.session.finished.map fun v => ["finish", (w.heap.current v).repr])

def sessionId : String := "memory-session"

def tryFlow (env : Environment) (level : Option String) (flow : String) (moduleName : Option String)
    (assignments : List String) (loaded : Except Error FlowFile) : Task Unit := do
  let words := "Error: "
  let file ← Task.reporting env words loaded
  Task.applyLevel level file
  let handlers ← handlersOf env moduleName
  let (flows, next) := flowsOf file
  let (program, _) ← Task.reporting env words (Program.build (.str file.name) flows .none file.settings)
  let some given := readVariables assignments | throw .usage
  let session : Session := { id := .str sessionId, dialog := .str program.dialog.name }
  let rehearsal := Rehearsal.ofMachine ⟨env.app, handlers, program⟩ { session, heap := { next } }
  let values := Value.record (given.map fun (name, value) => (name, .str value))
  let (result, rehearsal) := rehearsal.play true (some values) (.flow (.str flow) .none)
  let _ ← Task.reporting env words result
  let w := rehearsal.world
  Task.printTable env (effectTable (program.dialog.name ++ ":" ++ flow) w)
  let variablesText (entries : Entries) : String := (w.heap.current (.dict .anonymous entries)).toText
  Task.print env ("locals: " ++ variablesText w.session.locals)
  Task.print env ("globals: " ++ variablesText w.session.globals)

end Colloquy.Shell
