import Colloquy.Compile.Flow
import Colloquy.Flow.Normal

/-!
# Dialogs made of flows

A dialog described by flows: each entry point is compiled, references between flows are checked, and
the flow `onStart` (or `start`) becomes the start handler. Payloads and postbacks that nothing else
handles resume the flow of that key.
-/

namespace Colloquy

def Normal.described (source : Value) : Except Error (List (String × Flow)) :=
  if source.truthy then Normal.flows source else .ok []

/-- Ids of the flow that starts a dialog, the first one found counts. -/
def startIds : List String := ["onStart", "start"]

def Program.startingWith (p : Program) (entries : List (String × FlowPath)) : Program :=
  match startIds.findSome? fun id => entries.lookup id with
  | some path => { p with dialog := { p.dialog with start := some (.resume path.toValue) } }
  | none => p

namespace Compile

def entryPoints : List (String × Flow) → Compile (List (String × FlowPath))
  | [] => pure []
  | (id, flow) :: rest => do
    let path ← append [] id
    compileFlow flow path {} 0
    return (id, path) :: (← entryPoints rest)

/-- Compiles the flows of a dialog and gives the paths of its entry points. -/
def flows (source : Value) : Compile (List (String × FlowPath)) := do
  let entries ← entryPoints (← ofExcept (Normal.described source))
  checkReferences
  modify fun p => p.startingWith entries
  return entries

def addFlow (source path : Value) : Compile Unit := do
  let key ← ofExcept ((← get).key path)
  let segments ← ofExcept (FlowKey.toPath (.str key))
  let flow ← ofExcept (Normal.flow source)
  compileFlow flow (segments.map Segment.name) {} 0
  checkReferences

end Compile

namespace Program

def make (name modelName : Value) (settings : Settings) : Except Error Program := do
  let dialog ← Dialog.make name modelName
  return { dialog := { dialog with wildcard := .str settings.wildcard }, settings }

/-- Program of a dialog whose flows are given, and its entry points. -/
def build (name source modelName : Value) (settings : Settings) :
    Except Error (Program × List (String × FlowPath)) := do
  let p ← make name modelName settings
  match Compile.flows source p with
  | .ok entries p => return (p, entries)
  | .error e _ => .error e

def flowHandler? (p : Program) (key : Value) : Option EventHandler :=
  if p.contains key then some (.resume key) else none

def postbackHandler? (p : Program) (key : Value) : Option EventHandler :=
  ((p.dialog.postbacks.get? key).filter EventHandler.isSet).or (p.flowHandler? key)

def payloadHandler? (p : Program) (key : Value) : Option EventHandler :=
  ((p.dialog.payloads.get? key).filter EventHandler.isSet).or (p.flowHandler? key)

end Program

end Colloquy
