import Colloquy.App.Notification
import Colloquy.Dialog.Flows
import Colloquy.Run.Machine

/-!
# Dispatching notifications

An application owns dialogs by name. A notification is told to the hook of its event, and one that
concerns a frame goes to the handler of the dialog that runs the frame. If there is no handler the
event is dropped and a log record tells so.
-/

namespace Colloquy

mutual

def Value.withoutRecords : Value → Value
  | .model _ fields extras =>
    .record (withoutRecordsInFields fields ++ withoutRecordsInFields extras)
  | .list id items => .list id (withoutRecordsInAll items)
  | .tuple items => .tuple (withoutRecordsInAll items)
  | .dict id entries => .dict id (withoutRecordsInEntries entries)
  | v => v
termination_by structural v => v

def Value.withoutRecordsInAll : List Value → List Value
  | [] => []
  | v :: vs => v.withoutRecords :: withoutRecordsInAll vs
termination_by structural vs => vs

/-- Entries with the records among their values turned into mappings. -/
def Value.withoutRecordsInEntries : List (Value × Value) → List (Value × Value)
  | [] => []
  | (k, v) :: es => (k, v.withoutRecords) :: withoutRecordsInEntries es
termination_by structural es => es

/-- Fields with the records among their values turned into mappings. -/
def Value.withoutRecordsInFields : List (String × Value) → List (String × Value)
  | [] => []
  | (k, v) :: fs => (k, v.withoutRecords) :: withoutRecordsInFields fs
termination_by structural fs => fs

end

def SessionSnapshot.toSession (s : SessionSnapshot) : Session :=
  let frame := s.currentFrame
  let entries (fields : Fields) : Entries := fields.map fun (k, v) => (.str k, v)
  { id := .str s.id
    frameId := .ofText? frame.id
    dialog := .ofText? frame.dialog
    tag := .ofText? frame.tag
    globals := entries s.globals
    locals := entries (frame.locals.map fun (k, v) => (k, v.withoutRecords))
    volatiles := entries s.volatiles }

/-- Dialogs by name, and hooks by event. -/
structure DialogApp where
  /-- Dialogs in the order in which they were added. -/
  dialogs : List (String × Machine) := []
  /-- Hooks that are told of events; of two for one event the first counts. -/
  hooks : List (String × (Notification → Run Unit)) := []

inductive DialogSource where
  | dialog (m : Machine)
  | group (sources : List DialogSource)
  /-- Something that is no dialog. -/
  | other (v : Value)

namespace DialogApp

/-- Adds a dialog; one of the same name is replaced in its place. -/
def addDialog (a : DialogApp) (m : Machine) : DialogApp :=
  let name := m.program.dialog.name
  if a.dialogs.any (·.1 == name) then
    { a with dialogs := a.dialogs.map fun (k, old) => if k == name then (k, m) else (k, old) }
  else { a with dialogs := a.dialogs ++ [(name, m)] }

mutual

def addSource (a : DialogApp) : DialogSource → Except Error DialogApp
  | .dialog m => .ok (a.addDialog m)
  | .group sources => addSources a sources
  | .other v => .error (.notDialog v)
termination_by structural source => source

def addSources (a : DialogApp) : List DialogSource → Except Error DialogApp
  | [] => .ok a
  | source :: rest => do addSources (← addSource a source) rest
termination_by structural sources => sources

end

def call (m : Machine) (handler : Option EventHandler) (value : Value) (description : String) : Run Unit :=
  match handler with
  | some h => m.handle h value
  | none => Run.log .warning ("Couldn't find handler for " ++ description)

/-- Hands over the result of a completed frame. -/
def dispatchResult (m : Machine) (n : Notification) : Run Unit :=
  let dialog := m.program.dialog
  match n.session.completed with
  | none => Run.log .error ("Result event without a completed frame in dialog " ++ dialog.name)
  | some frame =>
    let name : Value := .ofText? frame.dialog
    let tag : Value := .ofText? frame.tag
    match dialog.resultHandler? name tag with
    | some h => m.handle h frame.result
    | none =>
      Run.log .error ("Couldn't find result handler for " ++ name.toText ++ "." ++ tag.toText ++
        " in dialog " ++ dialog.name)

/-- Hands over what a user said or picked: a payload, a postback or an intent, in this order. -/
def dispatchInput (m : Machine) (n : Notification) : Run Unit :=
  let data := n.data
  let dialog := m.program.dialog
  let given (s : Option String) : Option String := s.filter (!·.isEmpty)
  match given data.payload, given data.postback with
  | some key, _ => call m (m.program.payloadHandler? (.str key)) (.ofText? data.text) key
  | none, some key => call m (m.program.postbackHandler? (.str key)) data.args key
  | none, none =>
    let handler := (given data.intent).bind fun intent =>
      (dialog.intents.get? (.str intent)).filter EventHandler.isSet
    match handler, dialog.default with
    | some h, _ => m.handle h (.record data.entities)
    | none, some h => m.handle h data.toValue
    | none, none =>
      Run.log .warning ("Dialog " ++ dialog.name ++ " received intent " ++
        (Value.ofText? data.intent).toText ++ ", but no handler found")

/-- Hands an event to the dialog of its frame. -/
def dispatch (m : Machine) (n : Notification) : Run Unit :=
  let dialog := m.program.dialog
  match n.event with
  | "frame_start" => call m dialog.start .none ("start of " ++ dialog.name)
  | "frame_result" | "frame_end" => dispatchResult m n
  | "frame_input" | "frame_message" => dispatchInput m n
  | "frame_default" => call m dialog.default n.data.toValue ("default of " ++ dialog.name)
  | event => Run.log .warning ("Unhandled frame event " ++ event)

def handleFrame (a : DialogApp) (n : Notification) : Run Unit := do
  let session := n.session.toSession
  modify fun w => { w with session }
  match a.dialogs.lookup (n.session.currentFrame.dialog.getD "") with
  | some m => dispatch m n
  | none =>
    Run.log .warning ("No dialog named " ++ session.dialog.repr ++ " for session " ++ n.session.id)

def handle (a : DialogApp) (n : Notification) : Run Unit := do
  match a.hooks.lookup n.event with
  | some hook => hook n
  | none => pure ()
  if n.concernsFrame then a.handleFrame n

end DialogApp

end Colloquy
