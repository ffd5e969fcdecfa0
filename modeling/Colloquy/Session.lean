import Colloquy.Error
import Colloquy.Text.Class
import Colloquy.Value.Method

/-!
# Sessions

A session is the view that one request has of a conversation: its global variables, the variables of
the current dialog frame and the volatile ones of the request. Where a variable lives is told by its
name. Effects go through the session; after a frame was started or finished the current frame
belongs to someone else, so the session locks and every further effect is refused.
-/

namespace Colloquy

inductive VariableScope where
  | volatiles | globals | locals
deriving Repr, DecidableEq

def VariableScope.name : VariableScope → String
  | .volatiles => "volatiles"
  | .globals => "globals"
  | .locals => "locals"

/-- `_name` is volatile, `Name` is global, anything else is local. -/
def variableScope (name : String) : VariableScope :=
  match name.toList with
  | '_' :: _ => .volatiles
  | c :: _ => if Text.isUpper c then .globals else .locals
  | [] => .locals

/-- Variables as they were saved. -/
structure Snapshot where
  globals : Entries
  locals : Entries

structure StartedFrame where
  dialog : Value
  tag : Value
  locals : Entries

/-- Something that a session did to the world around it. -/
inductive SessionEvent where
  | sent (message : Entries)
  | saved (snapshot : Snapshot)
  | started (frame : StartedFrame)
  | finished (result : Value)
  | waited (seconds : Float)

structure Session where
  id : Value
  frameId : Value := .none
  dialog : Value := .none
  tag : Value := .none
  globals : Entries := []
  locals : Entries := []
  volatiles : Entries := []
  locked : Bool := false
  /-- Whether frames can neither be started nor finished at the moment. -/
  transportDown : Bool := false
  /-- What the session did, in order. -/
  history : List SessionEvent := []

/-- A change of a session that may fail; what happened before the failure stays. -/
abbrev Effect := EStateM Error Session

namespace Session

def record (s : Session) (event : SessionEvent) : Session := { s with history := s.history ++ [event] }

def sent (s : Session) : List Entries :=
  s.history.filterMap fun | .sent message => some message | _ => none

def started (s : Session) : List StartedFrame :=
  s.history.filterMap fun | .started frame => some frame | _ => none

/-- Results handed over so far. -/
def finished (s : Session) : List Value :=
  s.history.filterMap fun | .finished result => some result | _ => none

def saves (s : Session) : List Snapshot :=
  s.history.filterMap fun | .saved snapshot => some snapshot | _ => none

def givenMapping (v : Value) : Except Error Entries :=
  if v.truthy then
    match entriesOf v with
    | .ok entries => .ok entries
    | .error f => .error (.fault f)
  else .ok []

/-- A session with an id, global variables, a current frame and volatile variables. -/
def make (id globals frame volatiles : Value) : Except Error Session := do
  if !id.truthy then .error .sessionWithoutId
  let frame ← givenMapping frame
  let globals ← givenMapping globals
  let locals ← givenMapping (Entries.named frame "locals")
  let volatiles ← givenMapping volatiles
  return {
    id, globals, locals, volatiles
    frameId := Entries.named frame "id"
    dialog := Entries.named frame "dialog"
    tag := Entries.named frame "tag" }

def entriesIn (s : Session) : VariableScope → Entries
  | .volatiles => s.volatiles
  | .globals => s.globals
  | .locals => s.locals

def withVariables (s : Session) (entries : Entries) : VariableScope → Session
  | .volatiles => { s with volatiles := entries }
  | .globals => { s with globals := entries }
  | .locals => { s with locals := entries }

def assign (s : Session) (name : String) (value : Value) : Session :=
  let scope := variableScope name
  s.withVariables (Entries.put (s.entriesIn scope) name value) scope

/-- Value of a variable: volatile variables shadow local ones, and those shadow global ones. -/
def get? (s : Session) (name : Value) : Option Value :=
  (Entries.get? s.volatiles name).or ((Entries.get? s.locals name).or (Entries.get? s.globals name))

def get (s : Session) (name default : Value) : Except Error Value :=
  if name.hashable then .ok ((s.get? name).getD default) else .error (.fault .wrongType)

/-- The variables that handlers see. The value that a flow is resumed with is called `value`. -/
def handlerVars (s : Session) (value : Value) : Entries :=
  let entries := Entries.merge (Entries.merge s.globals s.locals) s.volatiles
  if value.isNone then entries else Entries.put entries "value" value

def setOne (name value : Value) : Effect Unit := do
  match name.text? with
  | some n => if n.isEmpty then throw (.variableName name) else modify (·.assign n value)
  | none => throw (.variableName name)

def set (name value : Value) : Effect Unit := do
  match name with
  | .dict _ entries => entries.forM fun (k, v) => setOne k v
  | name => setOne name value

/-- Refuses to go on once the session is locked. -/
def checkLock : Effect Unit := do
  if (← getThe Session).locked then throw Error.sessionLocked

def save (values : Value) : Effect Unit := do
  checkLock
  if values.truthy then set values .none
  modify fun s => s.record (.saved ⟨s.globals, s.locals⟩)

def inferMessageType (message : Entries) : Option String :=
  if !(Entries.named message "mediaUrl").isNone then some "image"
  else if !(Entries.named message "items").isNone then some "list"
  else if !(Entries.named message "text").isNone then some "text"
  else none

/-- A message as it is sent: a text is sent as a text message. The type of a message is shown when it is sent, so it has
to be one that can be written. -/
def posted (message : Value) : Except Error Entries :=
  match message with
  | .str _ | .markup _ => .ok [(.str "type", .str "text"), (.str "text", message)]
  | .dict _ entries =>
    match inferMessageType entries with
    | none => .error (.untypedMessage message)
    | some type =>
      let params := if Entries.hasName entries "type" then entries else Entries.put entries "type" (.str type)
      if (Entries.named params "type").unwritable then .error (.fault .badValue) else .ok params
  | v => .error (.notMessage v)

def send (message : Value) : Effect Unit := do
  checkLock
  match posted message with
  | .error e => throw e
  | .ok params => modify (·.record (.sent params))

/-- Locks the session for a transfer; if the transfer fails with an error the lock is taken back. What is no error, as
the interruption of a request, does not take it back. -/
def transfer {α : Type} (effect : Effect α) : Effect α := do
  checkLock
  modify ({ · with locked := true })
  try
    effect
  catch e =>
    modify ({ · with locked := false })
    throw e

/-- The frame that is to run a dialog. Dialog and tag are shown when it is started, so they have to be ones that can be
written. -/
def newFrame (dialog tag locals : Value) : Except Error StartedFrame :=
  if dialog.unwritable || tag.unwritable then .error (.fault .badValue)
  else (givenMapping locals).map fun entries => ⟨dialog, tag, entries⟩

/-- Starts a frame that runs a dialog; its result is told by the tag. -/
def start (dialog tag locals : Value) : Effect Unit :=
  transfer do
    match newFrame dialog tag locals with
    | .error e => throw e
    | .ok frame =>
      if (← getThe Session).transportDown then throw Error.transportDown
      modify (·.record (.started frame))

/-- Ends the current frame and hands a result to its parent. -/
def finish (result : Value) : Effect Unit :=
  transfer do
    if (← getThe Session).transportDown then throw Error.transportDown
    modify (·.record (.finished result))

/-- Runs a method by its name; missing arguments are `None`. -/
def perform (method : String) (args : List Value) : Effect Value := do
  let arg (i : Nat) : Value := args.getD i .none
  let expect (least most : Nat) : Effect Unit :=
    if args.length < least || most < args.length then throw (.fault .wrongType) else pure ()
  match method with
  | "get" =>
    expect 1 2
    match (← getThe Session).get (arg 0) (arg 1) with
    | .ok v => return v
    | .error e => throw e
  | "set" => expect 1 2; set (arg 0) (arg 1); return .none
  | "save" => expect 0 1; save (arg 0); return .none
  | "send" => expect 1 1; send (arg 0); return .none
  | "start" => expect 1 3; start (arg 0) (arg 1) (arg 2); return .none
  | "finish" => expect 0 1; finish (arg 0); return .none
  | "check_lock" => expect 0 0; checkLock; return .none
  | _ => throw (.fault .missingMember)

/-- The session of the next request: variables and frame stay, effects and the lock do not. -/
def successor (s : Session) : Session :=
  { id := s.id, frameId := s.frameId, dialog := s.dialog, tag := s.tag, globals := s.globals
    locals := s.locals }

def texts (s : Session) : List Value := s.sent.map fun m => Entries.named m "text"

def repr (s : Session) : String :=
  "<MemorySession " ++ s.id.toText ++ " dialog=" ++ s.dialog.toText ++ ">"

end Session

end Colloquy
