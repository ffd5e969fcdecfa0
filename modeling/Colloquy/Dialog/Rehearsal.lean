import Colloquy.Dialog.Flows
import Colloquy.Run.Machine

/-!
# Rehearsing a dialog

A rehearsal plays the requests of a conversation against one dialog. Each request gets a session of
its own that carries on the variables and the frame of the request before. Between requests the
dialog itself may be extended.
-/

namespace Colloquy

/-- One request of a rehearsal, or a change of the dialog. -/
inductive Cue where
  /-- Runs a flow. -/
  | flow (path value : Value)
  /-- Starts the dialog. -/
  | start (value : Value)
  | payload (key value : Value)
  | postback (key value : Value)
  | result (dialog tag value : Value)
  /-- What a user would do next: hand in the result of the dialog that the request before started, or
  pick one of the actions that it offered. -/
  | next (index : Int) (value : Value)
  /-- Compiles a further flow. -/
  | compile (flow path : Value)
  /-- Registers a function as a flow. -/
  | add (path fn : Value)
  /-- Asks for the name of a flow handler. -/
  | name (path : Value)
  /-- Asks for the key of a path. -/
  | key (path : Value)
  /-- Registers a named handler. -/
  | register (name fn : Value)

def FlowHandler.name : FlowHandler → Outcome String
  | .sequence key .. => .ok ("flow_" ++ key)
  | .loop id .. => .ok ("loop_" ++ id)
  | .external (.function f) => .ok f.name
  | .external _ => .error .missingMember

structure Rehearsal where
  machine : Machine
  world : World

namespace Rehearsal

def ofMachine (m : Machine) (world : World) : Rehearsal :=
  { machine := m
    world := { world with
      templateLimit := m.program.settings.cacheSize
      logs := m.program.warnings.map fun text => ⟨.warning, text⟩ } }

def actionsOf (heap : Heap) (message : Entries) : List Value :=
  let listOf (v : Value) : List Value := (heap.current v).elements?.getD []
  let inItem (item : Value) : List Value :=
    match item with
    | .dict _ entries => listOf (Entries.named entries "actions")
    | _ => []
  listOf (Entries.named message "actions") ++ (listOf (Entries.named message "items")).flatMap inItem

/-- Handler of the action that a user picks: a reply is a payload, all else a postback. -/
def actionHandler? (p : Program) (action : Value) : Option EventHandler :=
  match action with
  | .dict _ entries =>
    let payload := Entries.named entries "payload"
    let key : Value := if payload.truthy then payload else .str ""
    if (Entries.named entries "type").eq (.str "reply") then p.payloadHandler? key
    else p.postbackHandler? key
  | _ => none

/-- Handler of what a user would do after a request; none if there is nothing to do. -/
def nextHandler? (p : Program) (heap : Heap) (before : Session) (index : Int) :
    Option (Option EventHandler) :=
  match before.started.getLast? with
  | some frame => some (p.dialog.resultHandler? frame.dialog frame.tag)
  | none => do
    let actions ← (before.sent.map (actionsOf heap)).reverse.find? (!·.isEmpty)
    return actions[(index % actions.length).toNat]?.bind (actionHandler? p)

def call (m : Machine) (key : Value) (handler : Option EventHandler) (value : Value) : Run Value := do
  if !key.hashable then throw (.fault .wrongType)
  match handler with
  | some h => do
    m.handle h value
    return .str "done"
  | none => return .str "no handler"

def request (m : Machine) (before : Session) : Cue → Run Value
  | .flow path value => do
    m.resume path value
    return .str "done"
  | .start value => call m .none m.program.dialog.start value
  | .payload key value => call m key (m.program.payloadHandler? key) value
  | .postback key value => call m key (m.program.postbackHandler? key) value
  | .result dialog tag value =>
    call m (.tuple [dialog, tag]) (m.program.dialog.resultHandler? dialog tag) value
  | .next index value => do
    match nextHandler? m.program (← get).heap before index with
    | some handler => call m .none handler value
    | none => return .str "nothing"
  | _ => pure .none

def withProgram (r : Rehearsal) (p : Program) : Rehearsal :=
  let fresh := p.warnings.drop r.machine.program.warnings.length
  { machine := { r.machine with program := p }
    world := { r.world with logs := r.world.logs ++ fresh.map fun text => ⟨.warning, text⟩ } }

def perform (r : Rehearsal) (before : Session) (cue : Cue) : Except Error Value × Rehearsal :=
  let p := r.machine.program
  match cue with
  | .compile flow path =>
    match Compile.addFlow flow path p with
    | .ok _ p => (.ok (.ofList (p.keys.map Value.str)), r.withProgram p)
    | .error e p => (.error e, r.withProgram p)
  | .add path fn =>
    match (do p.add (← p.key path) (.external fn)) with
    | .ok p => (.ok fn, r.withProgram p)
    | .error e => (.error e, r)
  | .name path =>
    (do
      match (← p.find path).name with
      | .ok name => return .str name
      | .error f => .error (.fault f), r)
  | .key path => ((p.key path).map Value.str, r)
  | .register name fn =>
    match registerHandler r.machine.handlers name fn with
    | .error e => (.error e, r)
    | .ok handlers =>
      let names := match handlerNames handlers with
        | .ok names => .ok (Value.ofList names)
        | .error f => .error (.fault f)
      (names, { r with machine := { r.machine with handlers } })
  | cue =>
    match request r.machine before cue r.world with
    | .ok v world => (.ok v, { r with world })
    | .error e world => (.error e, { r with world })

/-- Plays a cue. `keep` goes on with the session as it is, `changes` are set in it beforehand. -/
def play (r : Rehearsal) (keep : Bool) (changes : Option Value) (cue : Cue) :
    Except Error Value × Rehearsal :=
  let before := r.world.session
  let session := if keep then before else before.successor
  let world := { r.world with session, logs := [], calls := [], slept := [] }
  match changes with
  | none => perform { r with world } before cue
  | some values =>
    match Run.onSession (Session.set values .none) world with
    | .ok _ world => perform { r with world } before cue
    | .error e world => (.error e, { r with world })

end Rehearsal

end Colloquy
