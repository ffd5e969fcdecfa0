import Colloquy.Compile.Flow
import Colloquy.Flow.Normal
import Colloquy.Run.Expand

/-!
# Running compiled flows

A sequence runs its steps in order; the values that a step sets are seen by the steps after it. A
step may also end the sequence by jumping to another flow. Jumps are followed one after the other, so
a run is a chain of sequences and needs no stack.
-/

namespace Colloquy

/-- All that is needed to run the flows of a dialog. -/
structure Machine where
  app : Application
  handlers : Handlers
  program : Program

inductive StepResult where
  | done
  /-- Goes on with further variables. -/
  | update (values : Entries)
  /-- Goes on with another flow. -/
  | jump (path vars : Value)
  | signal (s : Signal)

namespace Machine

def expander (m : Machine) (vars : Value) (path : FlowPath) : Expander :=
  ⟨m.app, m.handlers, vars, sessionValue, path.toValue⟩

def overlay (vars : Value) (values : Entries) : Run Value := do
  match ← Run.current vars with
  | .dict _ entries => Run.store (.dict .anonymous (Entries.merge entries values))
  | _ => throw (.fault .wrongType)

def setEntry (container : Value) (name : String) (v : Value) : Run Value := do
  match ← Run.current container with
  | .dict id entries =>
    let changed : Value := .dict id (Entries.put entries name v)
    Run.write changed
    return changed
  | _ => throw (.fault .wrongType)

/-- A computed action as it is sent. It cannot carry a flow but may refer to one. -/
def computedAction (m : Machine) (next : Option FlowPath) (a : Action) : Run Value := do
  let info := a.info
  if a.flow.isSome then throw (.computedActionFlow (.ofText? info.id))
  let params := info.params
  if !info.thenFlow.isNone then
    if !info.kind.carriesFlow then throw (.computedActionType (.ofText? info.id) info.kind.name)
    let key ← Run.ofExcept (m.program.key info.thenFlow)
    return .dict .anonymous (Entries.put params "payload" (.str key))
  match next with
  | some target =>
    if info.kind == .reply && !Entries.hasName params "payload" then
      let key ← Run.ofExcept (m.program.pathKey target)
      return .dict .anonymous (Entries.put params "payload" (.str key))
    else return .dict .anonymous params
  | none => return .dict .anonymous params

def expandActions (m : Machine) (x : Expander) (next : Option FlowPath) : ActionPlan → Run (Option Value)
  | .absent => pure none
  | .fixed actions => do
    return some (← x.expand (.ofList (actions.map (Value.dict .anonymous))))
  | .computed handler => do
    let raw ← Run.current (← x.expand handler)
    if raw.isNone then return some (.ofList [])
    match ← Run.ofExcept (Normal.actions (.str "reply") raw) with
    | .fixed actions => return some (.ofList (← actions.mapM (m.computedAction next)))
    | .absent => return some (.ofList [])
    | .computed _ => throw (.fault .wrongType)

def computedItem (m : Machine) (next : Option FlowPath) (i : Item) : Run Value := do
  let params := i.info.params
  match i.actions with
  | .absent => return .dict .anonymous params
  | .computed _ => throw .computedItemActions
  | .fixed actions =>
    let list ← actions.mapM (m.computedAction next)
    return .dict .anonymous (Entries.put params "actions" (.ofList list))

def expandItem (m : Machine) (x : Expander) (next : Option FlowPath) (item : Entries × ActionPlan) :
    Run Value := do
  let v ← x.expand (.dict .anonymous item.1)
  match ← m.expandActions x next item.2 with
  | some actions => setEntry v "actions" actions
  | none => return v

def expandItems (m : Machine) (x : Expander) (next : Option FlowPath) : ItemPlan → Run (Option Value)
  | .absent => pure none
  | .fixed items => do return some (.ofList (← items.mapM (m.expandItem x next)))
  | .computed handler => do
    let raw ← Run.current (← x.expand handler)
    if raw.isNone then return some (.ofList [])
    match ← Run.ofExcept (Normal.items raw) with
    | .fixed items => return some (.ofList (← items.mapM (m.computedItem next)))
    | .absent => return some (.ofList [])
    | .computed _ => throw (.fault .wrongType)

/-- Whether one of the items that were sent offers a reply. -/
def repliesInItems : List Value → Run Bool
  | [] => pure false
  | .dict _ entries :: rest =>
    if repliesIn (Entries.named entries "actions") then pure true else repliesInItems rest
  | _ :: _ => throw (.fault .missingMember)

def offersReply (message : Value) : Run Bool := do
  match ← Run.current message with
  | .dict _ entries =>
    if repliesIn (Entries.named entries "actions") then return true
    let items := Entries.named entries "items"
    if items.truthy then repliesInItems (← Run.ofOutcome items.elements) else return false
  | _ => throw (.fault .missingMember)

/-- Puts something under a name of a message, if there is anything to put there. -/
def attach (message : Value) (name : String) : Option Value → Run Value
  | some v => setEntry message name v
  | none => pure message

def deliver (m : Machine) (plan : MessagePlan) (vars : Value) : Run Value := do
  let x := m.expander vars plan.path
  let message ← x.expand (.dict .anonymous plan.params)
  let message ← attach message "actions" (← m.expandActions x plan.next plan.actions)
  let message ← attach message "items" (← m.expandItems x plan.next plan.items)
  Run.onSession (Session.send (← Run.current message))
  return message

/-- Sends a message. One with computed actions or items that offers no reply goes on at once. -/
def sendMessage (m : Machine) (plan : MessagePlan) (vars : Value) : Run StepResult := do
  let message ← m.deliver plan vars
  match plan.dynamic, plan.next with
  | true, some next => if ← offersReply message then return .done else return .jump next.toValue vars
  | _, _ => return .done

def setVariables (m : Machine) (path : FlowPath) (values : Fields) (vars : Value) : Run Entries := do
  let values ← (m.expander vars path).expandSet (.record values)
  let values ← Run.current values
  Run.onSession (Session.save values)
  return values.mapping?.getD []

/-- Sets variables of the session and puts their values on top of the variables. -/
def assign (m : Machine) (path : FlowPath) (values : Fields) (vars : Value) : Run Value := do
  overlay vars (← m.setVariables path values vars)

def holds (m : Machine) (path : FlowPath) (condition vars : Value) : Run Bool := do
  return (← Run.current (← (m.expander vars path).expand condition)).truthy

def matchesCase (value case : Value) : Outcome Bool := do
  if value.eq case then return true
  if value.isNone || case.isNone then return false
  return (← value.toText?) == (← case.toText?)

def selectCase (value : Value) (fallback : FlowPath) : List (Value × FlowPath) → Outcome FlowPath
  | [] => .ok fallback
  | (case, target) :: rest => do
    if ← matchesCase value case then return target else selectCase value fallback rest

/-- Chooses among cases. A note on the choice shows the value, so it has to be one that can be written. -/
def chooseCase (value : Value) (fallback : FlowPath) (cases : List (Value × FlowPath)) : Outcome FlowPath := do
  let target ← selectCase value fallback cases
  let _ ← value.repr?
  return target

/-- Waits for a number of seconds, up to the longest wait that the settings allow. A value that is no
number is told, unless it cannot be written. -/
def wait (m : Machine) (value : Value) : Run Unit := do
  let seconds ← match toFloating (if value.truthy then value else .int 0) with
    | .ok x => pure x
    | .error .overflow => throw (.fault .overflow)
    | .error _ => throw (if value.unwritable then .fault .badValue else .invalidWait value)
  let seconds := if 0.0 > seconds then 0.0 else seconds
  match m.program.settings.maxWait with
  | some most =>
    if seconds > most then
      Run.log .warning ("Clamping wait of " ++ Number.floatText seconds ++ "s to " ++
        Number.floatText most ++ "s")
      Run.sleep most
    else Run.sleep seconds
  | none => Run.sleep seconds

def runStep (m : Machine) (path : FlowPath) (vars : Value) : Step → Run StepResult
  | .handler fn => do
    let _ ← callHandler m.app fn vars sessionValue path.toValue
    return .done
  | .message plan => m.sendMessage plan vars
  | .conditional at_ test yes no => do
    let passed ← m.holds at_ test vars
    return .jump (if passed then yes else no).toValue vars
  | .switch at_ value cases fallback => do
    let value ← Run.current (← (m.expander vars at_).expand value)
    return .jump (← Run.ofOutcome (chooseCase value fallback cases)).toValue vars
  | .iteration init loop => do
    match init with
    | none => return .jump loop.toValue vars
    | some (at_, values) => return .jump loop.toValue (← m.assign at_ values vars)
  | .start at_ target args tag => do
    let x := m.expander vars at_
    let value ← x.expand target
    let defaultArgs ← x.expandGiven args
    let (name, args) ← Run.ofExcept (StartParam.parse (← Run.current value) (← Run.current defaultArgs))
    Run.onSession (Session.start (.str name) (.ofText? tag) args)
    return .done
  | .finish at_ result => do
    let result ← (m.expander vars at_).expand result
    Run.onSession (Session.finish (← Run.current result))
    return .done
  | .set at_ values => do return .update (← m.setVariables at_ values vars)
  | .exec at_ target args => do
    let param := Value.record ([("exec", target)] ++ (if args.isNone then [] else [("args", args)]))
    let _ ← (m.expander vars at_).exec param
    return .done
  | .wait at_ seconds => do
    m.wait (← Run.current (← (m.expander vars at_).expand seconds))
    return .done
  | .signal s => pure (.signal s)
  | .jump target => pure (.jump target.toValue vars)

def runSteps (m : Machine) (key : String) (path : FlowPath) (targets : Targets) (vars : Value) :
    List Step → Run StepResult
  | [] => pure .done
  | step :: rest => do
    match ← m.runStep path vars step with
    | .done => m.runSteps key path targets vars rest
    | .update values => m.runSteps key path targets (← overlay vars values) rest
    | .jump target vars => return .jump target vars
    | .signal s =>
      match (match s with | .break => targets.breakTo | .continue => targets.continueTo) with
      | some target => return .jump target.toValue vars
      | none => throw (.escapedSequence s key)

def runHandler (m : Machine) (path vars : Value) : FlowHandler → Run StepResult
  | .sequence key own steps targets => m.runSteps key own targets vars steps
  | .loop _ at_ condition body exit => do
    let passed ← m.holds at_ condition vars
    return .jump (if passed then body else exit).toValue vars
  | .external fn => do
    match ← callValue m.app fn ⟨[vars, sessionValue, path], []⟩ with
    | .pending f positional named =>
      match ← runFunction m.app f ⟨positional, named⟩ with
      | .jump target vars => return .jump target vars
      | .signal s => return .signal s
      | _ => return .done
    | _ => throw (.fault .wrongType)

/-- The jump that a flow leads to; a signal may not leave its flow. -/
def landing (m : Machine) (path : Value) : StepResult → Run (Option (Value × Value))
  | .jump target vars => return some (target, vars)
  | .signal s => do throw (.escapedHandler s (← Run.ofExcept (m.program.key path)))
  | .done | .update _ => return none

/-- Runs the flow at a path and gives the path and variables of the flow that it jumps to. -/
def hop (m : Machine) (path vars : Value) : Run (Option (Value × Value)) := do
  let handler ← Run.ofExcept (m.program.find path)
  m.landing path (← m.runHandler path vars handler)

/-- Makes a jump and all those that it leads to, at most `fuel` of them; gives the jump that is still
to be made. -/
def follow (m : Machine) : Nat → Option (Value × Value) → Run (Option (Value × Value))
  | _, none => pure none
  | 0, some jump => pure (some jump)
  | fuel + 1, some (path, vars) => do m.follow fuel (← m.hop path vars)

/-- Runs the flow at a path, then every flow that it jumps to; at most `fuel` of them. -/
def invoke (m : Machine) (fuel : Nat) (path vars : Value) : Run Unit := do
  match ← m.follow fuel (some (path, vars)) with
  | some _ => throw (.fault .outOfFuel)
  | none => return ()

/-- Most flows that one event may run through. -/
def jumpBound : Nat := 10000000

def enter (value : Value) : Run Value := do
  Run.store (.dict .anonymous ((← get).session.handlerVars value))

def resume (m : Machine) (path value : Value) : Run Unit := do
  m.invoke jumpBound path (← enter value)

def handle (m : Machine) (handler : EventHandler) (value : Value) : Run Unit := do
  match handler with
  | .resume path => m.resume path value
  | .external fn =>
    match ← callValue m.app fn ⟨[sessionValue, value], []⟩ with
    | .pending f positional named =>
      let _ ← runFunction m.app f ⟨positional, named⟩
    | _ => throw (.fault .wrongType)
  | .note label =>
    let s := (← get).session
    Run.note (.record
      [("handler", .str label), ("value", value), ("session", s.id), ("dialog", s.dialog)])

end Machine

end Colloquy
