import Colloquy.Compile.Message
import Colloquy.Compile.Program
import Colloquy.Compile.Start
import Colloquy.Compile.Weight
import Colloquy.Flow.Accessor

/-!
# Compiling flows

A sequence of commands is compiled into the steps up to the first command that breaks the flow. The
commands after that one are compiled first, as the continuation that the breaking command is given
as the place to go on. Flows inside a command are compiled under the path of the command.
-/

namespace Colloquy

/-- What an entry of the increment of a loop sets: a number is added to the variable, another value assigned. -/
def incrementValue (name : String) (v : Value) : Except Error Value :=
  if v.isNumber then Accessor.ofVariable .anonymous (.str name) (.compute .add v) else .ok v

/-- What the increment of a loop sets. It cannot be told if a number in it is too long to be written. -/
def incrementValues? (increment : Fields) : Except Error Fields :=
  increment.mapM fun (name, v) => do return (name, ← incrementValue name v)

/-- What the increment of a loop sets, once it can be told. -/
def incrementValues (increment : Fields) : Fields :=
  increment.map fun (name, v) => (name, (incrementValue name v).toOption.getD v)

def addsTooLong (increment : Fields) : Bool := increment.any fun (_, v) => v.isNumber && v.unwritable

theorem incrementValue_eq (name : String) (v : Value) :
    incrementValue name v =
      if v.isNumber && v.unwritable then .error (.fault .badValue)
      else .ok (if v.isNumber then .accessor .anonymous (Accessor.members name ++ [.compute .add v]) else v) := by
  unfold incrementValue
  rw [Accessor.ofVariable_text, Access.unwritable]
  cases v.isNumber <;> cases v.unwritable <;> rfl

theorem incrementValues?_eq (increment : Fields) :
    incrementValues? increment =
      if addsTooLong increment then .error (.fault .badValue) else .ok (incrementValues increment) := by
  induction increment with
  | nil => rfl
  | cons entry rest ih =>
    obtain ⟨name, v⟩ := entry
    have hcons : incrementValues? ((name, v) :: rest) =
        (do return (name, ← incrementValue name v) :: (← incrementValues? rest)) := by
      simp only [incrementValues?, List.mapM_cons, bind_assoc, pure_bind]
    have htooLong : addsTooLong ((name, v) :: rest) = ((v.isNumber && v.unwritable) || addsTooLong rest) := rfl
    have hvalues : incrementValues ((name, v) :: rest) =
        (name, (incrementValue name v).toOption.getD v) :: incrementValues rest := rfl
    rw [hcons, ih, htooLong, hvalues, incrementValue_eq]
    cases v.isNumber && v.unwritable <;> cases addsTooLong rest <;> rfl

theorem incrementValues?_ok {increment : Fields} (h : addsTooLong increment = false) :
    incrementValues? increment = .ok (incrementValues increment) := by
  rw [incrementValues?_eq, h]
  rfl

def incrementFlow (increment : Fields) : Flow :=
  if increment.isEmpty then [] else [.command (.set "increment" (incrementValues increment))]

def Element.isTerminal (e : Element) : Bool :=
  match e.meaning with
  | .command c => c.isTerminal
  | _ => false

def loopTail (body : Flow) (increment : Fields) : Flow :=
  if body.getLast?.elim false Element.isTerminal then [] else incrementFlow increment

theorem flowWeight_incrementFlow_le (increment : Fields) : flowWeight (incrementFlow increment) ≤ 1 := by
  unfold incrementFlow
  split <;> simp [flowWeight, Element.weight, Command.weight]

theorem flowWeight_loopTail_le (body : Flow) (increment : Fields) :
    flowWeight (loopTail body increment) ≤ 1 := by
  unfold loopTail
  split
  · simp [flowWeight]
  · exact flowWeight_incrementFlow_le increment

/-- Refuses a flow with an element that stands for nothing. -/
def checkFlow (flow : Flow) : Compile Unit :=
  match flow.findSome? Element.fault? with
  | some e => throw e
  | none => pure ()

def Element.subFlow? (e : Element) : Option (String × Flow) :=
  match e.meaning with
  | .command (.flow id body) => some (id, body)
  | _ => none

theorem Element.flowWeight_lt_of_subFlow? {e : Element} {id : String} {body : Flow}
    (h : e.subFlow? = some (id, body)) : flowWeight body < e.weight := by
  have hle := e.weight_meaning_le
  unfold subFlow? at h
  split at h
  · rename_i heq
    cases h
    rw [heq] at hle
    simp only [weight, Command.weight] at hle
    omega
  · cases h

def Element.command? (e : Element) : Option Command :=
  match e.meaning with
  | .command c => some c
  | _ => none

theorem Element.weight_le_of_command? {e : Element} {c : Command} (h : e.command? = some c) :
    c.weight ≤ e.weight := by
  have hle := e.weight_meaning_le
  unfold command? at h
  split at h
  · rename_i heq
    cases h
    rw [heq] at hle
    simpa only [weight] using hle
  · cases h

/-- Targets of the cases of a switch, but for the place to go on. -/
def Targets.ofSwitch (targets : Targets) (exit : FlowPath) : Targets :=
  { breakTo := some exit, continueTo := targets.continueTo }

def Targets.ofLoop (loop exit again : FlowPath) : Targets :=
  { next := some loop, breakTo := some exit, continueTo := some again }

/-- Targets of the flow that an action runs: only a reply returns to the flow around it. -/
def Targets.ofAction (targets : Targets) (kind : ActionKind) : Targets :=
  if kind == .reply then targets else {}

def ActionInfo.buttonId (info : ActionInfo) : Option String := info.id.or info.text.text?

def ItemInfo.actionRoot (info : ItemInfo) (actions : Actions) (path : FlowPath) :
    Except Error FlowPath :=
  match actions, info.id with
  | .fixed _, some id => FlowPath.append path id
  | _, _ => .ok path

namespace Program

def resultName (p : Program) (target : Value) : String :=
  match StartParam.staticName target with
  | some s => if s.isEmpty then p.settings.wildcard else s
  | none => p.settings.wildcard

def awaiting (p : Program) (target : Value) (tag : String) (path : FlowPath) : Program :=
  { p with dialog :=
      p.dialog.onResult (.str (p.resultName target)) (.str tag) (.resume path.toValue) }

def offering (p : Program) (kind : ActionKind) (key : String) (path : FlowPath) : Program :=
  { p with dialog :=
      if kind == .reply then p.dialog.onPayload (.str key) (.resume path.toValue)
      else p.dialog.onPostback (.str key) (.resume path.toValue) }

end Program

def unreachableWarning (c : Command) (rest : Flow) (key : String) : String :=
  "Ignoring " ++ toString rest.length ++ " unreachable commands after '" ++ c.typeName ++ "' in " ++ key

mutual

/-- Compiles a flow and registers it at a path. `index` counts the continuations that were split off
the sequence before. -/
def compileFlow (flow : Flow) (path : FlowPath) (targets : Targets) (index : Nat) : Compile Unit := do
  checkFlow flow
  let key ← Compile.key path
  let steps ← compileElements flow path targets index
  Compile.register path (.sequence key path steps targets)
termination_by (flowWeight flow, 2)

def compileElements (flow : Flow) (path : FlowPath) (targets : Targets) (index : Nat) :
    Compile (List Step) :=
  match flow with
  | [] => pure (targets.next.elim [] fun target => [.jump target])
  | e :: rest =>
    match h : e.command? with
    | none => do return .handler e.meaning.toValue :: (← compileElements rest path targets index)
    | some c =>
      if c.breaksFlow then do
        let inner ← if rest.isEmpty then pure targets
          else if c.isTerminal then do
            Compile.warn (unreachableWarning c rest (← Compile.key path))
            pure targets
          else do
            let next ← compileContinuation rest path targets (index + 1)
            pure { targets with next := some next }
        return [← compileCommand c path inner]
      else do
        let step ← compileCommand c path targets
        return step :: (← compileElements rest path targets index)
termination_by (flowWeight flow, 1)
decreasing_by
  all_goals
    have hpos := e.weight_pos
    first
    | have hle := Element.weight_le_of_command? h
      simp only [flowWeight, Prod.lex_def]
      omega
    | simp only [flowWeight, Prod.lex_def]
      omega

/-- Compiles the rest of a sequence as a continuation and gives its path. An explicit flow names the
continuation, and its body leads it. -/
def compileContinuation (rest : Flow) (path : FlowPath) (targets : Targets) (index : Nat) :
    Compile FlowPath :=
  match rest with
  | [] => pure path
  | first :: tail =>
    match _h : first.subFlow? with
    | some (id, body) => do
      let continuation ← Compile.append path id
      compileFlow (body ++ tail) continuation targets index
      return continuation
    | none => do
      let continuation ← Compile.append path ("flow" ++ toString index)
      compileFlow (first :: tail) continuation targets index
      return continuation
termination_by (flowWeight rest, 3)
decreasing_by
  · have hlt := Element.flowWeight_lt_of_subFlow? _h
    simp only [flowWeight_append, flowWeight, Prod.lex_def]
    omega
  · exact Prod.Lex.right _ (by omega)

def compileCommand (c : Command) (path : FlowPath) (targets : Targets) : Compile Step :=
  match c with
  | .message kind id body actions items => do
    let messagePath ← Compile.append path id
    let actionPlan ← compileActions actions path targets
    let itemPlan ← match items with
      | .absent => pure .absent
      | .computed handler => pure (.computed handler)
      | .fixed list => do pure (.fixed (← compileItems list path targets))
    return .message {
      path := messagePath
      params := body.params kind
      actions := actionPlan
      items := itemPlan
      next := targets.next
      dynamic := isDynamic actions items }
  | .conditional id test yes no => do
    let root ← Compile.append path id
    let yesPath ← Compile.append root "then"
    let noPath ← Compile.append root "else"
    compileFlow yes yesPath targets 0
    compileFlow no noPath targets 0
    return .conditional root test yesPath noPath
  | .switch id value cases default => do
    let root ← Compile.append path id
    let exit ← Compile.append root "end"
    compileFlow [] exit targets 0
    let fallback ← match default with
      | none => pure exit
      | some body => do
        let defaultPath ← Compile.append root "default"
        compileFlow body defaultPath { targets.ofSwitch exit with next := some exit } 0
        pure defaultPath
    let (paths, _) ← compileCases cases root (targets.ofSwitch exit) fallback
    return .switch root value paths fallback
  | .iteration id init condition increment body => do
    let root ← Compile.append path id
    let loop ← Compile.append root "loop"
    let bodyPath ← Compile.append root "do"
    let continuePath ← Compile.append root "continue"
    let exit ← Compile.append root "end"
    let _ ← Compile.ofExcept (incrementValues? increment)
    checkFlow body
    compileFlow [] exit targets 0
    compileFlow (body ++ loopTail body increment) bodyPath (.ofLoop loop exit continuePath) 0
    compileFlow (incrementFlow increment) continuePath { next := some loop } 0
    Compile.register loop (.loop id loop condition bodyPath exit)
    if init.isEmpty then return .iteration none loop
    else return .iteration (some (← Compile.append root "init", init)) loop
  | .start id target args resume => do
    Compile.ofExcept (StartParam.check target)
    let startPath ← Compile.append path id
    if resume.isNone && targets.next.isNone then return .start startPath target args none
    else
      match resume with
      | none => compileFlow [] startPath targets 0
      | some body => compileFlow body startPath targets 0
      let tag ← Compile.key startPath
      modify fun p => p.awaiting target tag startPath
      return .start startPath target args (some tag)
  | .finish id result => do return .finish (← Compile.append path id) result
  | .set id values => do return .set (← Compile.append path id) values
  | .exec id target args => do return .exec (← Compile.append path id) target args
  | .wait id seconds => do return .wait (← Compile.append path id) seconds
  | .break _ => do
    if targets.breakTo.isNone then throw (.outsideLoop .break (← Compile.key path))
    else return .signal .break
  | .continue _ => do
    if targets.continueTo.isNone then throw (.outsideLoop .continue (← Compile.key path))
    else return .signal .continue
  | .flow id body => do
    let bodyPath ← Compile.append path id
    compileFlow body bodyPath targets 0
    return .jump bodyPath
termination_by (c.weight, 0)
decreasing_by
  all_goals
    simp only [Command.weight, Items.weight, optionWeight, flowWeight, flowWeight_append, Prod.lex_def]
    first
    | omega
    | have := flowWeight_loopTail_le body increment
      omega
    | have := flowWeight_incrementFlow_le increment
      omega

/-- Compiles the cases of a switch, the last one first: each falls through to the next. -/
def compileCases (cases : List Case) (root : FlowPath) (targets : Targets) (next : FlowPath) :
    Compile (List (Value × FlowPath) × FlowPath) :=
  match cases with
  | [] => pure ([], next)
  | .mk id value body :: rest => do
    let (later, next) ← compileCases rest root targets next
    let path ← Compile.append root id
    compileFlow body path { targets with next := some next } 0
    return (((Case.mk id value body).matchValue, path) :: later, path)
termination_by (casesWeight cases, 0)
decreasing_by
  all_goals
    simp only [casesWeight, Case.weight, Prod.lex_def]
    omega

def compileActions (actions : Actions) (path : FlowPath) (targets : Targets) : Compile ActionPlan :=
  match actions with
  | .absent => pure .absent
  | .computed handler => pure (.computed handler)
  | .fixed list => do return .fixed (← compileActionList list path targets)
termination_by (actions.weight, 2)
decreasing_by
  simp only [Actions.weight]
  exact Prod.Lex.right _ (by omega)

def compileActionList (actions : List Action) (path : FlowPath) (targets : Targets) :
    Compile (List Entries) :=
  match actions with
  | [] => pure []
  | a :: rest => do
    let params ← compileAction a path targets
    return params :: (← compileActionList rest path targets)
termination_by (actionsWeight actions, 1)
decreasing_by
  all_goals
    have : 0 < a.weight := by cases a; simp only [Action.weight]; omega
    simp only [actionsWeight, Prod.lex_def]
    omega

/-- Compiles an action: one that runs a flow carries the key of the flow. -/
def compileAction (a : Action) (path : FlowPath) (targets : Targets) : Compile Entries :=
  match a with
  | .mk info flow => do
    if !info.kind.carriesFlow then
      if flow.isSome || !info.thenFlow.isNone then
        throw (.actionWithoutFlow (.ofText? info.id) info.kind.name)
      else return info.params
    else if !info.thenFlow.isNone then
      return Entries.put info.params "payload" (.str (← Compile.refer info.thenFlow))
    else if info.kind == .postback && flow.isNone then return info.params
    else
      match info.buttonId with
      | none => throw (.actionWithoutId (Action.mk info flow).toValue)
      | some id => do
        let actionPath ← Compile.append path id
        match flow with
        | none => compileFlow [] actionPath (targets.ofAction info.kind) 0
        | some body => compileFlow body actionPath (targets.ofAction info.kind) 0
        let key ← Compile.key actionPath
        modify fun p => p.offering info.kind key actionPath
        return Entries.put info.params "payload" (.str key)
termination_by (a.weight, 0)
decreasing_by
  all_goals
    simp only [Action.weight, optionWeight, flowWeight, Prod.lex_def]
    omega

def compileItems (items : List Item) (path : FlowPath) (targets : Targets) :
    Compile (List (Entries × ActionPlan)) :=
  match items with
  | [] => pure []
  | .mk info actions :: rest => do
    let root ← Compile.ofExcept (info.actionRoot actions path)
    let plan ← compileActions actions root targets
    return (info.params, plan) :: (← compileItems rest path targets)
termination_by (itemsWeight items, 0)
decreasing_by
  all_goals
    simp only [itemsWeight, Item.weight, Prod.lex_def]
    omega

end

end Colloquy
