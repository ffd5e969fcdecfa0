import Colloquy.Run.Call
import Colloquy.Value.Sort

/-!
# Evaluating accessors

An accessor follows its steps from the variables. Arguments that are accessors themselves are
resolved against the same variables. What is missing gives `None`: an order comparison with it is
false, and arithmetic with it gives `None` again.
-/

namespace Colloquy

/-- Outcome of a comparison: values that have no order compare as false. -/
def Comparison.apply (op : Comparison) (v w : Value) : Outcome Value :=
  let ordered (test : OrderTest) : Outcome Value :=
    if v.isNone || w.isNone then .ok (.bool false)
    else
      match v.order test w with
      | .ok b => .ok (.bool b)
      | .error .wrongType => .ok (.bool false)
      | .error f => .error f
  match op with
  | .gt => ordered .gt
  | .gte => ordered .ge
  | .lt => ordered .lt
  | .lte => ordered .le
  | .equals => .ok (.bool (v.eq w))
  | .notEquals => .ok (.bool (v.neq w))

def Predicate.apply (p : Predicate) (v : Value) : Bool :=
  match p with
  | .truthy => v.truthy
  | .falsy => !v.truthy
  | .absent => v.isNone
  | .text => v.text?.isSome
  | .sequence => v.sequence?.isSome
  | .mapping => v.mapping?.isSome
  | .number => v.isNumber

def Operation.apply (op : Operation) (v w : Value) : Outcome Value :=
  if v.isNone || w.isNone then .ok .none
  else
    match op with
    | .add => v.add w
    | .sub => v.sub w
    | .mul => v.mul w
    | .div => v.div w
    | .pow => v.pow w

mutual

def followSteps (app : Application) (vars : Value) (v : Value) : List Access → Run Value
  | [] => Run.current v
  | s :: ss => do followSteps app vars (← followStep app vars v s) ss
termination_by structural steps => steps

def followStep (app : Application) (vars : Value) (v : Value) : Access → Run Value
  | .member name => do Run.ofOutcome ((← Run.current v).lookup name)
  | .item index => do Run.ofOutcome ((← Run.current v).lookup index)
  | .apply fn args => do
    let args ← resolveAll app vars args
    applyTo app fn (← Run.current v) args
  | .call name args => do
    match name.text? with
    | Option.none => throw (.fault .wrongType)
    | some name =>
      let v ← Run.current v
      if v.isNone then return .none
      match v.memberNamed? name with
      | some (.method ..) => do
        let args ← resolveAll app vars args
        callMethod (← Run.current v) name ⟨args, []⟩
      | some (.function f) => do callFunction app f ⟨← resolveAll app vars args, []⟩
      | some (.builtin b) => do Run.ofOutcome (b.apply ⟨← resolveAll app vars args, []⟩)
      | _ => return .none
  | .compare op other => do
    let w ← resolve app vars other
    Run.ofOutcome (op.apply (← Run.current v) w)
  | .test p => do return .bool (p.apply (← Run.current v))
  | .compute op other => do
    let w ← resolve app vars other
    Run.ofOutcome (op.apply (← Run.current v) w)
termination_by structural step => step

/-- Resolves an argument: an accessor gives its value. -/
def resolve (app : Application) (vars : Value) : Value → Run Value
  | .accessor _ steps => followSteps app vars vars steps
  | v => Run.current v
termination_by structural v => v

/-- Resolves arguments from the first to the last. -/
def resolveAll (app : Application) (vars : Value) : List Value → Run (List Value)
  | [] => pure []
  | v :: vs => do
    let w ← resolve app vars v
    return w :: (← resolveAll app vars vs)
termination_by structural vs => vs

/-- Applies a function to a value and further arguments; an accessor is evaluated on the value. -/
def applyTo (app : Application) (fn : Value) (v : Value) (args : List Value) : Run Value :=
  match fn with
  | .accessor _ steps => followSteps app v v steps
  | .function f => callFunction app f ⟨v :: args, []⟩
  | .builtin b => Run.ofOutcome (b.apply ⟨v :: args, []⟩)
  | .method receiver name => do callMethod (← Run.current receiver) name ⟨v :: args, []⟩
  | _ => throw (.fault .wrongType)
termination_by structural fn

end

def evalAccessor (app : Application) (steps : List Access) (vars : Value) : Run Value :=
  followSteps app vars vars steps

def callValue (app : Application) (fn : Value) (args : Arguments) : Run Value :=
  match fn with
  | .accessor _ steps =>
    match args.positional, args.named with
    | vars :: _, [] => evalAccessor app steps vars
    | _, _ => throw (.fault .wrongType)
  | .function f => callFunction app f args
  | .builtin b => Run.ofOutcome (b.apply args)
  | .method receiver name => do callMethod (← Run.current receiver) name args
  | .undefined _ => throw (.fault .undefinedOperand)
  | _ => throw (.fault .wrongType)

/-- How many positional arguments a value handler takes; none means any number. -/
def positionalArity (fn : Value) : Option Nat :=
  match fn with
  | .accessor .. => none
  | .function f => if f.takesRest then none else some f.positionals.length
  | _ => some 1

/-- Calls a value handler with as many of the variables, the session and the path as it takes, and
waits for its result. -/
def callHandler (app : Application) (fn vars session path : Value) : Run Value := do
  let args := [vars, session, path]
  let args := match positionalArity fn with
    | none => args
    | some n => args.take n
  awaited app (← callValue app fn ⟨args, []⟩)

/-- Arguments for a named handler: none for a function without parameters, the variables as a whole
for a function that takes one thing, else the variables named like its parameters. -/
def handlerArguments (fn : Value) (vars : Entries) : Arguments :=
  let whole : Arguments := ⟨[.dict .anonymous vars], []⟩
  match fn with
  | .function f =>
    match f.params with
    | [] => ⟨[], []⟩
    | [_] => whole
    | first :: _ =>
      if first.name == "vars" || f.takesRest then whole
      else ⟨[], vars.filterMap fun (k, v) =>
        match k with
        | .str s => if f.params.any (·.name == s) then some (s, v) else none
        | _ => none⟩
  | _ => whole

/-- Named handlers of an application, in the order of their registration. -/
abbrev Handlers := Entries

def findHandler (handlers : Handlers) (name : Value) : Except Error Value :=
  if !name.hashable then .error (.fault .wrongType)
  else match Entries.get? handlers name with
    | some fn => .ok fn
    | none => .error (.undefinedHandler name.toText)

def registerHandler (handlers : Handlers) (name fn : Value) : Except Error Handlers :=
  if name.truthy then
    if name.hashable then .ok (Entries.insert handlers name fn) else .error (.fault .wrongType)
  else
    match fn.memberNamed? "__name__" with
    | some own => .ok (Entries.insert handlers own fn)
    | none => .error (.fault .missingMember)

def handlerNames (handlers : Handlers) : Outcome (List Value) :=
  Sort.sort (fun a b => a.order .lt b) (handlers.map (·.1))

/-- Runs a named handler with variables and waits for its result. -/
def executeHandler (app : Application) (handlers : Handlers) (name : Value) (vars : Entries) :
    Run Value := do
  let fn ← Run.ofExcept (findHandler handlers name)
  if !fn.isCallable then throw (.fault .wrongType)
  awaited app (← callValue app fn (handlerArguments fn vars))

end Colloquy
