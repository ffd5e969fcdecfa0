import Colloquy.Run.World
import Colloquy.Value.Member

/-!
# Calling functions

How the arguments of a call are bound to the parameters of a function, and how handlers are called:
a value handler gets as many of the variables, the session and the path as it takes, and a named
handler gets the variables as a whole or by the names of its parameters.
-/

namespace Colloquy

/-- What the functions of an application do, given the values bound to their parameters. -/
structure Application where
  behave : Function → List (String × Value) → Run Value

namespace Function

def positionals (f : Function) : List Parameter := f.params.filter (·.kind == .positional)

def takesRest (f : Function) : Bool := f.params.any (·.kind == .rest)

def takesOthers (f : Function) : Bool := f.params.any (·.kind == .otherNamed)

/-- Value bound to one parameter: none if its default counts. -/
def bindOne (f : Function) (args : Arguments) (p : Parameter) : Outcome (Option Value) :=
  match p.kind with
  | .rest => .ok (some (.tuple (args.positional.drop f.positionals.length)))
  | .otherNamed =>
    let taken (name : String) : Bool :=
      f.params.any fun q => q.name == name && (q.kind == .positional || q.kind == .named)
    .ok (some (.record (args.named.filter fun (k, _) => !taken k)))
  | .named =>
    match args.named.lookup p.name with
    | some v => .ok (some v)
    | none => if p.hasDefault then .ok none else .error .wrongType
  | .positional =>
    let place := f.positionals.findIdx (·.name == p.name)
    match args.positional[place]?, args.named.lookup p.name with
    | some _, some _ => .error .wrongType
    | some v, none => .ok (some v)
    | none, some v => .ok (some v)
    | none, none => if p.hasDefault then .ok none else .error .wrongType

/-- Whether a named argument has a parameter to go to. -/
def accepts (f : Function) (name : String) : Bool :=
  f.takesOthers || f.params.any fun p => p.name == name && (p.kind == .positional || p.kind == .named)

def bind (f : Function) (args : Arguments) : Outcome (List (String × Value)) := do
  if f.positionals.length < args.positional.length && !f.takesRest then .error .wrongType
  if !args.named.all (fun (k, _) => f.accepts k) then .error .wrongType
  let bound ← f.params.mapM fun p => do return (p.name, ← f.bindOne args p)
  return bound.filterMap fun (name, v) => v.map fun v => (name, v)

end Function

def sortedNames (names : List String) : List String :=
  names.mergeSort fun a b => !(decide (b < a))

def runFunction (app : Application) (f : Function) (args : Arguments) : Run Value := do
  Run.logCall ⟨f.name, args.positional.length, sortedNames (args.named.map (·.1))⟩
  let bound ← Run.ofOutcome (f.bind args)
  app.behave f bound

def callFunction (app : Application) (f : Function) (args : Arguments) : Run Value :=
  if f.suspends then pure (.pending f args.positional args.named) else runFunction app f args

/-- Waits for a call that is still to be run; any other value is there already. -/
def awaited (app : Application) (v : Value) : Run Value :=
  match v with
  | .pending f positional named => runFunction app f ⟨positional, named⟩
  | v => pure v

def callMethod (v : Value) (name : String) (args : Arguments) : Run Value := do
  let (result, changed) ← Run.ofOutcome (v.callMethod Value.memberNamed name args)
  match changed with
  | some receiver => do
    Run.write receiver
    return result
  | none => return result

end Colloquy
