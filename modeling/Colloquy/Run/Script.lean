import Colloquy.Run.Accessor
import Colloquy.Value.Arithmetic

/-!
# Scripted functions

Functions of an application that are described by data, for rehearsals of a flow. A script sees the
parameters of its function by name.
-/

namespace Colloquy

inductive Script where
  /-- Gives a copy of a value. -/
  | constant (v : Value)
  | fail (e : Error)
  /-- Gives an argument, or `None`. -/
  | argument (name : String)
  /-- Gives what an argument holds under a key, or a default. -/
  | entry (name : String) (key : Value) (default : Value)
  /-- Gives the elements of an argument in order. -/
  | sorted (name : String)
  /-- Gives the names of the arguments. -/
  | names
  | length (name : String)
  /-- Gives the elements of the path. -/
  | path
  | sum (left right : String)
  | product (left right : String)
  /-- Runs a method of the session. -/
  | session (method : String) (args : List Value)
  | signal (s : Signal)
  | jump (target vars : Value)
  /-- Gives a mapping of names to results. -/
  | record (fields : List (String × Script))
  /-- Runs scripts in order and gives the result of the last one. -/
  | sequence (parts : List Script)

namespace Script

def need (bound : List (String × Value)) (name : String) : Run Value :=
  match bound.lookup name with
  | some v => Run.current v
  | none => throw (.fault .missingKey)

mutual

def perform (bound : List (String × Value)) : Script → Run Value
  | .constant v => Run.copy v
  | .fail e => throw e
  | .argument name => pure ((bound.lookup name).getD .none)
  | .entry name key default => do
    let v ← need bound name
    match v.memberNamed? "get" with
    | some _ => callMethod v "get" ⟨[key, default], []⟩
    | none => throw (.fault .missingMember)
  | .sorted name => do
    let items ← Run.ofOutcome (← need bound name).elements
    Run.store (.ofList (← Run.ofOutcome (Sort.sort (fun a b => a.order .lt b) items)))
  | .names => Run.store (.ofList (bound.map fun (name, _) => .str name))
  | .length name => do return .int (← Run.ofOutcome (← need bound name).length)
  | .path => do Run.store (.ofList (← Run.ofOutcome (← need bound "path").elements))
  | .sum left right => do
    let v ← need bound left
    let w ← need bound right
    Run.store (← Run.ofOutcome (v.add w))
  | .product left right => do
    let v ← need bound left
    let w ← need bound right
    Run.store (← Run.ofOutcome (v.mul w))
  | .session method args => do
    match ← need bound "session" with
    | .object "MemorySession" => Run.onSession (Session.perform method args)
    | _ => throw (.fault .missingMember)
  | .signal s => pure (.signal s)
  | .jump target vars => do return .jump (← Run.copy target) (← Run.copy vars)
  | .record fields => do Run.store (.record (← performFields bound fields))
  | .sequence parts => performAll bound .none parts
termination_by structural s => s

/-- Runs scripts in order; `last` is the result so far. -/
def performAll (bound : List (String × Value)) (last : Value) : List Script → Run Value
  | [] => pure last
  | s :: rest => do performAll bound (← perform bound s) rest
termination_by structural parts => parts

def performFields (bound : List (String × Value)) : List (String × Script) → Run (List (String × Value))
  | [] => pure []
  | (name, s) :: rest => do
    let v ← perform bound s
    return (name, v) :: (← performFields bound rest)
termination_by structural fields => fields

end

end Script

/-- A function with default values of its parameters and what it does. -/
structure ScriptedFunction where
  function : Function
  defaults : List (String × Value) := []
  script : Script

def Application.ofScripts (scripts : List ScriptedFunction) : Application where
  behave f bound :=
    match scripts.find? fun s => s.function.id == f.id with
    | none => throw (.fault .wrongType)
    | some s =>
      let bound := f.params.filterMap fun p =>
        ((bound.lookup p.name).or (s.defaults.lookup p.name)).map fun v => (p.name, v)
      s.script.perform bound

end Colloquy
