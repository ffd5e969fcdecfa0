import Colloquy.Dialog.Table
import Colloquy.Flow.Command
import Colloquy.Flow.Path
import Colloquy.Flow.Suggestion
import Colloquy.Settings

/-!
# Compiled flows

A flow is compiled into sequences of steps, each registered under a flow key. A command that breaks
the flow (it branches, waits for the user or starts a dialog) ends its sequence, and the commands
after it become a sequence of their own, its continuation. Everything that has to be resumed later
is found by its key, so a compiled flow is plain data.
-/

namespace Colloquy

/-- Where a sequence goes on: at its end, after `break` and after `continue`. -/
structure Targets where
  next : Option FlowPath := none
  breakTo : Option FlowPath := none
  continueTo : Option FlowPath := none

/-- Actions of a message as they are sent: none, a fixed list, or computed by a handler. -/
inductive ActionPlan where
  | absent
  | fixed (actions : List Entries)
  | computed (handler : Value)

/-- Items of a message as they are sent: none, a fixed list, or computed by a handler. -/
inductive ItemPlan where
  | absent
  | fixed (items : List (Entries × ActionPlan))
  | computed (handler : Value)

structure MessagePlan where
  path : FlowPath
  params : Entries
  actions : ActionPlan
  items : ItemPlan
  /-- Where computed replies lead, and where a message that computes no reply goes on. -/
  next : Option FlowPath
  /-- Whether actions or items are computed. -/
  dynamic : Bool

inductive Step where
  /-- Calls a handler for its effect. -/
  | handler (fn : Value)
  | message (plan : MessagePlan)
  | conditional (path : FlowPath) (test : Value) (yes no : FlowPath)
  | switch (path : FlowPath) (value : Value) (cases : List (Value × FlowPath)) (fallback : FlowPath)
  /-- Sets the variables of a loop and enters it. -/
  | iteration (init : Option (FlowPath × Fields)) (loop : FlowPath)
  | start (path : FlowPath) (target args : Value) (tag : Option String)
  | finish (path : FlowPath) (result : Value)
  | set (path : FlowPath) (values : Fields)
  | exec (path : FlowPath) (target args : Value)
  | wait (path : FlowPath) (seconds : Value)
  | signal (s : Signal)
  | jump (target : FlowPath)

inductive FlowHandler where
  /-- Steps in order. -/
  | sequence (key : String) (path : FlowPath) (steps : List Step) (targets : Targets)
  /-- Tests the condition of a loop and enters its body or leaves it. -/
  | loop (id : String) (path : FlowPath) (condition : Value) (body exit : FlowPath)
  /-- A function of the application. -/
  | external (fn : Value)

/-- All that compiling makes of a dialog. -/
structure Program where
  dialog : Dialog
  settings : Settings := {}
  /-- Flow handlers by key, in the order of their registration. -/
  flows : List (String × FlowHandler) := []
  /-- Keys that actions refer to. -/
  references : List String := []
  /-- Warnings about what was compiled. -/
  warnings : List String := []

namespace Program

def key (p : Program) (path : Value) : Except Error String := FlowKey.ofValue p.dialog.name path

def pathKey (p : Program) (path : FlowPath) : Except Error String := FlowKey.ofPath p.dialog.name path

def keys (p : Program) : List String := p.flows.map (·.1)

def suggest (p : Program) (key : String) : Option String := Suggestion.closest key p.keys

def find (p : Program) (path : Value) : Except Error FlowHandler := do
  let key ← p.key path
  match p.flows.lookup key with
  | some h => return h
  | none => .error (.undefinedFlow key (p.suggest key))

def contains (p : Program) (path : Value) : Bool :=
  match p.key path with
  | .ok key => p.flows.any (·.1 == key)
  | .error _ => false

def add (p : Program) (key : String) (h : FlowHandler) : Except Error Program :=
  if p.flows.any (·.1 == key) then .error (.duplicateKey key)
  else .ok { p with flows := p.flows ++ [(key, h)] }

def warned (p : Program) (message : String) : Program := { p with warnings := p.warnings ++ [message] }

def referring (p : Program) (key : String) : Program := { p with references := p.references ++ [key] }

end Program

/-- A change of a program that may fail; what was registered before the failure stays. -/
abbrev Compile := EStateM Error Program

namespace Compile

/-- Gives a pure result or fails. -/
def ofExcept {α : Type} : Except Error α → Compile α
  | .ok a => pure a
  | .error e => throw e

def append (path : FlowPath) (id : String) : Compile FlowPath := ofExcept (FlowPath.append path id)

def key (path : FlowPath) : Compile String := do ofExcept ((← get).pathKey path)

def register (path : FlowPath) (h : FlowHandler) : Compile Unit := do
  let key ← key path
  set (← ofExcept ((← get).add key h))

/-- Records a reference to a flow and gives its key. -/
def refer (target : Value) : Compile String := do
  let p ← get
  let key ← ofExcept (p.key target)
  set (p.referring key)
  return key

def warn (message : String) : Compile Unit := modify (·.warned message)

def checkReferences : Compile Unit := do
  let p ← get
  match p.references.find? fun key => !p.contains (.str key) with
  | some key => throw (.undefinedFlow key (p.suggest key))
  | none => pure ()

end Compile

end Colloquy
