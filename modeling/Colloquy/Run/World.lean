import Colloquy.Session
import Colloquy.Value.Heap

/-!
# Running

A run changes a world: the session, the shared objects, and what an observer can see of it (calls of
handlers, waits, log records). A failed run keeps what it did before it failed.
-/

namespace Colloquy

/-- A call of a handler function: how many positional arguments it got, and which named ones. -/
structure Call where
  name : String
  positional : Nat
  named : List String
deriving Repr, DecidableEq

inductive Severity where
  | debug | info | warning | error | critical
deriving Repr, DecidableEq

def Severity.name : Severity → String
  | .debug => "DEBUG"
  | .info => "INFO"
  | .warning => "WARNING"
  | .error => "ERROR"
  | .critical => "CRITICAL"

/-- A log record worth an author's attention. -/
structure LogRecord where
  severity : Severity
  message : String

/-- Everything that a run can read and change. -/
structure World where
  session : Session
  heap : Heap := {}
  /-- Texts of the templates that are kept compiled, the least recently used one first. -/
  templates : List String := []
  /-- How many templates are kept at most. -/
  templateLimit : Int := 256
  calls : List Call := []
  slept : List Float := []
  logs : List LogRecord := []
  /-- What functions of the application have noted down. -/
  notes : List Value := []

def sessionValue : Value := .object "MemorySession"

abbrev Run := EStateM Error World

namespace Run

/-- Gives a pure result or fails. -/
def ofExcept {α : Type} : Except Error α → Run α
  | .ok a => pure a
  | .error e => throw e

/-- Gives the result of an operation on values or fails. -/
def ofOutcome {α : Type} : Outcome α → Run α
  | .ok a => pure a
  | .error f => throw (.fault f)

def onSession {α : Type} (effect : Effect α) : Run α := fun w =>
  match effect w.session with
  | .ok a s => .ok a { w with session := s }
  | .error e s => .error e { w with session := s }

def current (v : Value) : Run Value := do
  return (← get).heap.current v

/-- Gives identities to the new objects of a value, so that they can be shared. -/
def store (v : Value) : Run Value := do
  let w ← get
  let (v, heap) := w.heap.store v
  set { w with heap }
  return v

def copy (v : Value) : Run Value := do
  let w ← get
  let (v, heap) := w.heap.copy v
  set { w with heap }
  return v

/-- Records the new content of a list or dictionary. -/
def write (v : Value) : Run Unit := do
  match v with
  | .list (.object n) _ | .dict (.object n) _ =>
    modify fun w =>
      let (v, heap) := w.heap.storeContent v
      { w with heap := heap.write n v }
  | _ => pure ()

def logCall (call : Call) : Run Unit := modify fun w => { w with calls := w.calls ++ [call] }

def log (severity : Severity) (message : String) : Run Unit :=
  modify fun w => { w with logs := w.logs ++ [⟨severity, message⟩] }

def note (v : Value) : Run Unit := modify fun w => { w with notes := w.notes ++ [v] }

def sleep (seconds : Float) : Run Unit := modify fun w =>
  { w with slept := w.slept ++ [seconds], session := w.session.record (.waited seconds) }

end Run

end Colloquy
