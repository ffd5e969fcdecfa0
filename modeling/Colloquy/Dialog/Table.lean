import Colloquy.Error
import Colloquy.Value.Equality

/-!
# Dialogs

A dialog reacts to the events of the frames that run it. Handlers are registered for each kind of
event: the start of a frame, an intent of the user, the result of a frame that the dialog started, a
postback or payload that the user picked, and whatever nothing else matches.
-/

namespace Colloquy

inductive EventHandler where
  /-- Resumes the flow at a path. -/
  | resume (path : Value)
  /-- A function of the application. -/
  | external (fn : Value)
  /-- Notes the event down under a label. -/
  | note (label : String)

/-- Handlers by key, in the order of their registration. -/
abbrev EventTable := List (Value × EventHandler)

/-- Whether a handler is there; a function may be left empty. -/
def EventHandler.isSet : EventHandler → Bool
  | .resume _ | .note _ => true
  | .external fn => fn.truthy

namespace EventTable

def get? (table : EventTable) (key : Value) : Option EventHandler :=
  (table.find? fun (k, _) => k.same key).map (·.2)

/-- Registers a handler; a known key keeps its place. -/
def put (table : EventTable) (key : Value) (handler : EventHandler) : EventTable :=
  match table with
  | [] => [(key, handler)]
  | (k, h) :: rest => if k.same key then (k, handler) :: rest else (k, h) :: put rest key handler

theorem get?_put_of_same {table : EventTable} {key : Value} {handler : EventHandler}
    (h : key.same key = true) : (put table key handler).get? key = some handler := by
  induction table with
  | nil => simp [put, get?, h]
  | cons entry rest ih =>
    obtain ⟨k, own⟩ := entry
    by_cases hk : k.same key
    · simp [put, get?, hk]
    · have hk : k.same key = false := by simpa using hk
      simpa [put, get?, hk] using ih

end EventTable

/-- A named set of event handlers. -/
structure Dialog where
  name : String
  /-- Name of the language model that classifies intents. -/
  modelName : Value := .none
  /-- Dialog name that stands for every dialog in result handlers. -/
  wildcard : Value := .str "*"
  start : Option EventHandler := none
  default : Option EventHandler := none
  intents : EventTable := []
  /-- Handlers of results by dialog and tag. -/
  results : EventTable := []
  postbacks : EventTable := []
  payloads : EventTable := []

namespace Dialog

def make (name modelName : Value) : Except Error Dialog :=
  match name.text? with
  | some s => if s.isEmpty then .error (.dialogName name) else .ok { name := s, modelName }
  | none => .error (.dialogName name)

def resultKey (dialog tag : Value) : Value := .tuple [dialog, tag]

def onResult (d : Dialog) (dialog tag : Value) (handler : EventHandler) : Dialog :=
  { d with results := d.results.put (resultKey dialog tag) handler }

def onPostback (d : Dialog) (key : Value) (handler : EventHandler) : Dialog :=
  { d with postbacks := d.postbacks.put key handler }

def onPayload (d : Dialog) (key : Value) (handler : EventHandler) : Dialog :=
  { d with payloads := d.payloads.put key handler }

def onIntent (d : Dialog) (intent : Value) (handler : EventHandler) : Dialog :=
  { d with intents := d.intents.put intent handler }

def resultHandler? (d : Dialog) (dialog tag : Value) : Option EventHandler :=
  let own := if dialog.isNone then none else d.results.get? (resultKey dialog tag)
  (own.filter EventHandler.isSet).or (d.results.get? (resultKey d.wildcard tag))

def repr (d : Dialog) : String := "<Dialog " ++ d.name ++ ">"

def summary (d : Dialog) : Value :=
  let intents := d.intents.map fun (k, _) => Value.record [("intent", k)]
  let results := d.results.map fun (k, _) =>
    Value.record [("result", .ofList ((k.sequence?.getD [])))]
  .record [("name", .str d.name), ("nlp_model_name", d.modelName), ("patterns", .ofList (intents ++ results))]

end Dialog

end Colloquy
