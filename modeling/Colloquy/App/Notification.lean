import Colloquy.Flow.Record

/-!
# Notifications

A notification tells one event of one session: which frame it concerns, the variables of the session
and the data of the event. Notifications are read from mappings; unknown entries are ignored, but
for those of the event data, which are kept.
-/

namespace Colloquy

structure DialogFrame where
  id : Option String := none
  dialog : Option String := none
  tag : Option String := none
  locals : Fields := []
  result : Value := .none

structure SessionSnapshot where
  id : String
  globals : Fields := []
  volatiles : Fields := []
  /-- The current frame comes first. -/
  stack : List DialogFrame := []
  completed : Option DialogFrame := none

/-- What a user said or picked. -/
structure MessageData where
  text : Option String := none
  intent : Option String := none
  entities : Fields := []
  payload : Option String := none
  postback : Option String := none
  args : Value := .none
  extras : Fields := []

structure Notification where
  event : String
  session : SessionSnapshot
  data : MessageData := {}

namespace DialogFrame

def read (v : Value) : Except (List FieldFault) DialogFrame :=
  match v with
  | .dict _ entries =>
    let optional (name : String) : List FieldFault × Option String :=
      Record.field entries [name] (.ok none) (Record.simple Record.optionalText) none
    let (idFaults, id) := optional "id"
    let (dialogFaults, dialog) := optional "dialog"
    let (tagFaults, tag) := optional "tag"
    let (localFaults, locals) := Record.field entries ["locals"] (.ok []) Record.mapping []
    let faults := idFaults ++ dialogFaults ++ tagFaults ++ localFaults
    if faults.isEmpty then .ok { id, dialog, tag, locals, result := Entries.named entries "result" }
    else .error faults
  | _ => .error [⟨[], .notRecord⟩]

/-- Reads frames; places are counted from `i`. -/
def readAll (i : Nat) : List Value → List FieldFault × List DialogFrame
  | [] => ([], [])
  | v :: vs =>
    let (faults, frames) := readAll (i + 1) vs
    match read v with
    | .ok frame => (faults, frame :: frames)
    | .error own => (FieldFault.under (.int i) own ++ faults, frames)

def readStack (v : Value) : Except (List FieldFault) (List DialogFrame) :=
  match Record.list v with
  | .error defect => .error [⟨[], defect⟩]
  | .ok items =>
    match readAll 0 items with
    | ([], frames) => .ok frames
    | (faults, _) => .error faults

/-- Reads the completed frame; of a list of frames the first one counts. -/
def readCompleted (v : Value) : Except (List FieldFault) (Option DialogFrame) :=
  match v with
  | .none | .list _ [] | .list _ (.none :: _) => .ok none
  | .list _ (first :: _) => (read first).map some
  | v => (read v).map some

def toValue (f : DialogFrame) : Value :=
  .model .frame
    [("id", .ofText? f.id), ("dialog", .ofText? f.dialog), ("tag", .ofText? f.tag),
      ("locals", .record f.locals), ("result", f.result)] []

end DialogFrame

namespace SessionSnapshot

def read (v : Value) : Except (List FieldFault) SessionSnapshot :=
  match v with
  | .dict _ entries =>
    let (idFaults, id) :=
      Record.field entries ["id"] (.error .missing) (Record.simple Record.nonEmptyText) ""
    let (globalFaults, globals) := Record.field entries ["globals"] (.ok []) Record.mapping []
    let (volatileFaults, volatiles) := Record.field entries ["volatiles"] (.ok []) Record.mapping []
    let (stackFaults, stack) := Record.field entries ["stack"] (.ok []) DialogFrame.readStack []
    let (completedFaults, completed) :=
      Record.field entries ["completedFrame", "completed_frame"] (.ok none) DialogFrame.readCompleted none
    let faults := idFaults ++ globalFaults ++ volatileFaults ++ stackFaults ++ completedFaults
    if faults.isEmpty then .ok { id, globals, volatiles, stack, completed } else .error faults
  | _ => .error [⟨[], .notRecord⟩]

/-- The frame that is running; an empty one if there is none. -/
def currentFrame (s : SessionSnapshot) : DialogFrame := s.stack.headD {}

def toValue (s : SessionSnapshot) : Value :=
  .model .sessionSnapshot
    [("id", .str s.id), ("globals", .record s.globals), ("volatiles", .record s.volatiles),
      ("stack", .ofList (s.stack.map DialogFrame.toValue)),
      ("completed_frame", .ofOption (s.completed.map DialogFrame.toValue))] []

end SessionSnapshot

namespace MessageData

def fields : List (List String) :=
  [["text"], ["intent"], ["entities"], ["payload"], ["postback"], ["args"]]

def read (v : Value) : Except (List FieldFault) MessageData :=
  match v with
  | .dict _ entries =>
    let optional (name : String) : List FieldFault × Option String :=
      Record.field entries [name] (.ok none) (Record.simple Record.optionalText) none
    let (textFaults, text) := optional "text"
    let (intentFaults, intent) := optional "intent"
    let (entityFaults, entities) := Record.field entries ["entities"] (.ok []) Record.mapping []
    let (payloadFaults, payload) := optional "payload"
    let (postbackFaults, postback) := optional "postback"
    let (extraFaults, extras) := Record.extras entries fields
    let faults :=
      textFaults ++ intentFaults ++ entityFaults ++ payloadFaults ++ postbackFaults ++ extraFaults
    if faults.isEmpty then
      .ok { text, intent, entities, payload, postback, args := Entries.named entries "args", extras }
    else .error faults
  | _ => .error [⟨[], .notRecord⟩]

def toValue (d : MessageData) : Value :=
  .model .messageData
    [("text", .ofText? d.text), ("intent", .ofText? d.intent), ("entities", .record d.entities),
      ("payload", .ofText? d.payload), ("postback", .ofText? d.postback), ("args", d.args)] d.extras

end MessageData

namespace Notification

def read (v : Value) : Except (List FieldFault) Notification :=
  match v with
  | .dict _ entries =>
    let (eventFaults, event) :=
      Record.field entries ["event"] (.error .missing) (Record.simple Record.text) ""
    let (sessionFaults, session) :=
      Record.field entries ["session"] (.error .missing) SessionSnapshot.read { id := "" }
    let (dataFaults, data) := Record.field entries ["data"] (.ok {}) MessageData.read {}
    let faults := eventFaults ++ sessionFaults ++ dataFaults
    if faults.isEmpty then .ok { event, session, data } else .error faults
  | _ => .error [⟨[], .notRecord⟩]

def toValue (n : Notification) : Value :=
  .model .notification
    [("event", .str n.event), ("session", n.session.toValue), ("data", n.data.toValue)] []

def concernsFrame (n : Notification) : Bool := n.event.startsWith "frame_"

end Notification

end Colloquy
