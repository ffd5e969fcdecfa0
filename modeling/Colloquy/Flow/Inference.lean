import Colloquy.Flow.Command
import Colloquy.Value.Equality

/-!
# Telling commands and actions apart

Authors may leave out the type of a command or an action; the keys of the mapping then tell it. A
media address wins over a text, so that an image with a caption is an image, and `finish` counts
whenever it is present, since a result may be anything.
-/

namespace Colloquy

/-- Keys that tell the type of a command, in the order in which they are tried. -/
def inferenceKeys : List (List String × String) :=
  [(["finish"], "finish"), (["start"], "start"), (["wait"], "wait"), (["set"], "set"),
    (["if", "when", "unless"], "conditional"), (["switch"], "switch"), (["exec"], "exec"),
    (["for", "while", "until"], "iteration"), (["break"], "break"), (["continue"], "continue"),
    (["flow"], "flow")]

def inferCommandType (entries : Entries) : Option String :=
  if !(Entries.named entries "mediaUrl").isNone || !(Entries.named entries "media_url").isNone then
    some "image"
  else if !(Entries.named entries "text").isNone then some "text"
  else (inferenceKeys.find? fun (keys, _) => keys.any (Entries.hasName entries)).map (·.2)

/-- Type of an action told by its keys; an action with a flow has the default type. -/
def inferActionType (entries : Entries) (default : Value) : Value :=
  if !(Entries.named entries "uri").isNone then .str "link"
  else if !(Entries.named entries "amount").isNone then .str "buy"
  else if !(Entries.named entries "then").isNone || !(Entries.named entries "thenFlow").isNone then
    default
  else .none

def isMessageType (v : Value) : Bool :=
  v.occursIn (["text", "image", "list", "carousel"].map Value.str)

def isCommandType (v : Value) : Bool :=
  match v.text? with
  | some s => Command.typeNames.contains s
  | none => false

def isActionType (v : Value) : Bool :=
  match v.text? with
  | some s => (ActionKind.ofName? s).isSome
  | none => false

def commandType (entries : Entries) : Value :=
  let given := Entries.named entries "type"
  if given.truthy then given else .ofText? (inferCommandType entries)

def actionType (entries : Entries) (default : Value) : Value :=
  let given := Entries.named entries "type"
  if given.truthy then given else inferActionType entries default

def isFlowCommand (v : Value) : Bool :=
  match v with
  | .str _ | .markup _ => true
  | .model kind _ _ => kind.isCommand
  | .dict _ entries => isCommandType (commandType entries)
  | v => v.isCallable

def isFlow (v : Value) : Bool :=
  match v with
  | .list .. | .tuple _ => true
  | v => isFlowCommand v

def isAction (v default : Value) : Bool :=
  match v with
  | .model .action _ _ => true
  | .dict _ entries => isActionType (actionType entries default)
  | _ => false

/-- Type of a command of any value: it has to be a mapping. The reading access of an accessor always
gives something, so an accessor passes for an image. -/
def inferCommandTypeOf (v : Value) : Except Error Value :=
  match v with
  | .dict _ entries => .ok (.ofText? (inferCommandType entries))
  | .accessor .. => .ok (.str "image")
  | _ => .error (.fault .missingMember)

def inferActionTypeOf (v default : Value) : Except Error Value :=
  match v with
  | .dict _ entries => .ok (inferActionType entries default)
  | .accessor .. => .ok (.str "link")
  | _ => .error (.fault .missingMember)

end Colloquy
