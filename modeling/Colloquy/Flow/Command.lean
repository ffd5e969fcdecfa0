import Colloquy.Error

/-!
# Commands

The canonical form of a flow: a list of elements, each a command or a handler. Every shorthand that
an author may write has one canonical command. Parameters that are evaluated when the flow runs
(texts, conditions, values to set) stay values; nested flows are lists of elements.

Records that were validated without being normalized may hold raw elements; such an element carries
what it stands for, or why it stands for nothing.
-/

namespace Colloquy

inductive MessageKind where
  | text | image | list | carousel
deriving Repr, DecidableEq

inductive ActionKind where
  | reply | postback | link | share | buy | locationRequest
deriving Repr, DecidableEq

def MessageKind.name : MessageKind → String
  | .text => "text"
  | .image => "image"
  | .list => "list"
  | .carousel => "carousel"

def MessageKind.ofName? : String → Option MessageKind
  | "text" => some .text
  | "image" => some .image
  | "list" => some .list
  | "carousel" => some .carousel
  | _ => none

def MessageKind.model : MessageKind → ModelKind
  | .text => .textMessage
  | .image => .imageMessage
  | .list => .listMessage
  | .carousel => .carouselMessage

def ActionKind.name : ActionKind → String
  | .reply => "reply"
  | .postback => "postback"
  | .link => "link"
  | .share => "share"
  | .buy => "buy"
  | .locationRequest => "locationRequest"

def ActionKind.ofName? : String → Option ActionKind
  | "reply" => some .reply
  | "postback" => some .postback
  | "link" => some .link
  | "share" => some .share
  | "buy" => some .buy
  | "locationRequest" => some .locationRequest
  | _ => none

/-- Names with values, in the order in which they were written. -/
abbrev Fields := List (String × Value)

/-- What a message shows besides actions and items. -/
structure MessageBody where
  text : Value := .none
  mediaUrl : Value := .none
  mediaType : Value := .none
  extras : Fields := []

structure ActionInfo where
  id : Option String := none
  kind : ActionKind
  text : Value := .none
  uri : Value := .none
  payload : Value := .none
  amount : Value := .none
  currency : Value := .none
  thenFlow : Value := .none
  extras : Fields := []

structure ItemInfo where
  id : Option String := none
  title : Value := .none
  description : Value := .none
  mediaUrl : Value := .none
  mediaType : Value := .none
  extras : Fields := []

mutual

inductive Element where
  | command (c : Command)
  | handler (h : Value)
  /-- A raw element and the canonical one it stands for. -/
  | deferred (source : Value) (meaning : Element)
  /-- A raw element that stands for nothing, and why. -/
  | invalid (source : Value) (cause : Error)

inductive Command where
  | message (kind : MessageKind) (id : String) (body : MessageBody) (actions : Actions) (items : Items)
  | conditional (id : String) (test : Value) (yes no : List Element)
  | switch (id : String) (value : Value) (cases : List Case) (default : Option (List Element))
  | iteration (id : String) (init : Fields) (condition : Value) (increment : Fields) (body : List Element)
  | start (id : String) (target args : Value) (resume : Option (List Element))
  | finish (id : String) (result : Value)
  | set (id : String) (values : Fields)
  | exec (id : String) (target args : Value)
  | wait (id : String) (seconds : Value)
  | break (id : String)
  | continue (id : String)
  | flow (id : String) (body : List Element)

/-- Actions of a message or an item: none, a fixed list, or computed by a handler. -/
inductive Actions where
  | absent
  | fixed (actions : List Action)
  | computed (handler : Value)

/-- Items of a message: none, a fixed list, or computed by a handler. -/
inductive Items where
  | absent
  | fixed (items : List Item)
  | computed (handler : Value)

/-- A button or quick reply, with the flow it runs. -/
inductive Action where
  | mk (info : ActionInfo) (flow : Option (List Element))

/-- An element of a list or carousel. -/
inductive Item where
  | mk (info : ItemInfo) (actions : Actions)

/-- A case of a switch; it matches its own value, or its id if it has none. -/
inductive Case where
  | mk (id : String) (value : Value) (body : List Element)

end

abbrev Flow := List Element

namespace Action

def info : Action → ActionInfo
  | .mk info _ => info

def flow : Action → Option Flow
  | .mk _ flow => flow

end Action

namespace Item

def info : Item → ItemInfo
  | .mk info _ => info

def actions : Item → Actions
  | .mk _ actions => actions

end Item

def Case.matchValue : Case → Value
  | .mk id value _ => if value.isNone then .str id else value

namespace Command

def typeName : Command → String
  | .message kind .. => kind.name
  | .conditional .. => "conditional"
  | .switch .. => "switch"
  | .iteration .. => "iteration"
  | .start .. => "start"
  | .finish .. => "finish"
  | .set .. => "set"
  | .exec .. => "exec"
  | .wait .. => "wait"
  | .break .. => "break"
  | .continue .. => "continue"
  | .flow .. => "flow"

def id : Command → String
  | .message _ id .. => id
  | .conditional id .. => id
  | .switch id .. => id
  | .iteration id .. => id
  | .start id .. => id
  | .finish id .. => id
  | .set id .. => id
  | .exec id .. => id
  | .wait id .. => id
  | .break id => id
  | .continue id => id
  | .flow id .. => id

def model : Command → ModelKind
  | .message kind .. => kind.model
  | .conditional .. => .conditional
  | .switch .. => .switch
  | .iteration .. => .iteration
  | .start .. => .start
  | .finish .. => .finish
  | .set .. => .set
  | .exec .. => .exec
  | .wait .. => .wait
  | .break .. => .break
  | .continue .. => .continue
  | .flow .. => .flow

/-- Words for all types of commands, in the order in which they are listed to authors. -/
def typeNames : List String :=
  ["text", "image", "list", "carousel", "conditional", "switch", "iteration", "start", "finish", "set",
    "exec", "wait", "break", "continue", "flow"]

end Command

def Value.ofText? : Option String → Value
  | some s => .str s
  | Option.none => .none

mutual

def Element.toValue : Element → Value
  | .command c => c.toValue
  | .handler h => h
  | .deferred source _ => source
  | .invalid source _ => source

def Command.toValue : Command → Value
  | .message kind id body actions items =>
    .model kind.model
      [("id", .str id), ("text", body.text), ("media_url", body.mediaUrl),
        ("media_type", body.mediaType), ("actions", actions.toValue), ("items", items.toValue),
        ("type", .str kind.name)]
      body.extras
  | .conditional id test yes no =>
    .model .conditional
      [("id", .str id), ("type", .str "conditional"), ("test", test),
        ("then", .ofList (flowValues yes)), ("else_", .ofList (flowValues no))] []
  | .switch id value cases default =>
    .model .switch
      [("id", .str id), ("type", .str "switch"), ("value", value),
        ("cases", .ofList (caseValues cases)), ("default", optionalFlowValue default)] []
  | .iteration id init condition increment body =>
    .model .iteration
      [("id", .str id), ("type", .str "iteration"), ("init", .record init), ("condition", condition),
        ("increment", .record increment), ("do", .ofList (flowValues body))] []
  | .start id target args resume =>
    .model .start
      [("id", .str id), ("type", .str "start"), ("start", target), ("args", args),
        ("then", optionalFlowValue resume)] []
  | .finish id result => .model .finish [("id", .str id), ("type", .str "finish"), ("finish", result)] []
  | .set id values => .model .set [("id", .str id), ("type", .str "set"), ("set", .record values)] []
  | .exec id target args =>
    .model .exec [("id", .str id), ("type", .str "exec"), ("exec", target), ("args", args)] []
  | .wait id seconds => .model .wait [("id", .str id), ("type", .str "wait"), ("seconds", seconds)] []
  | .break id => .model .break [("id", .str id), ("type", .str "break")] []
  | .continue id => .model .continue [("id", .str id), ("type", .str "continue")] []
  | .flow id body =>
    .model .flow [("id", .str id), ("type", .str "flow"), ("flow", .ofList (flowValues body))] []

def flowValues : List Element → List Value
  | [] => []
  | e :: es => e.toValue :: flowValues es

def optionalFlowValue : Option (List Element) → Value
  | none => .none
  | some es => .ofList (flowValues es)

def caseValues : List Case → List Value
  | [] => []
  | c :: cs => c.toValue :: caseValues cs

def Case.toValue : Case → Value
  | .mk id value body =>
    .model .switchCase [("id", .str id), ("case", value), ("do", .ofList (flowValues body))] []

def Actions.toValue : Actions → Value
  | .absent => .none
  | .fixed actions => .ofList (actionValues actions)
  | .computed handler => handler

def Items.toValue : Items → Value
  | .absent => .none
  | .fixed items => .ofList (itemValues items)
  | .computed handler => handler

def actionValues : List Action → List Value
  | [] => []
  | a :: as => a.toValue :: actionValues as

def itemValues : List Item → List Value
  | [] => []
  | i :: is => i.toValue :: itemValues is

def Action.toValue : Action → Value
  | .mk info flow =>
    .model .action
      [("id", .ofText? info.id), ("type", .str info.kind.name), ("text", info.text), ("uri", info.uri),
        ("payload", info.payload), ("amount", info.amount), ("currency", info.currency),
        ("then", optionalFlowValue flow), ("then_flow", info.thenFlow)]
      info.extras

def Item.toValue : Item → Value
  | .mk info actions =>
    .model .item
      [("id", .ofText? info.id), ("title", info.title), ("description", info.description),
        ("media_url", info.mediaUrl), ("media_type", info.mediaType), ("actions", actions.toValue)]
      info.extras

end

/-- Name of a record field as authors write it. -/
def ModelKind.alias (kind : ModelKind) (field : String) : String :=
  match kind, field with
  | _, "media_url" => "mediaUrl"
  | _, "media_type" => "mediaType"
  | .action, "then_flow" => "thenFlow"
  | .conditional, "test" => "if"
  | .conditional, "else_" => "else"
  | .switch, "value" => "switch"
  | .sessionSnapshot, "completed_frame" => "completedFrame"
  | _, field => field

mutual

/-- The value with every record in it written as an author would: fields under their own names, those
that are `None` left out. -/
def Value.toRaw : Value → Value
  | .model kind fields extras => .record (rawFields kind fields ++ rawExtras extras)
  | .list id items => .list id (rawAll items)
  | .tuple items => .tuple (rawAll items)
  | .dict id entries => .dict id (rawEntries entries)
  | v => v

def rawAll : List Value → List Value
  | [] => []
  | v :: vs => v.toRaw :: rawAll vs

def rawEntries : Entries → Entries
  | [] => []
  | (k, v) :: es => (k, v.toRaw) :: rawEntries es

def rawFields (kind : ModelKind) : Fields → Fields
  | [] => []
  | (k, v) :: fs =>
    if v.isNone then rawFields kind fs else (kind.alias k, v.toRaw) :: rawFields kind fs

def rawExtras : Fields → Fields
  | [] => []
  | (k, v) :: fs => if v.isNone then rawExtras fs else (k, v.toRaw) :: rawExtras fs

end

end Colloquy
