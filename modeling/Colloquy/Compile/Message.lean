import Colloquy.Flow.Normal

/-!
# Messages as they are sent

What of a message, an item or an action goes to the channel: everything but its id and its flows,
and nothing that is `None`.
-/

namespace Colloquy

/-- Entries that are not `None`; further fields come last and replace those of the same name. -/
def sentParams (fields extras : Fields) : Entries :=
  let all := extras.foldl (fun acc (k, v) => Entries.put acc k v)
    (fields.map fun (k, v) => ((Value.str k), v))
  all.filter fun (_, v) => !v.isNone

namespace ActionKind

def carriesFlow : ActionKind → Bool
  | .postback | .reply => true
  | _ => false

end ActionKind

/-- The action as sent: no id and no flow references. -/
def ActionInfo.params (a : ActionInfo) : Entries :=
  sentParams
    [("type", .str a.kind.name), ("text", a.text), ("uri", a.uri), ("payload", a.payload),
      ("amount", a.amount), ("currency", a.currency)] a.extras

def ItemInfo.params (i : ItemInfo) : Entries :=
  sentParams
    [("title", i.title), ("description", i.description), ("mediaUrl", i.mediaUrl),
      ("mediaType", i.mediaType)] i.extras

def MessageBody.params (kind : MessageKind) (b : MessageBody) : Entries :=
  sentParams
    [("type", .str kind.name), ("text", b.text), ("mediaUrl", b.mediaUrl), ("mediaType", b.mediaType)]
    b.extras

namespace Actions

def isComputed : Actions → Bool
  | .computed _ => true
  | _ => false

def hasReply : Actions → Bool
  | .fixed actions => actions.any fun a => a.info.kind == .reply
  | _ => false

end Actions

namespace Items

def list : Items → List Item
  | .fixed items => items
  | _ => []

def isComputed : Items → Bool
  | .computed _ => true
  | _ => false

end Items

def isDynamic (actions : Actions) (items : Items) : Bool :=
  actions.isComputed || items.isComputed || items.list.any (·.actions.isComputed)

def awaitsReply (actions : Actions) (items : Items) : Bool :=
  isDynamic actions items || actions.hasReply || items.list.any (·.actions.hasReply)

def repliesIn (actions : Value) : Bool :=
  match actions with
  | .list _ items => items.any fun a =>
      match a with
      | .dict _ entries => (Entries.named entries "type").eq (.str "reply")
      | .model .action fields _ => ((fields.lookup "type").getD .none).eq (.str "reply")
      | _ => false
  | _ => false

namespace Command

/-- Whether a command ends its sequence, so that the rest becomes a continuation. -/
def breaksFlow : Command → Bool
  | .message _ _ _ actions items => awaitsReply actions items
  | .conditional .. | .switch .. | .iteration .. | .start .. | .finish .. | .break .. | .continue ..
  | .flow .. => true
  | .set .. | .exec .. | .wait .. => false

def isTerminal : Command → Bool
  | .finish .. | .break .. | .continue .. => true
  | _ => false

end Command

end Colloquy
