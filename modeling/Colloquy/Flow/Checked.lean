import Colloquy.Flow.Normal

/-!
# Records checked without being normalized

Actions, items and cases may also be given as finished records. Their fields are checked, but the
flows in them stay as they were written until the record is compiled.
-/

namespace Colloquy.Checked

def optionalFlow (v : Value) : Except FieldDefect (Option Flow) :=
  match v with
  | .none => .ok none
  | v => (Record.list v).map fun items => some (Normal.recordedElements items)

def action (v : Value) : Except (List FieldFault) Action :=
  match v with
  | .model .action fields extras =>
    .ok (.mk (Normal.recordedAction fields extras) (Normal.fieldFlow "then" fields))
  | .dict _ entries =>
    let (idFaults, id) := Record.field entries ["id"] (.ok none) (Record.simple Record.optionalText) none
    let (kindFaults, kind) :=
      Record.field entries ["type"] (.error .missing) (Record.simple Normal.actionKind) .reply
    let (flowFaults, flow) :=
      Record.field entries ["then"] (.ok none) (Record.simple optionalFlow) none
    let (extraFaults, extras) := Record.extras entries Normal.actionFields
    let faults := idFaults ++ kindFaults ++ flowFaults ++ extraFaults
    if !faults.isEmpty then .error faults
    else
      let info : ActionInfo := {
        id, kind
        text := Entries.named entries "text"
        uri := Entries.named entries "uri"
        payload := Entries.named entries "payload"
        amount := Entries.named entries "amount"
        currency := Entries.named entries "currency"
        thenFlow := Record.value entries ["thenFlow", "then_flow"]
        extras }
      .ok (.mk info flow)
  | _ => .error [⟨[], .notRecord⟩]

/-- Reads several actions; the faults of each one are placed under its position. -/
def actionList (position : Nat) : List Value → List FieldFault × List Action
  | [] => ([], [])
  | v :: vs =>
    let (faults, actions) := actionList (position + 1) vs
    match action v with
    | .ok a => (faults, a :: actions)
    | .error own => (FieldFault.under (.int position) own ++ faults, actions)

/-- Reads the actions of an item: a list, a handler, or nothing. -/
def actions (v : Value) : Except (List FieldFault) Actions :=
  let orHandler (faults : List FieldFault) : Except (List FieldFault) Actions :=
    if v.isCallable then .ok (.computed v)
    else .error (FieldFault.under (.str "list[Action]") faults ++ [⟨[.str "callable"], .notCallable⟩])
  match v with
  | .none => .ok .absent
  | v =>
    match Record.list v with
    | .error defect => orHandler [⟨[], defect⟩]
    | .ok items =>
      match actionList 0 items with
      | ([], actions) => .ok (.fixed actions)
      | (faults, _) => orHandler faults

def item (v : Value) : Except (List FieldFault) Item :=
  match v with
  | .model .item fields extras =>
    .ok (.mk (Normal.recordedItem fields extras) (Normal.fieldActions fields))
  | .dict _ entries =>
    let (idFaults, id) := Record.field entries ["id"] (.ok none) (Record.simple Record.optionalText) none
    let (actionFaults, actions) := Record.field entries ["actions"] (.ok .absent) actions .absent
    let (extraFaults, extras) := Record.extras entries Normal.itemFields
    let faults := idFaults ++ actionFaults ++ extraFaults
    if !faults.isEmpty then .error faults
    else
      let info : ItemInfo := {
        id
        title := Entries.named entries "title"
        description := Entries.named entries "description"
        mediaUrl := Record.value entries ["mediaUrl", "media_url"]
        mediaType := Record.value entries ["mediaType", "media_type"]
        extras }
      .ok (.mk info actions)
  | _ => .error [⟨[], .notRecord⟩]

def «case» (v : Value) : Except (List FieldFault) Case :=
  match v with
  | .model .switchCase fields _ =>
    .ok (.mk ((Normal.fieldText? fields "id").getD "") (Normal.fieldValue fields "case")
      ((Normal.fieldFlow "do" fields).getD []))
  | .dict _ entries =>
    let (idFaults, id) := Record.field entries ["id"] (.error .missing) (Record.simple Record.text) ""
    let (bodyFaults, body) := Record.field entries ["do"] (.ok [])
      (Record.simple fun v => (Record.list v).map Normal.recordedElements) []
    let faults := idFaults ++ bodyFaults
    if !faults.isEmpty then .error faults
    else .ok (.mk id (Entries.named entries "case") body)
  | _ => .error [⟨[], .notRecord⟩]

end Colloquy.Checked
