import Colloquy.Flow.Accessor
import Colloquy.Flow.Inference
import Colloquy.Flow.Record
import Colloquy.Value.Method

/-!
# Normal form of flows

Authors write flows in many short forms: bare texts, handlers, `when` and `unless`, `for`, `while`
and `until`, mappings of actions, items and cases. Every form has one canonical command. What is
canonical already is left as it is.

The builders of commands are told how the nested parts of a mapping normalize; the recursion itself
follows the structure of the value.
-/

namespace Colloquy

def liftFault {α : Type} : Outcome α → Except Error α
  | .ok a => .ok a
  | .error f => .error (.fault f)

namespace Normal

/-- How the parts of a raw mapping normalize, by their names. -/
structure Parts where
  flow : String → Except Error Flow
  /-- Actions under a name, for a default kind. -/
  actions : String → String → Except Error Actions
  items : String → Except Error Items
  cases : String → Except Error (List Case)

def idText (v : Value) : Except Error String := liftFault v.toText?

def givenId (entries : Entries) (default : String) : Except Error String :=
  let id := Entries.named entries "id"
  if id.isNone then .ok default else idText id

def givenFlow (entries : Entries) (parts : Parts) (name : String) : Except Error (Option Flow) :=
  if (Entries.named entries name).isNone then .ok none else do return some (← parts.flow name)

def checked {α : Type} (raw : Value) (faults : List FieldFault) (a : α) : Except Error α :=
  if faults.isEmpty then .ok a else .error (.unrecognized raw (some (.badFields faults)))

def plainText (text : Value) : Command :=
  .message .text "text" { text } .absent .absent

def messageFields : List (List String) :=
  [["id"], ["text"], ["mediaUrl", "media_url"], ["mediaType", "media_type"], ["actions"], ["items"], ["type"]]

def message (raw : Value) (entries : Entries) (parts : Parts) (kind : MessageKind) :
    Except Error Command := do
  let actions ← if (Entries.named entries "actions").isNone then pure Actions.absent
    else parts.actions "reply" "actions"
  let items ← if (Entries.named entries "items").isNone then pure Items.absent else parts.items "items"
  let (idFaults, id) := Record.field entries ["id"] (.ok kind.name) (Record.simple Record.text) ""
  let (extraFaults, extras) := Record.extras entries messageFields
  checked raw (idFaults ++ extraFaults)
    (.message kind id
      { text := Entries.named entries "text"
        mediaUrl := Record.value entries ["mediaUrl", "media_url"]
        mediaType := Record.value entries ["mediaType", "media_type"]
        extras } actions items)

/-- A choice between two flows; `unless` inverts the test. -/
def conditional (entries : Entries) (parts : Parts) : Except Error Command := do
  let test := match Entries.named? entries "unless" with
    | some v => .negated v
    | none => (Entries.named? entries "if").getD (Entries.named entries "when")
  let yes ← parts.flow "then"
  let no ← parts.flow "else"
  return .conditional (← givenId entries "if") test yes no

def switch (raw : Value) (entries : Entries) (parts : Parts) : Except Error Command := do
  match Entries.named? entries "switch" with
  | none => .error (.unrecognized raw (some .switchWithoutValue))
  | some value =>
    let cases ← if (Entries.named entries "cases").truthy then parts.cases "cases" else pure []
    let default ← givenFlow entries parts "default"
    return .switch (← givenId entries "switch") value cases default

def derivedIdentity : Value → Identity
  | .list (.object n) _ => .derived n
  | .dict (.object n) _ => .derived n
  | _ => .anonymous

/-- Parts of a loop: what is set first, the condition, and what is set after each round. -/
abbrev Clause := Entries × Value × Entries

/-- Expands `for: [init, limit or condition, increment]`. A name is initialized to zero, a numeric
limit is compared with the first variable, by an accessor with the given identity, and a numeric
increment, by default one, is added to it. -/
def forClause (id : Identity) (clause : Value) : Except Error Clause := do
  let fail {α : Type} (d : CommandDefect) : Except Error α := .error (.unrecognized clause (some d))
  let parts ← match clause.sequence? with
    | some parts => if 1 ≤ parts.length ∧ parts.length ≤ 3 then pure parts else fail .badForClause
    | none => fail .badForClause
  let init ← match parts.getD 0 .none with
    | .str s | .markup s => pure [(Value.str s, Value.int 0)]
    | .none => pure []
    | .dict _ entries => pure entries
    | _ => fail .badForInitializer
  let first : Value := (init.head?.map (·.1)).getD .none
  let required : Except Error Value := if first.isNone then fail .forWithoutVariable else .ok first
  let limit := parts.getD 1 .none
  let condition ←
    if limit.isNone then pure (.bool true)
    else if limit.isNumber then do
      Accessor.ofVariable id (← required) (.compare .lt limit)
    else pure limit
  let increment ← match parts.getD 2 .none with
    | .none => pure (if first.isNone then [] else [(first, .int 1)])
    | .dict _ entries => pure entries
    | v => if v.isNumber then do pure [(← required, v)] else fail .badForIncrement
  return (init, condition, increment)

def givenEntries (v : Value) : Except Error Entries :=
  if v.truthy then liftFault (entriesOf v) else .ok []

def iteration (raw : Value) (entries : Entries) (parts : Parts) : Except Error Command := do
  let (init, condition, increment) ← match Entries.named? entries "for" with
    | some clause => forClause (derivedIdentity raw) clause
    | none => do
      let condition := match Entries.named? entries "while", Entries.named? entries "until" with
        | some v, _ => v
        | none, some v => .negated v
        | none, none => (Entries.named? entries "condition").getD (.bool true)
      let init ← givenEntries (Entries.named entries "init")
      let increment ← givenEntries (Entries.named entries "increment")
      pure (init, condition, increment)
  let body ← parts.flow "do"
  let id ← givenId entries "loop"
  let (initFaults, init) := Record.textEntries init
  let (incrementFaults, increment) := Record.textEntries increment
  checked raw
    (FieldFault.under (.str "init") initFaults ++ FieldFault.under (.str "increment") incrementFaults)
    (.iteration id init condition increment body)

def set (raw : Value) (entries : Entries) : Except Error Command := do
  match Entries.named entries "set" with
  | .dict _ values =>
    let id ← givenId entries "set"
    let (faults, values) := Record.textEntries values
    checked raw (FieldFault.under (.str "set") faults) (.set id values)
  | _ => .error (.unrecognized raw (some .setWithoutMapping))

def command (raw : Value) (entries : Entries) (parts : Parts) : Except Error Command := do
  let type := commandType entries
  match type.text? with
  | none => .error (.unrecognized raw (some (if type.isNone then .untyped else .unknownType type)))
  | some word =>
    match MessageKind.ofName? word with
    | some kind => message raw entries parts kind
    | none =>
      match word with
      | "conditional" => conditional entries parts
      | "switch" => switch raw entries parts
      | "iteration" => iteration raw entries parts
      | "start" => do
        let resume ← givenFlow entries parts "then"
        return .start (← givenId entries "start") (Entries.named entries "start")
          (Entries.named entries "args") resume
      | "finish" => return .finish (← givenId entries "finish") (Entries.named entries "finish")
      | "set" => set raw entries
      | "exec" =>
        return .exec (← givenId entries "exec") (Entries.named entries "exec") (Entries.named entries "args")
      | "wait" =>
        let seconds := (Entries.named? entries "wait").getD
          ((Entries.named? entries "seconds").getD (.int 0))
        return .wait (← givenId entries "wait") seconds
      | "break" => return .break (← givenId entries "break")
      | "continue" => return .continue (← givenId entries "continue")
      | "flow" =>
        if (Entries.named entries "id").isNone then .error (.unrecognized raw (some .subFlowWithoutId))
        else do
          let body ← parts.flow "flow"
          return .flow (← givenId entries "flow") body
      | _ => .error (.unrecognized raw (some (.unknownType type)))

def actionFields : List (List String) :=
  [["id"], ["type"], ["text"], ["uri"], ["payload"], ["amount"], ["currency"], ["then"],
    ["thenFlow", "then_flow"]]

/-- An action written as a mapping. The key gives the id if the action has none, and the text unless
the action has one or shares something. -/
def actionInfo (raw : Value) (entries : Entries) (key : Option String) (keyIsText : Bool)
    (kind : ActionKind) (flow : Except Error (Option Flow)) : Except Error Action := do
  let id ← match Entries.named? entries "id" with
    | none => pure key
    | some .none => pure none
    | some v => do pure (some (← idText v))
  let given := Entries.named entries "text"
  let text :=
    if kind == .share then .none
    else if !given.isNone then given
    else .ofText? (if keyIsText && key.isSome then key else id)
  let flow ← flow
  let (faults, extras) := Record.extras entries actionFields
  if !faults.isEmpty then .error (.invalidAction raw faults)
  else
    let info : ActionInfo := {
      id, kind, text
      uri := Entries.named entries "uri"
      payload := Entries.named entries "payload"
      amount := Entries.named entries "amount"
      currency := Entries.named entries "currency"
      thenFlow := Record.value entries ["thenFlow", "then_flow"]
      extras }
    return .mk info flow

def actionKind (v : Value) : Except FieldDefect ActionKind :=
  match v with
  | .str s | .markup s =>
    match ActionKind.ofName? s with
    | some kind => .ok kind
    | none => .error .notChoice
  | _ => .error .notChoice

def flowAction (key : Option String) (default : Value) (flow : Flow) : Except Error Action :=
  match actionKind default with
  | .ok kind => .ok (.mk { id := key, kind, text := .ofText? key } (some flow))
  | .error defect => .error (.invalidRecord [⟨[.str "type"], defect⟩])

def itemFields : List (List String) :=
  [["id"], ["title"], ["description"], ["mediaUrl", "media_url"], ["mediaType", "media_type"], ["actions"]]

def itemInfo (raw : Value) (entries : Entries) (id : String) (title : Option String)
    (actions : Except Error Actions) : Except Error Item := do
  let actions ← actions
  let given := Entries.named entries "title"
  let (faults, extras) := Record.extras entries itemFields
  if !faults.isEmpty then .error (.invalidItem raw faults)
  else
    let info : ItemInfo := {
      id := some id
      title := if given.isNone then .ofText? title else given
      description := Entries.named entries "description"
      mediaUrl := Record.value entries ["mediaUrl", "media_url"]
      mediaType := Record.value entries ["mediaType", "media_type"]
      extras }
    return .mk info actions

/-- The id that an element of a list brings along. -/
def ownId (v : Value) : Except Error (Option String) :=
  let id := match v with
    | .dict _ entries => Entries.named entries "id"
    | .model _ fields _ => (fields.lookup "id").getD .none
    | _ => .none
  if id.isNone then .ok none else do return some (← idText id)

def fieldText? (fields : Fields) (name : String) : Option String :=
  (fields.lookup name).bind Value.text?

def fieldValue (fields : Fields) (name : String) : Value := (fields.lookup name).getD .none

/-- Entries of a field that holds a mapping with names as keys. -/
def fieldEntries (fields : Fields) (name : String) : Fields :=
  match fieldValue fields name with
  | .dict _ entries => entries.filterMap fun (k, v) => k.text?.map fun s => (s, v)
  | _ => []

def recordedExtras (known : List (List String)) (extras : Fields) : Fields :=
  extras.filter fun (k, _) => !known.contains [k]

def recordedAction (fields extras : Fields) : ActionInfo :=
  { id := fieldText? fields "id"
    kind := ((fieldText? fields "type").bind ActionKind.ofName?).getD .reply
    text := fieldValue fields "text"
    uri := fieldValue fields "uri"
    payload := fieldValue fields "payload"
    amount := fieldValue fields "amount"
    currency := fieldValue fields "currency"
    thenFlow := fieldValue fields "then_flow"
    extras := recordedExtras actionFields extras }

def recordedItem (fields extras : Fields) : ItemInfo :=
  { id := fieldText? fields "id"
    title := fieldValue fields "title"
    description := fieldValue fields "description"
    mediaUrl := fieldValue fields "media_url"
    mediaType := fieldValue fields "media_type"
    extras := recordedExtras itemFields extras }

structure Recorded where
  flow : String → Option Flow
  actions : Actions
  items : Items
  cases : List Case

def recordedCommand (kind : ModelKind) (fields extras : Fields) (parts : Recorded) : Option Command :=
  let id := (fieldText? fields "id").getD ""
  let flow (name : String) : Flow := (parts.flow name).getD []
  let message (kind : MessageKind) : Command :=
    .message kind id
      { text := fieldValue fields "text"
        mediaUrl := fieldValue fields "media_url"
        mediaType := fieldValue fields "media_type"
        extras := recordedExtras messageFields extras } parts.actions parts.items
  match kind with
  | .textMessage => some (message .text)
  | .imageMessage => some (message .image)
  | .listMessage => some (message .list)
  | .carouselMessage => some (message .carousel)
  | .conditional => some (.conditional id (fieldValue fields "test") (flow "then") (flow "else_"))
  | .switch => some (.switch id (fieldValue fields "value") parts.cases (parts.flow "default"))
  | .iteration =>
    some (.iteration id (fieldEntries fields "init") (fieldValue fields "condition")
      (fieldEntries fields "increment") (flow "do"))
  | .start =>
    some (.start id (fieldValue fields "start") (fieldValue fields "args") (parts.flow "then"))
  | .finish => some (.finish id (fieldValue fields "finish"))
  | .set => some (.set id (fieldEntries fields "set"))
  | .exec => some (.exec id (fieldValue fields "exec") (fieldValue fields "args"))
  | .wait => some (.wait id (fieldValue fields "seconds"))
  | .break => some (.break id)
  | .continue => some (.continue id)
  | .flow => some (.flow id (flow "flow"))
  | _ => none

def recordedElement (raw : Value) : Option Command → Except Error Element
  | some c => .ok (.command c)
  | none => .error (.unrecognized raw none)

/-- An element of a recorded flow: a command or handler, or what it stands for. -/
def kept (source : Value) (meaning : Except Error Element) : Element :=
  match source, meaning with
  | .model .., .ok e => e
  | _, .ok (.handler h) => .handler h
  | _, .ok e => .deferred source e
  | _, .error e => .invalid source e

mutual

def element : Value → Except Error Element
  | .str s => .ok (.command (plainText (.str s)))
  | .markup s => .ok (.command (plainText (.markup s)))
  | .model kind fields extras =>
    recordedElement (.model kind fields extras)
      (recordedCommand kind fields extras
        ⟨fun name => fieldFlow name fields, fieldActions fields, fieldItems fields, fieldCases fields⟩)
  | .dict id entries => do
    return .command (← command (.dict id entries) entries
      ⟨fun name => flowUnder name entries, fun default name => actionsUnder default name entries,
        fun name => itemsUnder name entries, fun name => casesUnder name entries⟩)
  | v => if v.isCallable then .ok (.handler v) else .error (.unrecognized v none)
termination_by structural v => v

def flow : Value → Except Error Flow
  | .none => .ok []
  | .list _ items => elements items
  | .tuple items => elements items
  | .str s => .ok [.command (plainText (.str s))]
  | .markup s => .ok [.command (plainText (.markup s))]
  | .model kind fields extras =>
    match recordedCommand kind fields extras
        ⟨fun name => fieldFlow name fields, fieldActions fields, fieldItems fields, fieldCases fields⟩ with
    | some c => .ok [.command c]
    | none => .error (.unrecognized (.model kind fields extras) (some .notFlow))
  | .dict id entries => do
    return [.command (← command (.dict id entries) entries
      ⟨fun name => flowUnder name entries, fun default name => actionsUnder default name entries,
        fun name => itemsUnder name entries, fun name => casesUnder name entries⟩)]
  | v => if v.isCallable then .ok [.handler v] else .error (.unrecognized v (some .notFlow))
termination_by structural v => v

def elements : List Value → Except Error Flow
  | [] => .ok []
  | v :: vs => do
    let e ← element v
    return e :: (← elements vs)
termination_by structural v => v

def flowUnder (name : String) : List (Value × Value) → Except Error Flow
  | [] => .ok []
  | (k, v) :: es => if k.same (.str name) then flow v else flowUnder name es
termination_by structural v => v

def actions (default : Value) : Value → Except Error Actions
  | .list _ items => do return .fixed (← actionList default items)
  | .tuple items => do return .fixed (← actionList default items)
  | .dict _ entries => do return .fixed (← actionMap default entries)
  | v => if v.isCallable then .ok (.computed v) else .error (.notActions v)
termination_by structural v => v

/-- Actions of a list, each known by the id it brings along. -/
def actionList (default : Value) : List Value → Except Error (List Action)
  | [] => .ok []
  | v :: vs => do
    let a ← action default (← ownId v) false v
    return a :: (← actionList default vs)
termination_by structural v => v

def actionMap (default : Value) : List (Value × Value) → Except Error (List Action)
  | [] => .ok []
  | (k, v) :: es => do
    let a ← action default (some (← idText k)) true v
    return a :: (← actionMap default es)
termination_by structural v => v

def actionsUnder (default name : String) : List (Value × Value) → Except Error Actions
  | [] => .ok .absent
  | (k, v) :: es =>
    if k.same (.str name) then actions (.str default) v else actionsUnder default name es
termination_by structural v => v

/-- One action. A flow in the place of an action is run by an action of the default kind. -/
def action (default : Value) (key : Option String) (keyIsText : Bool) : Value → Except Error Action
  | .model kind fields extras =>
    match kind with
    | .action =>
      let info := recordedAction fields extras
      .ok (.mk { info with id := info.id.or key } (fieldFlow "then" fields))
    | kind =>
      match recordedCommand kind fields extras
          ⟨fun name => fieldFlow name fields, fieldActions fields, fieldItems fields, fieldCases fields⟩ with
      | some c => flowAction key default [.command c]
      | none => .error (.notAction (.model kind fields extras) (.ofText? key))
  | .dict id entries =>
    match actionKind (actionType entries default) with
    | .ok kind =>
      actionInfo (.dict id entries) entries key keyIsText kind
        (if (Entries.named entries "then").isNone then .ok none
          else do return some (← flowUnder "then" entries))
    | .error _ =>
      if (Entries.named entries "type").isNone && (inferCommandType entries).isNone then
        .error (.untypedAction (.dict id entries))
      else if isCommandType (commandType entries) then do
        let c ← command (.dict id entries) entries
          ⟨fun name => flowUnder name entries, fun default name => actionsUnder default name entries,
            fun name => itemsUnder name entries, fun name => casesUnder name entries⟩
        flowAction key default [.command c]
      else .error (.notAction (.dict id entries) (.ofText? key))
  | .list _ items => do flowAction key default (← elements items)
  | .tuple items => do flowAction key default (← elements items)
  | .str s => flowAction key default [.command (plainText (.str s))]
  | .markup s => flowAction key default [.command (plainText (.markup s))]
  | v => if v.isCallable then flowAction key default [.handler v] else .error (.notAction v (.ofText? key))
termination_by structural v => v

def items : Value → Except Error Items
  | .list _ vs => do return .fixed (← itemList 0 vs)
  | .tuple vs => do return .fixed (← itemList 0 vs)
  | .dict _ entries => do return .fixed (← itemMap entries)
  | v => if v.isCallable then .ok (.computed v) else .error (.notItems v)
termination_by structural v => v

/-- Items of a list, each known by the id it brings along or by its position. -/
def itemList (position : Nat) : List Value → Except Error (List Item)
  | [] => .ok []
  | v :: vs => do
    let own := ((← ownId v).filter (!·.isEmpty)).getD (Number.intText position)
    let i ← item own none v
    return i :: (← itemList (position + 1) vs)
termination_by structural v => v

def itemMap : List (Value × Value) → Except Error (List Item)
  | [] => .ok []
  | (k, v) :: es => do
    let key ← idText k
    let i ← item key (some key) v
    return i :: (← itemMap es)
termination_by structural v => v

def itemsUnder (name : String) : List (Value × Value) → Except Error Items
  | [] => .ok .absent
  | (k, v) :: es => if k.same (.str name) then items v else itemsUnder name es
termination_by structural v => v

def item (id : String) (title : Option String) : Value → Except Error Item
  | .model kind fields extras =>
    if kind = .item then
      let info := recordedItem fields extras
      .ok (.mk { info with id := info.id.or (some id) } (fieldActions fields))
    else .error (.notItem (.model kind fields extras))
  | .dict ident entries =>
    itemInfo (.dict ident entries) entries id title
      (if (Entries.named entries "actions").isNone then .ok .absent
        else actionsUnder "postback" "actions" entries)
  | v => .error (.notItem v)
termination_by structural v => v

def cases : Value → Except Error (List Case)
  | .list _ vs => caseList vs
  | .tuple vs => caseList vs
  | .dict _ entries => caseMap entries
  | v => .error (.notCases v)
termination_by structural v => v

def caseList : List Value → Except Error (List Case)
  | [] => .ok []
  | v :: vs => do
    let c ← «case» v
    return c :: (← caseList vs)
termination_by structural v => v

/-- Cases of a mapping, each known by its key. -/
def caseMap : List (Value × Value) → Except Error (List Case)
  | [] => .ok []
  | (k, v) :: es => do
    let id ← idText k
    let body ← flow v
    return .mk id .none body :: (← caseMap es)
termination_by structural v => v

def casesUnder (name : String) : List (Value × Value) → Except Error (List Case)
  | [] => .ok []
  | (k, v) :: es => if k.same (.str name) then cases v else casesUnder name es
termination_by structural v => v

def «case» : Value → Except Error Case
  | .model kind fields extras =>
    if kind = .switchCase then
      .ok (.mk ((fieldText? fields "id").getD "") (fieldValue fields "case")
        ((fieldFlow "do" fields).getD []))
    else .error (.caseWithoutId (.model kind fields extras))
  | .dict ident entries =>
    if (Entries.named entries "id").isNone then .error (.caseWithoutId (.dict ident entries))
    else do
      let id ← idText (Entries.named entries "id")
      let body ← flowUnder "do" entries
      return .mk id (Entries.named entries "case") body
  | v => .error (.caseWithoutId v)
termination_by structural v => v

def fieldFlow (name : String) : List (String × Value) → Option Flow
  | [] => none
  | (k, v) :: fs => if k == name then recordedFlow v else fieldFlow name fs
termination_by structural v => v

def recordedFlow : Value → Option Flow
  | .list _ vs => some (recordedElements vs)
  | _ => none
termination_by structural v => v

def recordedElements : List Value → Flow
  | [] => []
  | v :: vs => kept v (element v) :: recordedElements vs
termination_by structural v => v

def fieldActions : List (String × Value) → Actions
  | [] => .absent
  | (k, v) :: fs => if k == "actions" then recordedActions v else fieldActions fs
termination_by structural v => v

def recordedActions : Value → Actions
  | .list _ vs => .fixed (recordedActionList vs)
  | v => if v.isNone then .absent else .computed v
termination_by structural v => v

def recordedActionList : List Value → List Action
  | [] => []
  | v :: vs =>
    match v with
    | .model .action fields extras =>
      .mk (recordedAction fields extras) (fieldFlow "then" fields) :: recordedActionList vs
    | _ => recordedActionList vs
termination_by structural v => v

def fieldItems : List (String × Value) → Items
  | [] => .absent
  | (k, v) :: fs => if k == "items" then recordedItems v else fieldItems fs
termination_by structural v => v

def recordedItems : Value → Items
  | .list _ vs => .fixed (recordedItemList vs)
  | v => if v.isNone then .absent else .computed v
termination_by structural v => v

def recordedItemList : List Value → List Item
  | [] => []
  | v :: vs =>
    match v with
    | .model .item fields extras =>
      .mk (recordedItem fields extras) (fieldActions fields) :: recordedItemList vs
    | _ => recordedItemList vs
termination_by structural v => v

def fieldCases : List (String × Value) → List Case
  | [] => []
  | (k, v) :: fs => if k == "cases" then recordedCases v else fieldCases fs
termination_by structural v => v

def recordedCases : Value → List Case
  | .list _ vs => recordedCaseList vs
  | _ => []
termination_by structural v => v

def recordedCaseList : List Value → List Case
  | [] => []
  | v :: vs =>
    match v with
    | .model .switchCase fields _ =>
      .mk ((fieldText? fields "id").getD "") (fieldValue fields "case") ((fieldFlow "do" fields).getD [])
        :: recordedCaseList vs
    | _ => recordedCaseList vs
termination_by structural v => v

end

def flows (v : Value) : Except Error (List (String × Flow)) := do
  match v with
  | .dict _ entries =>
    let named ← entries.mapM fun (k, v) => do
      let id ← idText k
      let f ← flow v
      pure (id, f)
    return named.foldl (fun acc (id, f) =>
      if acc.any (·.1 == id) then acc.map fun (k, g) => if k == id then (k, f) else (k, g)
      else acc ++ [(id, f)]) []
  | v => .error (.notFlows v)

end Normal

end Colloquy
