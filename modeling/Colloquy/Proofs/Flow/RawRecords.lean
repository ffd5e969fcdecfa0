import Colloquy.Proofs.Flow.RawFields

/-!
# Records read back

Each kind of command, action and item that was written out is read back as it was under conditions of its own: what is
nested in it comes back, what reads as something else when it is missing is given, and its extra fields survive.
-/

namespace Colloquy

namespace Normal

variable {entries : Entries} {id : String}

/-! ## Commands -/

theorem raw_conditional {test : Value} (htest : test.recordFree = true) (yes no : Flow) :
    element (Command.conditional id test yes no).toValue.toRaw = .ok (.command (.conditional id test yes no)) ↔
      elements (rawAll (flowValues yes)) = .ok yes ∧ elements (rawAll (flowValues no)) = .ok no := by
  refine element_raw_iff ["id", "type", "if", "then", "else"] rfl (by decide) fun raw entries hraw => ?_
  have hif : Entries.named? entries "if" = test.given := given_of_raw htest (hraw "if")
  have hcommand : command raw entries (.under entries) = conditional entries (.under entries) := by
    unfold command
    rw [commandType_of_given (hraw "type") rfl]
    rfl
  have hyes : flowUnder "then" entries = _ := flowUnder_of_given (hraw "then")
  have hno : flowUnder "else" entries = _ := flowUnder_of_given (hraw "else")
  rw [hcommand, conditional, show Entries.named? entries "unless" = none from hraw "unless", hif,
    show Entries.named entries "when" = .none from named_of_given (v := .none) (hraw "when"),
    givenId_of_given (hraw "id")]
  simp only [Parts.under, hyes, hno, Value.given_getD]
  exact made_of_two (f := fun yes no => Command.conditional id test yes no) fun h => (Command.conditional.inj h).2.2

theorem raw_switch {value : Value} (hvalue : value.recordFree = true) (cs : List Case) (default : Option Flow) :
    element (Command.switch id value cs default).toValue.toRaw = .ok (.command (.switch id value cs default)) ↔
      value.isNone = false ∧ caseList (rawAll (caseValues cs)) = .ok cs ∧
        ∀ f ∈ default, elements (rawAll (flowValues f)) = .ok f := by
  rw [← rereadOption_eq_ok]
  refine element_raw_iff ["id", "type", "switch", "cases", "default"] rfl (by decide) fun raw entries hraw => ?_
  have hswitch : Entries.named? entries "switch" = value.given := given_of_raw hvalue (hraw "switch")
  have hcommand : command raw entries (.under entries) = switch raw entries (.under entries) := by
    unfold command
    rw [commandType_of_given (hraw "type") rfl]
    rfl
  have hdefault : givenFlow entries (.under entries) "default" = rereadOption default :=
    givenFlow_of_given (hraw "default")
  have hcases : casesUnder "cases" entries = caseList (rawAll (caseValues cs)) := by
    rw [casesUnder_eq, hraw "cases"]
    rfl
  have hlist : Entries.named entries "cases" = .ofList (rawAll (caseValues cs)) := by
    rw [Entries.named, hraw "cases"]
    rfl
  rw [hcommand, switch, hswitch, hdefault, hlist, givenId_of_given (hraw "id")]
  cases hnone : value.isNone with
  | true =>
    rw [Value.given, if_pos hnone]
    simp
  | false =>
    -- Without cases there is nothing to be read, and nothing is read.
    have hif (f : List Case → Except Error Command) :
        (if (Value.ofList (rawAll (caseValues cs))).truthy = true then casesUnder "cases" entries >>= f
          else pure [] >>= f) = caseList (rawAll (caseValues cs)) >>= f := by
      rw [hcases]
      cases cs <;> rfl
    rw [Value.given_eq_some hnone]
    dsimp only [Parts.under]
    rw [hif, eq_self, true_and]
    exact made_of_two (f := fun cs default => Command.switch id value cs default) fun h => (Command.switch.inj h).2.2

theorem raw_start {target args : Value} (htarget : target.recordFree = true) (hargs : args.recordFree = true)
    (resume : Option Flow) :
    element (Command.start id target args resume).toValue.toRaw = .ok (.command (.start id target args resume)) ↔
      ∀ f ∈ resume, elements (rawAll (flowValues f)) = .ok f := by
  rw [← rereadOption_eq_ok]
  refine element_raw_iff ["id", "type", "start", "args", "then"] rfl (by decide) fun raw entries hraw => ?_
  have hstart : Entries.named? entries "start" = target.given := given_of_raw htarget (hraw "start")
  have hgiven : Entries.named? entries "args" = args.given := given_of_raw hargs (hraw "args")
  have hcommand : command raw entries (.under entries) = (do
      let resume ← givenFlow entries (.under entries) "then"
      return .start (← givenId entries "start") (Entries.named entries "start") (Entries.named entries "args") resume) := by
    unfold command
    rw [commandType_of_given (hraw "type") rfl]
    rfl
  have hresume : givenFlow entries (.under entries) "then" = rereadOption resume :=
    givenFlow_of_given (hraw "then")
  rw [hcommand, hresume, named_of_given hstart, named_of_given hgiven, givenId_of_given (hraw "id")]
  exact made_of_one (f := fun resume => Command.start id target args resume) fun h => (Command.start.inj h).2.2.2

theorem raw_finish {result : Value} (hresult : result.recordFree = true) :
    element (Command.finish id result).toValue.toRaw = .ok (.command (.finish id result)) := by
  refine element_raw_eq ["id", "type", "finish"] rfl (by decide) fun raw entries hraw => ?_
  have hfinish : Entries.named? entries "finish" = result.given := given_of_raw hresult (hraw "finish")
  unfold command
  rw [commandType_of_given (hraw "type") rfl]
  change (do return Command.finish (← givenId entries "finish") (Entries.named entries "finish")) = _
  rw [givenId_of_given (hraw "id"), named_of_given hfinish]
  rfl

theorem raw_exec {target args : Value} (htarget : target.recordFree = true) (hargs : args.recordFree = true) :
    element (Command.exec id target args).toValue.toRaw = .ok (.command (.exec id target args)) := by
  refine element_raw_eq ["id", "type", "exec", "args"] rfl (by decide) fun raw entries hraw => ?_
  have hexec : Entries.named? entries "exec" = target.given := given_of_raw htarget (hraw "exec")
  have hgiven : Entries.named? entries "args" = args.given := given_of_raw hargs (hraw "args")
  unfold command
  rw [commandType_of_given (hraw "type") rfl]
  change (do
    let id ← givenId entries "exec"
    return Command.exec id (Entries.named entries "exec") (Entries.named entries "args")) = _
  rw [givenId_of_given (hraw "id"), named_of_given hexec, named_of_given hgiven]
  rfl

theorem raw_wait {seconds : Value} (hseconds : seconds.recordFree = true) :
    element (Command.wait id seconds).toValue.toRaw = .ok (.command (.wait id seconds)) ↔ seconds.isNone = false := by
  refine element_raw_iff ["id", "type", "seconds"] rfl (by decide) fun raw entries hraw => ?_
  have hgiven : Entries.named? entries "seconds" = seconds.given := given_of_raw hseconds (hraw "seconds")
  unfold command
  rw [commandType_of_given (hraw "type") rfl]
  change (do
    let id ← givenId entries "wait"
    return Command.wait id ((Entries.named? entries "wait").getD ((Entries.named? entries "seconds").getD (.int 0)))) = _
      ↔ _
  rw [givenId_of_given (hraw "id"), hgiven, show Entries.named? entries "wait" = none from hraw "wait"]
  -- A pause that is not given takes no time, which is another pause than the one of `None` seconds.
  cases seconds with
  | none => exact ⟨nofun, nofun⟩
  | _ => exact ⟨fun _ => rfl, fun _ => rfl⟩

theorem raw_signal (id : String) : element (Command.break id).toValue.toRaw = .ok (.command (.break id)) ∧
    element (Command.continue id).toValue.toRaw = .ok (.command (.continue id)) := by
  constructor <;> with_unfolding_all rfl

theorem raw_flow (body : Flow) :
    element (Command.flow id body).toValue.toRaw = .ok (.command (.flow id body)) ↔
      elements (rawAll (flowValues body)) = .ok body := by
  refine element_raw_iff ["id", "type", "flow"] rfl (by decide) fun raw entries hraw => ?_
  have hbody : flowUnder "flow" entries = _ := flowUnder_of_given (hraw "flow")
  have hid : (Entries.named entries "id").isNone = false := by
    rw [Entries.named, hraw "id"]
    rfl
  unfold command
  rw [commandType_of_given (hraw "type") rfl]
  change (if (Entries.named entries "id").isNone = true then Except.error _ else do
    let body ← flowUnder "flow" entries
    return Command.flow (← givenId entries "flow") body) = _ ↔ _
  rw [hid, if_neg Bool.false_ne_true, hbody, givenId_of_given (hraw "id")]
  exact made_of_one (f := fun body => Command.flow id body) fun h => (Command.flow.inj h).2

theorem raw_set {values : Fields} (hvalues : Fields.Plain values) :
    element (Command.set id values).toValue.toRaw = .ok (.command (.set id values)) := by
  refine element_raw_eq ["id", "type", "set"] rfl (by decide) fun raw entries hraw => ?_
  have hset : Entries.named entries "set" = .record values := by
    rw [Entries.named, hraw "set"]
    exact toRaw_record hvalues
  unfold command
  rw [commandType_of_given (hraw "type") rfl]
  change set _ entries = _
  rw [set, hset, givenId_of_given (hraw "id")]
  dsimp only [Value.record]
  change checked _ (FieldFault.under (.str "set") (Record.textEntries values.entries).1)
    (Command.set id (Record.textEntries values.entries).2) = _
  rw [textEntries_fields hvalues.distinct]
  rfl

theorem raw_iteration {init increment : Fields} {condition : Value} (hinit : Fields.Plain init)
    (hcondition : condition.recordFree = true) (hincrement : Fields.Plain increment) (body : Flow) :
    element (Command.iteration id init condition increment body).toValue.toRaw =
        .ok (.command (.iteration id init condition increment body)) ↔
      condition.isNone = false ∧ elements (rawAll (flowValues body)) = .ok body := by
  refine element_raw_iff ["id", "type", "init", "condition", "increment", "do"] rfl (by decide) fun raw entries hraw => ?_
  have hgiven : Entries.named? entries "condition" = condition.given := given_of_raw hcondition (hraw "condition")
  have hfirst : Entries.named entries "init" = .record init := by
    rw [Entries.named, hraw "init"]
    exact toRaw_record hinit
  have hnext : Entries.named entries "increment" = .record increment := by
    rw [Entries.named, hraw "increment"]
    exact toRaw_record hincrement
  have hbody : flowUnder "do" entries = _ := flowUnder_of_given (hraw "do")
  unfold command
  rw [commandType_of_given (hraw "type") rfl]
  change iteration _ entries (.under entries) = _ ↔ _
  rw [iteration, show Entries.named? entries "for" = none from hraw "for",
    show Entries.named? entries "while" = none from hraw "while",
    show Entries.named? entries "until" = none from hraw "until", hgiven, hfirst, hnext, givenEntries_record,
    givenEntries_record, givenId_of_given (hraw "id")]
  change (do
    let body ← flowUnder "do" entries
    checked _ (FieldFault.under (.str "init") (Record.textEntries init.entries).1 ++
        FieldFault.under (.str "increment") (Record.textEntries increment.entries).1)
      (Command.iteration id (Record.textEntries init.entries).2
        (condition.given.getD (.bool true)) (Record.textEntries increment.entries).2 body)) = _
      ↔ _
  rw [textEntries_fields hinit.distinct, textEntries_fields hincrement.distinct, hbody]
  constructor
  · intro h
    obtain ⟨body', hbody, h⟩ := bind_eq_ok.mp h
    -- A condition that is not given always holds, which is another condition than `None`.
    cases condition <;> cases h <;> exact ⟨rfl, hbody⟩
  · rintro ⟨hnone, hbody⟩
    rw [hbody, Value.given_eq_some hnone]
    rfl

theorem raw_case {value : Value} (hvalue : value.recordFree = true) (body : Flow) :
    «case» (Case.mk id value body).toValue.toRaw = .ok (.mk id value body) ↔
      elements (rawAll (flowValues body)) = .ok body := by
  let fields : Fields := [("id", .str id), ("case", value), ("do", .ofList (flowValues body))]
  have hraw : ∀ name, Entries.named? (rawFields .switchCase fields ++ rawExtras []).entries name =
      rawField .switchCase fields name := named?_rawFields ["id", "case", "do"] rfl (by decide)
  change «case» (.dict .anonymous (rawFields .switchCase fields ++ rawExtras []).entries) = _ ↔ _
  generalize Fields.entries _ = entries at hraw ⊢
  have hcase : Entries.named? entries "case" = value.given := given_of_raw hvalue (hraw "case")
  have hbody : flowUnder "do" entries = _ := flowUnder_of_given (hraw "do")
  have hid : Entries.named entries "id" = .str id := by
    rw [Entries.named, hraw "id"]
    rfl
  rw [«case», hid, named_of_given hcase, hbody]
  exact made_of_one (f := fun body => Case.mk id value body) fun h => (Case.mk.inj h).2.2

/-! ## Actions and items -/

/-- Reads back the actions that were written, if there were any. -/
def rereadActions (default : Value) : Actions → Except Error Actions
  | .absent => .ok .absent
  | .fixed list => do return .fixed (← actionList default (rawAll (actionValues list)))
  | .computed handler => .ok (.computed handler)

/-- Reads back the items that were written, if there were any. -/
def rereadItems : Items → Except Error Items
  | .absent => .ok .absent
  | .fixed list => do return .fixed (← itemList 0 (rawAll (itemValues list)))
  | .computed handler => .ok (.computed handler)

theorem toRaw_of_isCallable {v : Value} (h : v.isCallable = true) : v.toRaw = v :=
  Value.toRaw_of_recordFree v (Value.recordFree_of_isCallable h)

private theorem isNone_of_isCallable {v : Value} (h : v.isCallable = true) : v.isNone = false := by
  cases v <;> first | rfl | cases h

private theorem actions_of_isCallable {v : Value} (h : v.isCallable = true) (default : Value) :
    actions default v = .ok (.computed v) := by
  unfold actions
  cases v <;> exact if_pos h

private theorem items_of_isCallable {v : Value} (h : v.isCallable = true) : items v = .ok (.computed v) := by
  unfold items
  cases v <;> exact if_pos h

private theorem actionsUnder_of_given {as : Actions} (has : as.Canonical) (default : String)
    (h : Entries.named? entries "actions" = as.toValue.given.map Value.toRaw) :
    (if (Entries.named entries "actions").isNone = true then .ok .absent
      else actionsUnder default "actions" entries) = rereadActions (.str default) as := by
  rw [actionsUnder_eq, Entries.named, h]
  cases as with
  | absent => rfl
  | fixed list => rfl
  | computed v =>
    rw [Actions.toValue, Value.given_eq_some (isNone_of_isCallable has), Option.map_some, toRaw_of_isCallable has]
    exact (if_neg (by simp [Value.ofOption, isNone_of_isCallable has])).trans (actions_of_isCallable has _)

private theorem itemsUnder_of_given {is : Items} (his : is.Canonical)
    (h : Entries.named? entries "items" = is.toValue.given.map Value.toRaw) :
    (if (Entries.named entries "items").isNone = true then .ok .absent else itemsUnder "items" entries) =
      rereadItems is := by
  rw [itemsUnder_eq, Entries.named, h]
  cases is with
  | absent => rfl
  | fixed list => rfl
  | computed v =>
    rw [Items.toValue, Value.given_eq_some (isNone_of_isCallable his), Option.map_some, toRaw_of_isCallable his]
    exact (if_neg (by simp [Value.ofOption, isNone_of_isCallable his])).trans (items_of_isCallable his)

private theorem message_eq (raw : Value) (parts : Parts) (kind : MessageKind) :
    message raw entries parts kind =
      (if (Entries.named entries "actions").isNone = true then .ok .absent else parts.actions "reply" "actions") >>=
        fun actions =>
      (if (Entries.named entries "items").isNone = true then .ok .absent else parts.items "items") >>= fun items =>
      checked raw
        ((Record.field entries ["id"] (.ok kind.name) (Record.simple Record.text) "").1 ++
          (Record.extras entries messageFields).1)
        (.message kind (Record.field entries ["id"] (.ok kind.name) (Record.simple Record.text) "").2
          { text := Entries.named entries "text"
            mediaUrl := Record.value entries ["mediaUrl", "media_url"]
            mediaType := Record.value entries ["mediaType", "media_type"]
            extras := (Record.extras entries messageFields).2 } actions items) := by
  unfold message
  dsimp only
  split <;> split <;> rfl

def recordedMessage (kind : MessageKind) (id : String) (body : MessageBody) (as : Actions) (is : Items) : Fields :=
  [("id", .str id), ("text", body.text), ("media_url", body.mediaUrl), ("media_type", body.mediaType),
    ("actions", as.toValue), ("items", is.toValue), ("type", .str kind.name)]

private theorem alias_recordedMessage {kind : MessageKind} {body : MessageBody} {as : Actions} {is : Items} :
    (recordedMessage kind id body as is).map (fun field => kind.model.alias field.1) =
      ["id", "text", "mediaUrl", "mediaType", "actions", "items", "type"] := by
  cases kind <;> rfl

private theorem field_id_of_given (h : Entries.named? entries "id" = some (.str id))
    (missing : Except FieldDefect String)
    (default : String) : Record.field entries ["id"] missing (Record.simple Record.text) default = ([], id) := by
  unfold Record.field
  rw [Record.find?, h]
  rfl

theorem raw_message {kind : MessageKind} {body : MessageBody} (hbody : body.Canonical) {as : Actions}
    (has : as.Canonical) {is : Items} (his : is.Canonical) :
    element (Command.message kind id body as is).toValue.toRaw = .ok (.command (.message kind id body as is)) ↔
      Survive [("media_url", body.mediaUrl), ("media_type", body.mediaType)] body.extras ∧
        rereadActions (.str "reply") as = .ok as ∧ rereadItems is = .ok is := by
  have hurl : rawField kind.model (recordedMessage kind id body as is) "mediaUrl" = body.mediaUrl.given := by
    rw [← Value.given_map_toRaw hbody.mediaUrl]
    cases kind <;> rfl
  have htype : rawField kind.model (recordedMessage kind id body as is) "mediaType" = body.mediaType.given := by
    rw [← Value.given_map_toRaw hbody.mediaType]
    cases kind <;> rfl
  have hurl' : rawField kind.model (recordedMessage kind id body as is) "media_url" = none := by cases kind <;> rfl
  have htype' : rawField kind.model (recordedMessage kind id body as is) "media_type" = none := by cases kind <;> rfl
  have hwritten : Written kind.model (recordedMessage kind id body as is) body.extras messageFields
      [("media_url", body.mediaUrl), ("media_type", body.mediaType)] _ :=
    written_raw ["id", "text", "mediaUrl", "mediaType", "actions", "items", "type"] alias_recordedMessage (by decide)
      (by decide) hbody.extras (by simp [messageFields, hurl, htype])
      (by simp [messageFields, hurl, htype, hurl', htype'])
  rw [show (Command.message kind id body as is).toValue =
    .model kind.model (recordedMessage kind id body as is) body.extras from rfl, element_raw]
  generalize Fields.entries _ = entries at hwritten ⊢
  have hhead (name : String) (hname : [name] ∈ messageFields) := hwritten.head [name] hname name rfl
  have htext : Entries.named? entries "text" = body.text.given :=
    hwritten.single (by decide) hbody.text (by cases kind <;> rfl)
  have hid : Entries.named? entries "id" = some (.str id) := (hhead "id" (by decide)).trans (by cases kind <;> rfl)
  have hactions := actionsUnder_of_given has "reply" ((hhead "actions" (by decide)).trans (by cases kind <;> rfl))
  have hitems := itemsUnder_of_given his ((hhead "items" (by decide)).trans (by cases kind <;> rfl))
  have hcommand (raw : Value) : command raw entries (.under entries) = message raw entries (.under entries) kind := by
    have hword : Entries.named? entries "type" = some (.str kind.name) :=
      (hhead "type" (by decide)).trans (by cases kind <;> rfl)
    unfold command
    rw [commandType_of_given hword (by cases kind <;> rfl)]
    cases kind <;> rfl
  rw [hcommand, message_eq, field_id_of_given hid, named_of_given htext, hwritten.faults]
  dsimp only [Parts.under]
  rw [hactions, hitems]
  constructor
  · intro h
    obtain ⟨as', hactions, h⟩ := bind_eq_ok.mp h
    obtain ⟨is', hitems, h⟩ := bind_eq_ok.mp h
    have hcommand := Except.ok.inj h
    obtain ⟨-, -, hsame, rfl, rfl⟩ := Command.message.inj hcommand
    exact ⟨hwritten.kept.mp (congrArg MessageBody.extras hsame), hactions, hitems⟩
  · rintro ⟨hsurvive, hactions, hitems⟩
    have hmediaUrl := hwritten.either List.mem_cons_self (by simp [messageFields]) hurl hsurvive
    have hmediaType := hwritten.either (List.mem_cons_of_mem _ List.mem_cons_self) (by simp [messageFields]) htype
      hsurvive
    rw [hactions, hitems, hwritten.kept.mpr hsurvive, hmediaUrl, hmediaType]
    rfl

private theorem actionType_of_given {word : String} (h : Entries.named? entries "type" = some (.str word))
    (hword : word.isEmpty = false) (default : Value) : actionType entries default = .str word := by
  unfold actionType
  rw [Entries.named, h]
  exact if_pos (by simpa [Value.ofOption, Value.truthy] using hword)

private theorem ownId_of_given {own : Option String} (h : Entries.named? entries "id" = (Value.ofText? own).given)
    (identity : Identity) : ownId (.dict identity entries) = .ok own := by
  change (if (Entries.named entries "id").isNone = true then .ok none
    else do return some (← idText (Entries.named entries "id"))) = _
  rw [named_of_given h]
  cases own <;> rfl

def recordedActionFields (info : ActionInfo) (flow : Option Flow) : Fields :=
  [("id", .ofText? info.id), ("type", .str info.kind.name), ("text", info.text), ("uri", info.uri),
    ("payload", info.payload), ("amount", info.amount), ("currency", info.currency),
    ("then", optionalFlowValue flow), ("then_flow", info.thenFlow)]

private theorem actionInfo_of_given {info : ActionInfo} (hinfo : info.Canonical)
    (hid : Entries.named? entries "id" = (Value.ofText? info.id).given)
    (htext : Entries.named? entries "text" = info.text.given) (hfaults : (Record.extras entries actionFields).1 = [])
    (raw : Value) (flow : Except Error (Option Flow)) :
    actionInfo raw entries info.id false info.kind flow = do
      return .mk { info with
        uri := Entries.named entries "uri"
        payload := Entries.named entries "payload"
        amount := Entries.named entries "amount"
        currency := Entries.named entries "currency"
        thenFlow := Record.value entries ["thenFlow", "then_flow"]
        extras := (Record.extras entries actionFields).2 } (← flow) := by
  have hlabel : (if info.kind == .share then Value.none else if !info.text.isNone then info.text
      else .ofText? (if false && info.id.isSome then info.id else info.id)) = info.text := by
    by_cases hshare : info.kind = .share
    · rw [hinfo.shared hshare, if_pos (by simp [hshare])]
    · rw [if_neg (by simpa using hshare)]
      cases hnone : info.text.isNone with
      | false => rfl
      | true =>
        have htext : info.text = .none := by
          cases htext : info.text <;> first | rfl | simp [htext, Value.isNone] at hnone
        rw [htext, hinfo.labelled hshare htext]
        rfl
  unfold actionInfo
  rw [hid, named_of_given htext]
  extract_lets given withId
  have hread : withId info.id = flow >>= fun flow =>
      .ok (.mk { info with
        uri := Entries.named entries "uri"
        payload := Entries.named entries "payload"
        amount := Entries.named entries "amount"
        currency := Entries.named entries "currency"
        thenFlow := Record.value entries ["thenFlow", "then_flow"]
        extras := (Record.extras entries actionFields).2 } flow) := by
    refine congrArg (flow >>= ·) (funext fun flow => ?_)
    dsimp only
    rw [hfaults, hlabel]
    rfl
  refine Eq.trans ?_ hread
  cases hown : info.id with
  | none => rfl
  | some own => rfl

theorem raw_action {info : ActionInfo} (hinfo : info.Canonical) (flow : Option Flow) (default : Value) :
    (ownId (Action.mk info flow).toValue.toRaw >>= fun own => action default own false (Action.mk info flow).toValue.toRaw) =
        .ok (.mk info flow) ↔
      Survive [("then_flow", info.thenFlow)] info.extras ∧ ∀ f ∈ flow, elements (rawAll (flowValues f)) = .ok f := by
  have hthen : rawField .action (recordedActionFields info flow) "thenFlow" = info.thenFlow.given :=
    Value.given_map_toRaw hinfo.thenFlow
  have hthen' : rawField .action (recordedActionFields info flow) "then_flow" = none := rfl
  have hwritten : Written .action (recordedActionFields info flow) info.extras actionFields
      [("then_flow", info.thenFlow)] _ :=
    written_raw ["id", "type", "text", "uri", "payload", "amount", "currency", "then", "thenFlow"] rfl (by decide)
      (by decide) hinfo.extras (by simp [actionFields, hthen]) (by simp [actionFields, hthen, hthen'])
  rw [← rereadOption_eq_ok, show (Action.mk info flow).toValue.toRaw =
    .dict .anonymous (rawFields .action (recordedActionFields info flow) ++ rawExtras info.extras).entries from rfl]
  generalize Fields.entries _ = entries at hwritten ⊢
  have hid : Entries.named? entries "id" = (Value.ofText? info.id).given :=
    hwritten.single (by decide) (Value.recordFree_ofText? info.id) rfl
  have htype : Entries.named? entries "type" = some (.str info.kind.name) := hwritten.head ["type"] (by decide) _ rfl
  have hflow : (if (Entries.named entries "then").isNone = true then .ok none
      else do return some (← flowUnder "then" entries)) = rereadOption flow :=
    givenFlow_of_given (hwritten.head ["then"] (by decide) _ rfl)
  have hread : (ownId (.dict .anonymous entries) >>= fun own => action default own false (.dict .anonymous entries)) = do
      return .mk { info with
        thenFlow := Record.value entries ["thenFlow", "then_flow"]
        extras := (Record.extras entries actionFields).2 } (← rereadOption flow) := by
    rw [ownId_of_given hid]
    change action default info.id false (.dict .anonymous entries) = _
    unfold action
    rw [actionType_of_given htype (by cases info.kind <;> rfl), actionKind_name]
    dsimp only
    rw [hflow, actionInfo_of_given hinfo hid (hwritten.single (by decide) hinfo.text rfl) hwritten.faults,
      named_of_given (hwritten.single (by decide) hinfo.uri rfl),
      named_of_given (hwritten.single (by decide) hinfo.payload rfl),
      named_of_given (hwritten.single (by decide) hinfo.amount rfl),
      named_of_given (hwritten.single (by decide) hinfo.currency rfl)]
  rw [hread]
  constructor
  · intro h
    obtain ⟨flow', hflow, h⟩ := bind_eq_ok.mp h
    obtain ⟨hsame, rfl⟩ := Action.mk.inj (Except.ok.inj h)
    exact ⟨hwritten.kept.mp (congrArg ActionInfo.extras hsame), hflow⟩
  · rintro ⟨hsurvive, hflow⟩
    rw [hflow, hwritten.either List.mem_cons_self (by simp [actionFields]) hthen hsurvive, hwritten.kept.mpr hsurvive]
    rfl

def recordedItemFields (info : ItemInfo) (as : Actions) : Fields :=
  [("id", .ofText? info.id), ("title", info.title), ("description", info.description), ("media_url", info.mediaUrl),
    ("media_type", info.mediaType), ("actions", as.toValue)]

private theorem itemId_eq_iff {own : Option String} (hown : own.isSome = true) (position : Nat) :
    some ((own.filter (!·.isEmpty)).getD (Number.intText position)) = own ↔ own ≠ some "" := by
  obtain ⟨id, rfl⟩ := Option.isSome_iff_exists.mp hown
  by_cases hempty : id = ""
  · subst hempty
    have hposition : Number.intText position ≠ "" := fun heq =>
      absurd (heq ▸ FlowKey.isSegment_intText position) (by decide)
    have hfilter : (some "").filter (fun s : String => !s.isEmpty) = none := by decide
    rw [hfilter]
    simpa using hposition
  · simp [Option.filter, hempty]

theorem raw_item {info : ItemInfo} (hinfo : info.Canonical) {as : Actions} (has : as.Canonical) (position : Nat) :
    (ownId (Item.mk info as).toValue.toRaw >>= fun own =>
        item ((own.filter (!·.isEmpty)).getD (Number.intText position)) none (Item.mk info as).toValue.toRaw) =
          .ok (.mk info as) ↔
      info.id ≠ some "" ∧ Survive [("media_url", info.mediaUrl), ("media_type", info.mediaType)] info.extras ∧
        rereadActions (.str "postback") as = .ok as := by
  have hurl : rawField .item (recordedItemFields info as) "mediaUrl" = info.mediaUrl.given :=
    Value.given_map_toRaw hinfo.mediaUrl
  have htype : rawField .item (recordedItemFields info as) "mediaType" = info.mediaType.given :=
    Value.given_map_toRaw hinfo.mediaType
  have hurl' : rawField .item (recordedItemFields info as) "media_url" = none := rfl
  have htype' : rawField .item (recordedItemFields info as) "media_type" = none := rfl
  have hwritten : Written .item (recordedItemFields info as) info.extras itemFields
      [("media_url", info.mediaUrl), ("media_type", info.mediaType)] _ :=
    written_raw ["id", "title", "description", "mediaUrl", "mediaType", "actions"] rfl (by decide) (by decide)
      hinfo.extras (by simp [itemFields, hurl, htype]) (by simp [itemFields, hurl, htype, hurl', htype'])
  rw [← itemId_eq_iff hinfo.id position, show (Item.mk info as).toValue.toRaw =
    .dict .anonymous (rawFields .item (recordedItemFields info as) ++ rawExtras info.extras).entries from rfl]
  generalize Fields.entries _ = entries at hwritten ⊢
  have hid : Entries.named? entries "id" = (Value.ofText? info.id).given :=
    hwritten.single (by decide) (Value.recordFree_ofText? info.id) rfl
  have hactions := actionsUnder_of_given has "postback" (hwritten.head ["actions"] (by decide) _ rfl)
  have htitle : (if info.title.isNone = true then Value.ofText? none else info.title) = info.title := by
    cases info.title <;> rfl
  generalize hown : (info.id.filter (!·.isEmpty)).getD (Number.intText position) = own
  have hread : (ownId (.dict .anonymous entries) >>= fun id =>
      item ((id.filter (!·.isEmpty)).getD (Number.intText position)) none (.dict .anonymous entries)) = do
      return .mk { info with
        id := some own
        mediaUrl := Record.value entries ["mediaUrl", "media_url"]
        mediaType := Record.value entries ["mediaType", "media_type"]
        extras := (Record.extras entries itemFields).2 } (← rereadActions (.str "postback") as) := by
    rw [ownId_of_given hid]
    change item ((info.id.filter (!·.isEmpty)).getD (Number.intText position)) none (.dict .anonymous entries) = _
    rw [hown]
    unfold item
    rw [hactions]
    unfold itemInfo
    refine congrArg (rereadActions (.str "postback") as >>= ·) (funext fun actions => ?_)
    dsimp only
    rw [hwritten.faults, named_of_given (hwritten.single (by decide) hinfo.title rfl), htitle,
      named_of_given (hwritten.single (by decide) hinfo.description rfl)]
    rfl
  rw [hread]
  constructor
  · intro h
    obtain ⟨as', hactions, h⟩ := bind_eq_ok.mp h
    obtain ⟨hsame, rfl⟩ := Item.mk.inj (Except.ok.inj h)
    exact ⟨congrArg ItemInfo.id hsame, hwritten.kept.mp (congrArg ItemInfo.extras hsame), hactions⟩
  · rintro ⟨hsame, hsurvive, hactions⟩
    have hmediaUrl := hwritten.either List.mem_cons_self (by simp [itemFields]) hurl hsurvive
    have hmediaType := hwritten.either (List.mem_cons_of_mem _ List.mem_cons_self) (by simp [itemFields]) htype hsurvive
    rw [hactions, hmediaUrl, hmediaType, hwritten.kept.mpr hsurvive, hsame]
    rfl

end Normal

end Colloquy
