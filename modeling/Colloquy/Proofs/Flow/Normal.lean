import Colloquy.Dialog.Flows
import Colloquy.Proofs.Compile.Growth
import Colloquy.Proofs.Flow.Extras
import Colloquy.Proofs.Flow.Reads

/-!
# What normal forms hold

Whatever is written in the place of a flow, reading it either fails with an ordinary error or gives a flow
in which messages, actions and items have extra fields of other names than their own fields.
-/

namespace Colloquy

def SparesFields (fields : List (List String)) (extras : Fields) : Prop := ∀ entry ∈ extras, [entry.1] ∉ fields

private theorem sparesFields_nil (fields : List (List String)) : SparesFields fields [] := List.forall_mem_nil _

namespace Normal

/-- Extra fields have other names than the fields of what they belong to. -/
def spares : ExtrasRule where
  message := SparesFields messageFields
  action := SparesFields actionFields
  item := SparesFields itemFields

theorem idText_ordinary (v : Value) : Ordinary (idText v) := .liftFault _

theorem givenId_ordinary (entries : Entries) (default : String) : Ordinary (givenId entries default) :=
  .ite (fun _ => trivial) fun _ => idText_ordinary _

theorem checked_reads {α : Type} {P : α → Prop} {a : α} (h : P a) (raw : Value) (faults : List FieldFault) :
    Reads P (checked raw faults a) := .ite (fun _ => h) fun _ => rfl

theorem ownId_ordinary (v : Value) : Ordinary (ownId v) :=
  .ite (fun _ => trivial) fun _ => (idText_ordinary _).bind fun _ _ => trivial

private theorem givenEntries_ordinary (v : Value) : Ordinary (givenEntries v) :=
  .ite (fun _ => .liftFault _) fun _ => trivial

theorem along_ordinary (name : Value) : Ordinary (Accessor.along name) := by
  unfold Accessor.along
  split <;> trivial

theorem described_ordinary (step : Access) : Ordinary (Accessor.described step) :=
  .ite (fun _ => rfl) fun _ => trivial

private theorem ofVariable_ordinary (id : Identity) (name : Value) (further : Access) :
    Ordinary (Accessor.ofVariable id name further) :=
  (along_ordinary name).bind fun _ _ => (described_ordinary further).bind fun _ _ => trivial

/-! ## Extra fields -/

private theorem recordedExtras_spares (known : List (List String)) (extras : Fields) :
    SparesFields known (recordedExtras known extras) := by
  intro entry hentry
  simpa [recordedExtras] using (List.mem_filter.mp hentry).2

theorem mem_putField {fields : Fields} {name : String} {v : Value} {entry : String × Value}
    (h : entry ∈ Record.putField fields name v) : entry ∈ fields ∨ entry.1 = name :=
  (mem_putNamed (putField_eq .. ▸ h)).imp_right (congrArg Prod.fst)

private theorem find?_singleton {entries : Entries} {k v : Value} {name : String} (hmem : (k, v) ∈ entries)
    (hk : k.text? = some name) : ∃ found, Record.find? entries [name] = some (name, found) := by
  have hsame : k.same (.str name) = true := by simp [Value.same_str, hk]
  cases hfind : Entries.named? entries name with
  | some found => exact ⟨found, by simp [Record.find?, hfind]⟩
  | none =>
    have hnone := List.find?_eq_none.mp (Option.map_eq_none_iff.mp hfind) (k, v) hmem
    exact absurd hsame hnone

private theorem extras_spares (entries : Entries) (fields : List (List String)) :
    SparesFields fields (Record.extras entries fields).2 := by
  unfold Record.extras
  dsimp only
  refine List.foldlRecOn (motive := fun acc : List FieldFault × Fields => SparesFields fields acc.2) entries _
    (fun _ hentry => absurd hentry List.not_mem_nil) ?_
  rintro ⟨faults, kept⟩ hkept ⟨k, v⟩ hmem
  dsimp only
  cases hk : k.text? with
  | none => exact hkept
  | some name =>
    dsimp only
    split
    · exact hkept
    · rename_i hunused
      intro entry hentry
      rcases mem_putField hentry with hold | heq
      · exact hkept entry hold
      · intro hfield
        obtain ⟨found, hfind⟩ := find?_singleton hmem hk
        rw [heq] at hfield
        refine hunused (List.contains_iff_mem.mpr (List.mem_filterMap.mpr ⟨_, hfield, ?_⟩))
        simp [hfind]

/-! ## Commands -/

/-- The nested parts of a mapping follow a rule, or they fail with ordinary errors. -/
structure Parts.Sound (parts : Parts) : Prop where
  flow : ∀ name, Reads (FlowFollows spares) (parts.flow name)
  actions : ∀ default name, Reads (Actions.Follows spares) (parts.actions default name)
  items : ∀ name, Reads (Items.Follows spares) (parts.items name)
  cases : ∀ name, Reads (CasesFollow spares) (parts.cases name)

private theorem givenFlow_reads {parts : Parts} (h : parts.Sound) (entries : Entries) (name : String) :
    Reads (OptionFollows spares) (givenFlow entries parts name) :=
  .ite (fun _ => trivial) fun _ => (h.flow name).bind fun _ hflow => hflow

private theorem message_reads {parts : Parts} (h : parts.Sound) (raw : Value) (entries : Entries) (kind : MessageKind) :
    Reads (Command.Follows spares) (message raw entries parts kind) := by
  unfold message
  dsimp only
  refine .branch (P := Actions.Follows spares) (fun _ => trivial) (fun _ => h.actions _ _) fun actions hactions => ?_
  refine .branch (P := Items.Follows spares) (fun _ => trivial) (fun _ => h.items _) fun items hitems => ?_
  exact checked_reads ⟨extras_spares entries messageFields, hactions, hitems⟩ _ _

private theorem conditional_reads {parts : Parts} (h : parts.Sound) (entries : Entries) :
    Reads (Command.Follows spares) (conditional entries parts) :=
  (h.flow _).bind fun _ hyes => (h.flow _).bind fun _ hno => (givenId_ordinary _ _).bind fun _ _ => ⟨hyes, hno⟩

private theorem switch_reads {parts : Parts} (h : parts.Sound) (raw : Value) (entries : Entries) :
    Reads (Command.Follows spares) (switch raw entries parts) := by
  unfold switch
  split
  · rfl
  · dsimp only
    refine .branch (P := CasesFollow spares) (fun _ => h.cases _) (fun _ => trivial) fun cases hcases => ?_
    refine (givenFlow_reads h _ _).bind fun default hdefault => ?_
    exact (givenId_ordinary _ _).bind fun _ _ => ⟨hcases, hdefault⟩

private theorem forClause_ordinary (id : Identity) (clause : Value) : Ordinary (forClause id clause) := by
  unfold forClause
  extract_lets fail withParts
  have hfail {α : Type} (d : CommandDefect) : Ordinary (fail (α := α) d) := rfl
  have hparts (parts : List Value) : Ordinary (withParts parts) := by
    unfold withParts
    extract_lets limit withInit
    have hinit (init : Entries) : Ordinary (withInit init) := by
      unfold withInit
      extract_lets first required withCondition
      have hrequired : Ordinary required := .ite (fun _ => hfail _) fun _ => trivial
      have hcondition (condition : Value) : Ordinary (withCondition condition) := by
        unfold withCondition
        extract_lets withIncrement
        have hincrement (increment : Entries) : Ordinary (withIncrement increment) := trivial
        split
        · exact hincrement _
        · exact hincrement _
        · exact .ite (fun _ => hrequired.bind fun _ _ => hincrement _) fun _ => (hfail _).bind fun _ _ => hincrement _
      refine .ite (fun _ => hcondition _) fun _ => .ite (fun _ => ?_) fun _ => hcondition _
      exact hrequired.bind fun first _ => (ofVariable_ordinary _ _ _).bind fun _ _ => hcondition _
    split
    · exact hinit _
    · exact hinit _
    · exact hinit _
    · exact hinit _
    · exact (hfail _).bind fun _ _ => hinit _
  split
  · exact .branch (P := fun _ => True) (fun _ => trivial) (fun _ => hfail _) fun parts _ => hparts parts
  · exact (hfail _).bind fun parts _ => hparts parts

private theorem iteration_reads {parts : Parts} (h : parts.Sound) (raw : Value) (entries : Entries) :
    Reads (Command.Follows spares) (iteration raw entries parts) := by
  unfold iteration
  dsimp only
  have hrest (clause : Clause) : Reads (Command.Follows spares) (do
      let body ← parts.flow "do"
      let id ← givenId entries "loop"
      checked raw
        (FieldFault.under (.str "init") (Record.textEntries clause.1).1 ++
          FieldFault.under (.str "increment") (Record.textEntries clause.2.2).1)
        (.iteration id (Record.textEntries clause.1).2 clause.2.1 (Record.textEntries clause.2.2).2 body)) :=
    (h.flow _).bind fun body hbody => (givenId_ordinary _ _).bind fun id _ =>
      checked_reads (P := Command.Follows spares) (a := .iteration id _ _ _ body) hbody _ _
  split
  · exact (forClause_ordinary _ _).bind fun clause _ => hrest clause
  · refine (givenEntries_ordinary _).bind fun init _ => (givenEntries_ordinary _).bind fun increment _ => ?_
    exact hrest (init, _, increment)

private theorem set_reads (raw : Value) (entries : Entries) : Reads (Command.Follows spares) (set raw entries) := by
  unfold set
  split
  · exact (givenId_ordinary _ _).bind fun _ _ => checked_reads trivial _ _
  · rfl

private theorem command_reads {parts : Parts} (h : parts.Sound) (raw : Value) (entries : Entries) :
    Reads (Command.Follows spares) (command raw entries parts) := by
  unfold command
  dsimp only
  split
  · rfl
  · split
    · exact message_reads h _ _ _
    · split
      · exact conditional_reads h _
      · exact switch_reads h _ _
      · exact iteration_reads h _ _
      · exact (givenFlow_reads h _ _).bind fun _ hresume => (givenId_ordinary _ _).bind fun _ _ => hresume
      · exact (givenId_ordinary _ _).bind fun _ _ => trivial
      · exact set_reads _ _
      · exact (givenId_ordinary _ _).bind fun _ _ => trivial
      · exact (givenId_ordinary _ _).bind fun _ _ => trivial
      · exact (givenId_ordinary _ _).bind fun _ _ => trivial
      · exact (givenId_ordinary _ _).bind fun _ _ => trivial
      · refine .ite (fun _ => rfl) fun _ => ?_
        exact (h.flow _).bind fun _ hbody => (givenId_ordinary _ _).bind fun _ _ => hbody
      · rfl

private theorem actionInfo_reads (raw : Value) (entries : Entries) (key : Option String) (keyIsText : Bool)
    (kind : ActionKind) {flow : Except Error (Option Flow)} (hflow : Reads (OptionFollows spares) flow) :
    Reads (Action.Follows spares) (actionInfo raw entries key keyIsText kind flow) := by
  unfold actionInfo
  extract_lets given withId
  have hid (id : Option String) : Reads (Action.Follows spares) (withId id) := by
    refine hflow.bind fun flow hflow => ?_
    exact .ite (fun _ => rfl) fun _ => ⟨extras_spares entries actionFields, hflow⟩
  split
  · exact hid _
  · exact hid _
  · exact (idText_ordinary _).bind fun id _ => hid _

private theorem flowAction_reads (key : Option String) (default : Value) {flow : Flow}
    (hflow : FlowFollows spares flow) :
    Reads (Action.Follows spares) (flowAction key default flow) := by
  unfold flowAction
  split
  · exact ⟨sparesFields_nil _, hflow⟩
  · rfl

private theorem itemInfo_reads (raw : Value) (entries : Entries) (id : String) (title : Option String)
    {actions : Except Error Actions} (hactions : Reads (Actions.Follows spares) actions) :
    Reads (Item.Follows spares) (itemInfo raw entries id title actions) := by
  refine hactions.bind fun actions hactions => ?_
  exact .ite (fun _ => rfl) fun _ => ⟨extras_spares entries itemFields, hactions⟩

/-! ## Records -/

/-- The nested parts of a record follow the rule. -/
structure Recorded.Sound (parts : Recorded) : Prop where
  flow : ∀ name, OptionFollows spares (parts.flow name)
  actions : parts.actions.Follows spares
  items : parts.items.Follows spares
  cases : CasesFollow spares parts.cases

private theorem flowFollows_getD {r : ExtrasRule} {flow : Option Flow} (h : OptionFollows r flow) :
    FlowFollows r (flow.getD []) := by
  cases flow with
  | none => trivial
  | some flow => exact h

private theorem recordedCommand_follows {parts : Recorded} (h : parts.Sound) {kind : ModelKind} {fields extras : Fields}
    {c : Command} (hc : recordedCommand kind fields extras parts = some c) : c.Follows spares := by
  have hmessage (kind : MessageKind) (body : MessageBody) (id : String)
      (hbody : body.extras = recordedExtras messageFields extras) :
      (Command.message kind id body parts.actions parts.items).Follows spares :=
    ⟨hbody ▸ recordedExtras_spares messageFields extras, h.actions, h.items⟩
  cases kind <;> cases hc
  case textMessage | imageMessage | listMessage | carouselMessage => exact hmessage _ _ _ rfl
  case conditional => exact ⟨flowFollows_getD (h.flow _), flowFollows_getD (h.flow _)⟩
  case switch => exact ⟨h.cases, h.flow _⟩
  case iteration | flow => exact flowFollows_getD (h.flow _)
  case start => exact h.flow _
  all_goals trivial

private theorem kept_follows (source : Value) {meaning : Except Error Element}
    (h : Reads (Element.Follows spares) meaning) :
    (kept source meaning).Follows spares := by
  unfold kept
  split
  · exact h
  · trivial
  · exact h
  · trivial

/-! ## Whatever is written -/

-- The recursion is along the value, as in the readers. The value is taken apart by `cases`: after `split` it would not
-- be known that what it holds is smaller.
mutual

theorem element_reads (v : Value) : Reads (Element.Follows spares) (element v) := by
  cases v with
  | str | markup => exact ⟨sparesFields_nil _, trivial, trivial⟩
  | model kind fields extras =>
    rw [element]
    cases hc : recordedCommand kind fields extras _ with
    | none => rfl
    | some c =>
      exact recordedCommand_follows ⟨fun name => fieldFlow_follows name fields, fieldActions_follows fields,
        fieldItems_follows fields, fieldCases_follows fields⟩ hc
  | dict id entries =>
    exact (command_reads ⟨fun name => flowUnder_reads name entries,
      fun default name => actionsUnder_reads default name entries, fun name => itemsUnder_reads name entries,
      fun name => casesUnder_reads name entries⟩ _ _).bind fun _ hc => hc
  | _ =>
    unfold element
    exact .ite (fun _ => trivial) fun _ => rfl
termination_by structural v

private theorem flow_reads (v : Value) : Reads (FlowFollows spares) (flow v) := by
  cases v with
  | none => trivial
  | list _ vs | tuple vs => exact elements_reads vs
  | str | markup => exact ⟨⟨sparesFields_nil _, trivial, trivial⟩, trivial⟩
  | model kind fields extras =>
    rw [flow]
    cases hc : recordedCommand kind fields extras _ with
    | none => rfl
    | some c =>
      exact ⟨recordedCommand_follows ⟨fun name => fieldFlow_follows name fields, fieldActions_follows fields,
        fieldItems_follows fields, fieldCases_follows fields⟩ hc, trivial⟩
  | dict id entries =>
    exact (command_reads ⟨fun name => flowUnder_reads name entries,
      fun default name => actionsUnder_reads default name entries, fun name => itemsUnder_reads name entries,
      fun name => casesUnder_reads name entries⟩ _ _).bind fun _ hc => ⟨hc, trivial⟩
  | _ =>
    unfold flow
    exact .ite (fun _ => ⟨trivial, trivial⟩) fun _ => rfl
termination_by structural v

theorem elements_reads (vs : List Value) : Reads (FlowFollows spares) (elements vs) := by
  match vs with
  | [] => trivial
  | v :: vs => exact (element_reads v).bind fun _ he => (elements_reads vs).bind fun _ hrest => ⟨he, hrest⟩
termination_by structural vs

theorem flowUnder_reads (name : String) (entries : Entries) : Reads (FlowFollows spares) (flowUnder name entries) := by
  match entries with
  | [] => trivial
  | (k, v) :: rest => exact .ite (fun _ => flow_reads v) fun _ => flowUnder_reads name rest
termination_by structural entries

theorem actions_reads (default v : Value) : Reads (Actions.Follows spares) (actions default v) := by
  cases v with
  | list _ vs | tuple vs => exact (actionList_reads default vs).bind fun _ h => h
  | dict _ entries => exact (actionMap_reads default entries).bind fun _ h => h
  | _ =>
    unfold actions
    exact .ite (fun _ => trivial) fun _ => rfl
termination_by structural v

theorem actionList_reads (default : Value) (vs : List Value) :
    Reads (ActionsFollow spares) (actionList default vs) := by
  match vs with
  | [] => trivial
  | v :: vs =>
    refine (ownId_ordinary v).bind fun id _ => (action_reads default id false v).bind fun _ ha => ?_
    exact (actionList_reads default vs).bind fun _ hrest => ⟨ha, hrest⟩
termination_by structural vs

theorem actionMap_reads (default : Value) (entries : Entries) :
    Reads (ActionsFollow spares) (actionMap default entries) := by
  match entries with
  | [] => trivial
  | (k, v) :: rest =>
    refine (idText_ordinary k).bind fun id _ => (action_reads default (some id) true v).bind fun _ ha => ?_
    exact (actionMap_reads default rest).bind fun _ hrest => ⟨ha, hrest⟩
termination_by structural entries

theorem actionsUnder_reads (default name : String) (entries : Entries) :
    Reads (Actions.Follows spares) (actionsUnder default name entries) := by
  match entries with
  | [] => trivial
  | (k, v) :: rest => exact .ite (fun _ => actions_reads _ v) fun _ => actionsUnder_reads default name rest
termination_by structural entries

theorem action_reads (default : Value) (key : Option String) (keyIsText : Bool) (v : Value) :
    Reads (Action.Follows spares) (action default key keyIsText v) := by
  cases v with
  | model kind fields extras =>
    unfold action
    split
    · exact ⟨recordedExtras_spares actionFields extras, fieldFlow_follows "then" fields⟩
    · cases hc : recordedCommand _ fields extras _ with
      | none => rfl
      | some c =>
        exact flowAction_reads key default ⟨recordedCommand_follows
          ⟨fun name => fieldFlow_follows name fields, fieldActions_follows fields, fieldItems_follows fields,
            fieldCases_follows fields⟩ hc, trivial⟩
  | dict id entries =>
    unfold action
    split
    · refine actionInfo_reads _ _ _ _ _ (.ite (fun _ => trivial) fun _ => ?_)
      exact (flowUnder_reads "then" entries).bind fun _ h => h
    · refine .ite (fun _ => rfl) fun _ => .ite (fun _ => ?_) fun _ => rfl
      refine (command_reads ⟨fun name => flowUnder_reads name entries,
        fun default name => actionsUnder_reads default name entries, fun name => itemsUnder_reads name entries,
        fun name => casesUnder_reads name entries⟩ _ _).bind ?_
      exact fun _ hc => flowAction_reads key default ⟨hc, trivial⟩
  | list _ vs | tuple vs => exact (elements_reads vs).bind fun _ h => flowAction_reads key default h
  | str | markup => exact flowAction_reads key default ⟨⟨sparesFields_nil _, trivial, trivial⟩, trivial⟩
  | _ =>
    unfold action
    exact .ite (fun _ => flowAction_reads key default ⟨trivial, trivial⟩) fun _ => rfl
termination_by structural v

theorem items_reads (v : Value) : Reads (Items.Follows spares) (items v) := by
  cases v with
  | list _ vs | tuple vs => exact (itemList_reads 0 vs).bind fun _ h => h
  | dict _ entries => exact (itemMap_reads entries).bind fun _ h => h
  | _ =>
    unfold items
    exact .ite (fun _ => trivial) fun _ => rfl
termination_by structural v

theorem itemList_reads (position : Nat) (vs : List Value) : Reads (ItemsFollow spares) (itemList position vs) := by
  match vs with
  | [] => trivial
  | v :: vs =>
    refine (ownId_ordinary v).bind fun id _ => (item_reads _ none v).bind fun _ hi => ?_
    exact (itemList_reads (position + 1) vs).bind fun _ hrest => ⟨hi, hrest⟩
termination_by structural vs

theorem itemMap_reads (entries : Entries) : Reads (ItemsFollow spares) (itemMap entries) := by
  match entries with
  | [] => trivial
  | (k, v) :: rest =>
    refine (idText_ordinary k).bind fun key _ => (item_reads key (some key) v).bind fun _ hi => ?_
    exact (itemMap_reads rest).bind fun _ hrest => ⟨hi, hrest⟩
termination_by structural entries

theorem itemsUnder_reads (name : String) (entries : Entries) :
    Reads (Items.Follows spares) (itemsUnder name entries) := by
  match entries with
  | [] => trivial
  | (k, v) :: rest => exact .ite (fun _ => items_reads v) fun _ => itemsUnder_reads name rest
termination_by structural entries

theorem item_reads (id : String) (title : Option String) (v : Value) :
    Reads (Item.Follows spares) (item id title v) := by
  cases v with
  | model kind fields extras =>
    exact .ite (fun _ => ⟨recordedExtras_spares itemFields extras, fieldActions_follows fields⟩) fun _ => rfl
  | dict _ entries =>
    exact itemInfo_reads _ _ _ _ (.ite (fun _ => trivial) fun _ => actionsUnder_reads _ _ entries)
  | _ => rfl
termination_by structural v

theorem cases_reads (v : Value) : Reads (CasesFollow spares) (cases v) := by
  cases v with
  | list _ vs | tuple vs => exact caseList_reads vs
  | dict _ entries => exact caseMap_reads entries
  | _ => rfl
termination_by structural v

theorem caseList_reads (vs : List Value) : Reads (CasesFollow spares) (caseList vs) := by
  match vs with
  | [] => trivial
  | v :: vs => exact (case_reads v).bind fun _ hc => (caseList_reads vs).bind fun _ hrest => ⟨hc, hrest⟩
termination_by structural vs

theorem caseMap_reads (entries : Entries) : Reads (CasesFollow spares) (caseMap entries) := by
  match entries with
  | [] => trivial
  | (k, v) :: rest =>
    refine (idText_ordinary k).bind fun id _ => (flow_reads v).bind fun _ hbody => ?_
    exact (caseMap_reads rest).bind fun _ hrest => ⟨hbody, hrest⟩
termination_by structural entries

theorem casesUnder_reads (name : String) (entries : Entries) :
    Reads (CasesFollow spares) (casesUnder name entries) := by
  match entries with
  | [] => trivial
  | (k, v) :: rest => exact .ite (fun _ => cases_reads v) fun _ => casesUnder_reads name rest
termination_by structural entries

theorem case_reads (v : Value) : Reads (Case.Follows spares) («case» v) := by
  cases v with
  | model kind fields extras =>
    exact .ite (fun _ => flowFollows_getD (fieldFlow_follows "do" fields)) fun _ => rfl
  | dict _ entries =>
    refine .ite (fun _ => rfl) fun _ => (idText_ordinary _).bind fun id _ => ?_
    exact (flowUnder_reads "do" entries).bind fun _ hbody => hbody
  | _ => rfl
termination_by structural v

theorem fieldFlow_follows (name : String) (fields : Fields) : OptionFollows spares (fieldFlow name fields) := by
  match fields with
  | [] => trivial
  | (k, v) :: rest =>
    unfold fieldFlow
    split
    · exact recordedFlow_follows v
    · exact fieldFlow_follows name rest
termination_by structural fields

theorem recordedFlow_follows (v : Value) : OptionFollows spares (recordedFlow v) := by
  cases v with
  | list _ vs => exact recordedElements_follows vs
  | _ => trivial
termination_by structural v

theorem recordedElements_follows (vs : List Value) : FlowFollows spares (recordedElements vs) := by
  match vs with
  | [] => trivial
  | v :: vs => exact ⟨kept_follows v (element_reads v), recordedElements_follows vs⟩
termination_by structural vs

theorem fieldActions_follows (fields : Fields) : (fieldActions fields).Follows spares := by
  match fields with
  | [] => trivial
  | (k, v) :: rest =>
    unfold fieldActions
    split
    · exact recordedActions_follows v
    · exact fieldActions_follows rest
termination_by structural fields

theorem recordedActions_follows (v : Value) : (recordedActions v).Follows spares := by
  cases v with
  | list _ vs => exact recordedActionList_follows vs
  | _ => trivial
termination_by structural v

theorem recordedActionList_follows (vs : List Value) : ActionsFollow spares (recordedActionList vs) := by
  match vs with
  | [] => trivial
  | v :: vs =>
    cases v with
    | model kind fields extras =>
      cases kind with
      | action =>
        exact ⟨⟨recordedExtras_spares actionFields _, fieldFlow_follows "then" fields⟩, recordedActionList_follows vs⟩
      | _ => exact recordedActionList_follows vs
    | _ => exact recordedActionList_follows vs
termination_by structural vs

theorem fieldItems_follows (fields : Fields) : (fieldItems fields).Follows spares := by
  match fields with
  | [] => trivial
  | (k, v) :: rest =>
    unfold fieldItems
    split
    · exact recordedItems_follows v
    · exact fieldItems_follows rest
termination_by structural fields

theorem recordedItems_follows (v : Value) : (recordedItems v).Follows spares := by
  cases v with
  | list _ vs => exact recordedItemList_follows vs
  | _ => trivial
termination_by structural v

theorem recordedItemList_follows (vs : List Value) : ItemsFollow spares (recordedItemList vs) := by
  match vs with
  | [] => trivial
  | v :: vs =>
    cases v with
    | model kind fields extras =>
      cases kind with
      | item => exact ⟨⟨recordedExtras_spares itemFields _, fieldActions_follows fields⟩, recordedItemList_follows vs⟩
      | _ => exact recordedItemList_follows vs
    | _ => exact recordedItemList_follows vs
termination_by structural vs

theorem fieldCases_follows (fields : Fields) : CasesFollow spares (fieldCases fields) := by
  match fields with
  | [] => trivial
  | (k, v) :: rest =>
    unfold fieldCases
    split
    · exact recordedCases_follows v
    · exact fieldCases_follows rest
termination_by structural fields

theorem recordedCases_follows (v : Value) : CasesFollow spares (recordedCases v) := by
  cases v with
  | list _ vs => exact recordedCaseList_follows vs
  | _ => trivial
termination_by structural v

theorem recordedCaseList_follows (vs : List Value) : CasesFollow spares (recordedCaseList vs) := by
  match vs with
  | [] => trivial
  | v :: vs =>
    cases v with
    | model kind fields extras =>
      cases kind with
      | switchCase => exact ⟨flowFollows_getD (fieldFlow_follows "do" fields), recordedCaseList_follows vs⟩
      | _ => exact recordedCaseList_follows vs
    | _ => exact recordedCaseList_follows vs
termination_by structural vs

end

private theorem flows_reads (v : Value) : Reads (fun flows => ∀ entry ∈ flows, FlowFollows spares entry.2)
    (flows v) := by
  unfold flows
  split
  · refine Reads.bind (P := fun named => ∀ entry ∈ named, FlowFollows spares entry.2) (.mapM ?_) ?_
    · rintro ⟨k, v⟩ -
      exact (idText_ordinary k).bind fun _ _ => (flow_reads v).bind fun _ hflow => hflow
    · exact fun named hnamed => forall_of_lastWins (P := fun flow => FlowFollows spares flow) hnamed
  · rfl

private theorem described_reads (source : Value) :
    Reads (fun flows => ∀ entry ∈ flows, FlowFollows spares entry.2) (described source) :=
  .ite (fun _ => flows_reads source) fun _ => fun _ hentry => absurd hentry List.not_mem_nil

theorem follows_of_described {source : Value} {flows : List (String × Flow)} (h : described source = .ok flows)
    {entry : String × Flow} (hentry : entry ∈ flows) : FlowFollows spares entry.2 := by
  have hreads := described_reads source
  rw [h] at hreads
  exact hreads entry hentry

end Normal

end Colloquy
