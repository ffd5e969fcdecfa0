import Colloquy.Proofs.Flow.Canonical

/-!
# Reading canonical flows again

The records of a canonical flow stand for the flow itself. So every flow in a normal form, however deeply it is nested,
is its own normal form.
-/

namespace Colloquy

namespace Normal

private theorem recordedExtras_of_spares {known : List (List String)} {extras : Fields}
    (h : SparesFields known extras) :
    recordedExtras known extras = extras :=
  List.filter_eq_self.mpr fun field hfield => by simpa using h field hfield

private theorem filterMap_record (fields : Fields) :
    ((fields.map fun (k, v) => (Value.str k, v)).filterMap fun (k, v) => k.text?.map fun s => (s, v)) = fields := by
  rw [List.filterMap_map]
  exact List.filterMap_some

private theorem kept_handler {h : Value} (hh : h.isCallable = true) : kept h (.ok (.handler h)) = .handler h := by
  cases h <;> rfl

theorem element_of_isCallable {v : Value} (h : v.isCallable = true) : element v = .ok (.handler v) := by
  unfold element
  cases v <;> exact if_pos h

private theorem recordedActions_of_isCallable {v : Value} (h : v.isCallable = true) :
    recordedActions v = .computed v := by
  cases v <;> first | rfl | cases h

private theorem recordedItems_of_isCallable {v : Value} (h : v.isCallable = true) : recordedItems v = .computed v := by
  cases v <;> first | rfl | cases h

-- The recursion is along the flow; one lemma for each of its types and for each list of them.
mutual

private theorem element_toValue (e : Element) (h : e.Canonical) : element e.toValue = .ok e := by
  cases e with
  | command c => exact element_command c h
  | handler v => exact element_of_isCallable h
  | _ => cases h
termination_by structural e

theorem element_command (c : Command) (h : c.Canonical) : element c.toValue = .ok (.command c) := by
  cases c with
  | message kind id body actions items =>
    obtain ⟨hbody, hactions, hitems⟩ := h
    have hread : element (Command.message kind id body actions items).toValue =
        .ok (.command (.message kind id { body with extras := recordedExtras messageFields body.extras }
          (recordedActions actions.toValue) (recordedItems items.toValue))) := by
      cases kind <;> rfl
    rw [hread, recordedExtras_of_spares hbody.extras.spares, recordedActions_toValue actions hactions,
      recordedItems_toValue items hitems]
  | conditional id test yes no =>
    change Except.ok (Element.command (.conditional id test (recordedElements (flowValues yes))
      (recordedElements (flowValues no)))) = _
    rw [recordedElements_flowValues yes h.2.1, recordedElements_flowValues no h.2.2]
  | switch id value cases default =>
    change Except.ok (Element.command (.switch id value (recordedCaseList (caseValues cases))
      (recordedFlow (optionalFlowValue default)))) = _
    rw [recordedCaseList_caseValues cases h.2.1, recordedFlow_optionalFlowValue default h.2.2]
  | iteration id init condition increment body =>
    change Except.ok (Element.command (.iteration id
      ((init.map fun (k, v) => (Value.str k, v)).filterMap fun (k, v) => k.text?.map fun s => (s, v)) condition
      ((increment.map fun (k, v) => (Value.str k, v)).filterMap fun (k, v) => k.text?.map fun s => (s, v))
      (recordedElements (flowValues body)))) = _
    rw [filterMap_record, filterMap_record, recordedElements_flowValues body h.2.2.2]
  | start id target args resume =>
    change Except.ok (Element.command (.start id target args (recordedFlow (optionalFlowValue resume)))) = _
    rw [recordedFlow_optionalFlowValue resume h.2.2]
  | set id values =>
    change Except.ok (Element.command (.set id
      ((values.map fun (k, v) => (Value.str k, v)).filterMap fun (k, v) => k.text?.map fun s => (s, v)))) = _
    rw [filterMap_record]
  | flow id body =>
    change Except.ok (Element.command (.flow id (recordedElements (flowValues body)))) = _
    rw [recordedElements_flowValues body h]
  | _ => rfl
termination_by structural c

theorem recordedElements_flowValues (f : Flow) (h : FlowCanonical f) : recordedElements (flowValues f) = f := by
  match f, h with
  | [], _ => rfl
  | e :: rest, ⟨he, hrest⟩ =>
    rw [flowValues, recordedElements, element_toValue e he, recordedElements_flowValues rest hrest]
    cases e with
    | command c => cases c <;> rfl
    | handler v => rw [Element.toValue, kept_handler he]
    | _ => cases he
termination_by structural f

theorem recordedFlow_optionalFlowValue (flow : Option Flow) (h : OptionCanonical flow) :
    recordedFlow (optionalFlowValue flow) = flow := by
  match flow, h with
  | none, _ => rfl
  | some flow, h => exact congrArg some (recordedElements_flowValues flow h)
termination_by structural flow

theorem recordedCaseList_caseValues (cases : List Case) (h : CasesCanonical cases) :
    recordedCaseList (caseValues cases) = cases := by
  match cases, h with
  | [], _ => rfl
  | .mk id value body :: rest, ⟨⟨_, hbody⟩, hrest⟩ =>
    change Case.mk id value (recordedElements (flowValues body)) :: recordedCaseList (caseValues rest) = _
    rw [recordedElements_flowValues body hbody, recordedCaseList_caseValues rest hrest]
termination_by structural cases

theorem recordedActions_toValue (actions : Actions) (h : actions.Canonical) :
    recordedActions actions.toValue = actions := by
  match actions, h with
  | .absent, _ => rfl
  | .fixed list, h => exact congrArg Actions.fixed (recordedActionList_actionValues list h)
  | .computed v, h => exact recordedActions_of_isCallable h
termination_by structural actions

theorem recordedActionList_actionValues (actions : List Action) (h : ActionsCanonical actions) :
    recordedActionList (actionValues actions) = actions := by
  match actions, h with
  | [], _ => rfl
  | .mk info flow :: rest, ⟨⟨hinfo, hflow⟩, hrest⟩ =>
    have hread : recordedActionList (actionValues (.mk info flow :: rest)) =
        .mk { info with extras := recordedExtras actionFields info.extras }
          (recordedFlow (optionalFlowValue flow)) :: recordedActionList (actionValues rest) := by
      rcases info with ⟨_ | id, kind⟩ <;> cases kind <;> rfl
    rw [hread, recordedExtras_of_spares hinfo.extras.spares, recordedFlow_optionalFlowValue flow hflow,
      recordedActionList_actionValues rest hrest]
termination_by structural actions

theorem recordedItems_toValue (items : Items) (h : items.Canonical) : recordedItems items.toValue = items := by
  match items, h with
  | .absent, _ => rfl
  | .fixed list, h => exact congrArg Items.fixed (recordedItemList_itemValues list h)
  | .computed v, h => exact recordedItems_of_isCallable h
termination_by structural items

theorem recordedItemList_itemValues (items : List Item) (h : ItemsCanonical items) :
    recordedItemList (itemValues items) = items := by
  match items, h with
  | [], _ => rfl
  | .mk info actions :: rest, ⟨⟨hinfo, hactions⟩, hrest⟩ =>
    have hread : recordedItemList (itemValues (.mk info actions :: rest)) =
        .mk { info with extras := recordedExtras itemFields info.extras } (recordedActions actions.toValue) ::
          recordedItemList (itemValues rest) := by
      rcases info with ⟨_ | id⟩ <;> rfl
    rw [hread, recordedExtras_of_spares hinfo.extras.spares, recordedActions_toValue actions hactions,
      recordedItemList_itemValues rest hrest]
termination_by structural items

end

theorem elements_flowValues {f : Flow} (h : FlowCanonical f) : elements (flowValues f) = .ok f := by
  induction f with
  | nil => rfl
  | cons e rest ih =>
    rw [flowValues, elements, element_toValue e h.1, ih h.2]
    rfl

end Normal

/-! ## Nested flows -/

/-- The flows that a command holds: its branches, bodies and continuations, and the flows of its actions. -/
inductive Command.Holds : Command → Flow → Prop where
  | yes {id test yes no} : Holds (.conditional id test yes no) yes
  | no {id test yes no} : Holds (.conditional id test yes no) no
  | case {id value cases default own match' body} (h : Case.mk own match' body ∈ cases) :
      Holds (.switch id value cases default) body
  | default {id value cases body} : Holds (.switch id value cases (some body)) body
  | loop {id init condition increment body} : Holds (.iteration id init condition increment body) body
  | resume {id target args body} : Holds (.start id target args (some body)) body
  | subFlow {id body} : Holds (.flow id body) body
  | action {kind id body actions items info flow} (h : Action.mk info (some flow) ∈ actions) :
      Holds (.message kind id body (.fixed actions) items) flow
  | itemAction {kind id body actions items info list own flow} (hitem : Item.mk info (.fixed list) ∈ items)
      (h : Action.mk own (some flow) ∈ list) : Holds (.message kind id body actions (.fixed items)) flow

/-- The flows that occur in a flow, at any depth: the flow itself, and those that its commands hold. -/
inductive FlowWithin : Flow → Flow → Prop where
  | self {f} : FlowWithin f f
  | nested {f g inner c} (hc : .command c ∈ f) (hg : c.Holds g) (h : FlowWithin inner g) : FlowWithin inner f

def Actions.list : Actions → List Action
  | .fixed actions => actions
  | _ => []

/-- Fixed actions that a command shows, those of its items included. -/
def Command.buttons : Command → List Action
  | .message _ _ _ actions items => actions.list ++ items.list.flatMap (·.actions.list)
  | _ => []

def Command.items : Command → List Item
  | .message _ _ _ _ items => items.list
  | _ => []

def Command.cases : Command → List Case
  | .switch _ _ cases _ => cases
  | _ => []

/-- A flow in normal form: a list of commands and handlers, in which actions have a known type, items and cases have
ids, and which is read as it is. -/
structure FlowSettled (f : Flow) : Prop where
  elements : ∀ e ∈ f, (∃ c, e = .command c) ∨ ∃ v, e = .handler v ∧ v.isCallable = true
  actions : ∀ c, .command c ∈ f → ∀ a ∈ c.buttons, ∃ fields extras, a.toValue = .model .action fields extras ∧
    isActionType (Normal.fieldValue fields "type") = true
  items : ∀ c, .command c ∈ f → ∀ i ∈ c.items, ∃ id, Normal.ownId i.toValue = .ok (some id)
  cases : ∀ c, .command c ∈ f → ∀ k ∈ c.cases, ∃ id, Normal.ownId k.toValue = .ok (some id)
  fixed : Normal.flow (.ofList (flowValues f)) = .ok f

private theorem flowCanonical_iff {f : Flow} : FlowCanonical f ↔ ∀ e ∈ f, e.Canonical := by
  induction f with
  | nil => simp [FlowCanonical]
  | cons e rest ih => simp [FlowCanonical, ih]

private theorem casesCanonical_iff {cases : List Case} : CasesCanonical cases ↔ ∀ c ∈ cases, c.Canonical := by
  induction cases with
  | nil => simp [CasesCanonical]
  | cons c rest ih => simp [CasesCanonical, ih]

private theorem actionsCanonical_iff {actions : List Action} :
    ActionsCanonical actions ↔ ∀ a ∈ actions, a.Canonical := by
  induction actions with
  | nil => simp [ActionsCanonical]
  | cons a rest ih => simp [ActionsCanonical, ih]

private theorem itemsCanonical_iff {items : List Item} : ItemsCanonical items ↔ ∀ i ∈ items, i.Canonical := by
  induction items with
  | nil => simp [ItemsCanonical]
  | cons i rest ih => simp [ItemsCanonical, ih]

private theorem Command.Canonical.holds {c : Command} {g : Flow} (h : c.Canonical) (hg : c.Holds g) :
    FlowCanonical g := by
  cases hg with
  | yes => exact h.2.1
  | no => exact h.2.2
  | case hcase => exact (casesCanonical_iff.mp h.2.1 _ hcase).2
  | default => exact h.2.2
  | loop => exact h.2.2.2
  | resume => exact h.2.2
  | subFlow => exact h
  | action haction => exact (actionsCanonical_iff.mp h.2.1 _ haction).2
  | itemAction hitem haction => exact (actionsCanonical_iff.mp (itemsCanonical_iff.mp h.2.2 _ hitem).2 _ haction).2

theorem FlowWithin.canonical {f g : Flow} (h : FlowWithin g f) (hf : FlowCanonical f) : FlowCanonical g := by
  induction h with
  | self => exact hf
  | nested hc hg _ ih => exact ih (Command.Canonical.holds (flowCanonical_iff.mp hf _ hc) hg)

private theorem isActionType_name (kind : ActionKind) : isActionType (.str kind.name) = true := by
  cases kind <;> rfl

private theorem ownId_item {i : Item} (h : i.Canonical) : ∃ id, Normal.ownId i.toValue = .ok (some id) := by
  obtain ⟨info, actions⟩ := i
  obtain ⟨id, hid⟩ := Option.isSome_iff_exists.mp h.1.id
  refine ⟨id, ?_⟩
  rw [Item.toValue, hid]
  rfl

theorem FlowCanonical.settled {f : Flow} (h : FlowCanonical f) : FlowSettled f where
  elements e he := by
    have hcanonical := flowCanonical_iff.mp h e he
    cases e with
    | command c => exact .inl ⟨c, rfl⟩
    | handler v => exact .inr ⟨v, rfl, hcanonical⟩
    | _ => cases hcanonical
  actions c _ a _ := by
    obtain ⟨info, flow⟩ := a
    exact ⟨_, _, rfl, isActionType_name info.kind⟩
  items c hc i hi := by
    have hcanonical : c.Canonical := flowCanonical_iff.mp h _ hc
    cases c with
    | message kind id body actions items =>
      cases items with
      | fixed list => exact ownId_item (itemsCanonical_iff.mp hcanonical.2.2 i hi)
      | _ => cases hi
    | _ => cases hi
  cases c _ k _ := by
    obtain ⟨id, value, body⟩ := k
    exact ⟨id, rfl⟩
  fixed := Normal.elements_flowValues h

end Colloquy
