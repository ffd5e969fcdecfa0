import Mathlib.Data.List.Forall2
import Colloquy.Proofs.Compile.Origin
import Colloquy.Proofs.Flow.Normal
import Colloquy.Proofs.Value.Entries

/-!
# What messages were compiled from

A message that is registered shows what its command says, and each of its fixed actions that stands for a flow
carries a key that leads to this flow: the key of the flow that was compiled for the action, or that of the flow
that it refers to.
-/

namespace Colloquy

/-- Whether an action stands for a flow: replies always do, postbacks if they are given one. -/
def Action.runsFlow (a : Action) : Bool :=
  a.info.kind.carriesFlow && (a.flow.isSome || !a.info.thenFlow.isNone || a.info.kind == .reply)

namespace Program

def registeredFor (p : Program) (kind : ActionKind) (key : Value) : Option EventHandler :=
  if kind == .reply then p.dialog.payloads.get? key else p.dialog.postbacks.get? key

inductive Routes (s : Program) (a : Action) (key : String) : Prop where
  /-- The action refers to the flow of this key. -/
  | reference (hthen : a.info.thenFlow.isNone = false) (hkey : s.key a.info.thenFlow = .ok key)
      (hmem : key ∈ s.references)
  /-- The flow of the action was compiled at a path with this key. -/
  | own {path targets p q} (hthen : a.info.thenFlow.isNone = true) (hkey : s.pathKey path = .ok key)
      (compiled : Compiles (.flow (a.flow.getD []) path targets 0) p q) (later : q.Extends s)
      (hregistered : s.registeredFor a.info.kind (.str key) ≠ none)

inductive Carries (s : Program) (a : Action) : Entries → Prop where
  | nothing (h : a.runsFlow = false) : Carries s a a.info.params
  | key {key} (h : s.Routes a key) : Carries s a (Entries.put a.info.params "payload" (.str key))

inductive CarriesAll (s : Program) : Actions → ActionPlan → Prop where
  | absent : CarriesAll s .absent .absent
  | computed (handler : Value) : CarriesAll s (.computed handler) (.computed handler)
  | fixed {list entries} (h : List.Forall₂ s.Carries list entries) : CarriesAll s (.fixed list) (.fixed entries)

structure CarriesItem (s : Program) (i : Item) (plan : Entries × ActionPlan) : Prop where
  params : plan.1 = i.info.params
  actions : s.CarriesAll i.actions plan.2

inductive CarriesItems (s : Program) : Items → ItemPlan → Prop where
  | absent : CarriesItems s .absent .absent
  | computed (handler : Value) : CarriesItems s (.computed handler) (.computed handler)
  | fixed {list plans} (h : List.Forall₂ s.CarriesItem list plans) : CarriesItems s (.fixed list) (.fixed plans)

structure CarriesMessage (s : Program) (kind : MessageKind) (body : MessageBody) (actions : Actions) (items : Items)
    (plan : MessagePlan) : Prop where
  params : plan.params = body.params kind
  dynamic : plan.dynamic = isDynamic actions items
  actions : s.CarriesAll actions plan.actions
  items : s.CarriesItems items plan.items

end Program

open Program

variable {s p q : Program} {path : FlowPath} {targets : Targets}

private theorem registeredFor_offering (q : Program) (kind : ActionKind) (key : String) (own : FlowPath) :
    (q.offering kind key own).registeredFor kind (.str key) = some (.resume own.toValue) := by
  have hsame : (Value.str key).same (.str key) = true := by simp [Value.same_str, Value.text?]
  unfold registeredFor offering
  cases kind == .reply with
  | true => exact EventTable.get?_put_of_same hsame
  | false => exact EventTable.get?_put_of_same hsame

private theorem Program.Extends.registeredFor (hext : q.Extends s) {kind : ActionKind} {key : Value}
    (h : q.registeredFor kind key ≠ none) : s.registeredFor kind key ≠ none := by
  unfold Program.registeredFor at h ⊢
  split at h
  · rename_i hkind
    rw [if_pos hkind]
    exact hext.payloads key h
  · rename_i hkind
    rw [if_neg hkind]
    exact hext.postbacks key h

private theorem Compiles.carries {a : Action} {entries : Entries} (h : Compiles (.action a path targets entries) p q)
    (hext : q.Extends s) : s.Carries a entries := by
  cases h with
  | inert hk ht => exact .nothing (by simp [Action.runsFlow, Action.info, hk])
  | postback hk ht => exact .nothing (by simp [Action.runsFlow, Action.info, Action.flow, hk, ht])
  | reference hk ht hkey =>
    refine .key (.reference ht ?_ (hext.references _ (by simp [referring])))
    unfold Program.key at hkey ⊢
    rw [hext.name]
    exact hkey
  | button hk ht hb hid hpath inner hkey =>
    have hlater := (extends_offering _ _ _ _).trans hext
    refine .key (.own ht ((pathKey_congr hlater.name _).trans hkey) inner hlater (hext.registeredFor ?_))
    rw [Action.info, registeredFor_offering]
    simp

private theorem Compiles.carriesEach {list : List Action} {entries : List Entries}
    (h : Compiles (.actionList list path targets entries) p q) (hext : q.Extends s) :
    List.Forall₂ s.Carries list entries := by
  induction list generalizing entries p with
  | nil =>
    cases h with
    | actionNil => exact .nil
  | cons a rest ih =>
    cases h with
    | actionCons first later => exact .cons (first.carries (later.grows.trans hext)) (ih later)

private theorem Compiles.carriesAll {actions : Actions} {plan : ActionPlan}
    (h : Compiles (.actions actions path targets plan) p q) (hext : q.Extends s) : s.CarriesAll actions plan := by
  cases h with
  | noActions => exact .absent
  | computedActions => exact .computed _
  | fixedActions inner => exact .fixed (inner.carriesEach hext)

private theorem Compiles.carriesItem {list : List Item} {plans : List (Entries × ActionPlan)}
    (h : Compiles (.itemList list path targets plans) p q) (hext : q.Extends s) :
    List.Forall₂ s.CarriesItem list plans := by
  induction list generalizing plans p with
  | nil =>
    cases h with
    | itemNil => exact .nil
  | cons item rest ih =>
    cases h with
    | itemCons hpath first later =>
      exact .cons ⟨rfl, first.carriesAll (later.grows.trans hext)⟩ (ih later)

private theorem Compiles.carriesItems {items : Items} {plan : ItemPlan}
    (h : Compiles (.items items path targets plan) p q) (hext : q.Extends s) : s.CarriesItems items plan := by
  cases h with
  | noItems => exact .absent
  | computedItems => exact .computed _
  | fixedItems inner => exact .fixed (inner.carriesItem hext)

theorem Compiles.carriesMessage {c : Command} {plan : MessagePlan}
    (h : Compiles (.command c path targets (.message plan)) p q) (hext : q.Extends s) :
    ∃ kind id body actions items, c = .message kind id body actions items ∧
      s.CarriesMessage kind body actions items plan := by
  cases h with
  | message hpath first later =>
    exact ⟨_, _, _, _, _, rfl, rfl, rfl, first.carriesAll (later.grows.trans hext), later.carriesItems hext⟩

/-! ## What is sent of them -/

section Params

variable {fields extras : Fields} {name : String}

private theorem named?_extras (h : ∀ entry ∈ extras, entry.1 ≠ name) (entries : Entries) :
    Entries.named? (extras.foldl (fun acc (k, v) => Entries.put acc k v) entries) name =
      Entries.named? entries name := by
  induction extras generalizing entries with
  | nil => rfl
  | cons entry rest ih =>
    obtain ⟨hne, hrest⟩ := List.forall_mem_cons.mp h
    rw [List.foldl_cons, ih hrest, Entries.named?_put_of_ne (Ne.symm hne)]

private theorem named?_sentParams {v : Value} (h : ∀ entry ∈ extras, entry.1 ≠ name)
    (hfield : fields.lookup name = some v)
    (hv : v.isNone = false) : Entries.named? (sentParams fields extras) name = some v := by
  refine Entries.named?_filter_of_keeps ?_ fun _ => by simp [hv]
  rw [named?_extras h, Entries.named?_fields, hfield]

private theorem named?_sentParams_none (h : ∀ entry ∈ extras, entry.1 ≠ name) (hfield : fields.lookup name = none) :
    Entries.named? (sentParams fields extras) name = none := by
  refine Entries.named?_filter_of_none ?_
  rw [named?_extras h, Entries.named?_fields, hfield]

end Params

/-- What is sent of messages, actions and items has the type that was written and names no handler. -/
abbrev ExtrasRule.sent : ExtrasRule := Normal.spares.both .noExec

private theorem SparesFields.ne {fields : List (List String)} {extras : Fields} (h : SparesFields fields extras)
    {name : String} (hname : [name] ∈ fields) : ∀ entry ∈ extras, entry.1 ≠ name := by
  rintro entry hentry rfl
  exact h entry hentry hname

section Sent

variable {kind : MessageKind} {body : MessageBody} {info : ActionInfo} {item : ItemInfo}

theorem MessageBody.params_type (h : ExtrasRule.sent.message body.extras) :
    Entries.named? (body.params kind) "type" = some (.str kind.name) :=
  named?_sentParams (h.1.ne (by decide)) rfl rfl

theorem MessageBody.params_exec (h : ExtrasRule.sent.message body.extras) :
    Entries.hasName (body.params kind) "exec" = false := by
  rw [Entries.hasName, MessageBody.params, named?_sentParams_none h.2 rfl]
  rfl

theorem MessageBody.params_actions (h : ExtrasRule.sent.message body.extras) :
    Entries.named? (body.params kind) "actions" = none :=
  named?_sentParams_none (h.1.ne (by decide)) rfl

theorem MessageBody.params_items (h : ExtrasRule.sent.message body.extras) :
    Entries.named? (body.params kind) "items" = none :=
  named?_sentParams_none (h.1.ne (by decide)) rfl

private theorem ActionInfo.params_type (h : ExtrasRule.sent.action info.extras) :
    Entries.named? info.params "type" = some (.str info.kind.name) :=
  named?_sentParams (h.1.ne (by decide)) rfl rfl

private theorem ActionInfo.params_exec (h : ExtrasRule.sent.action info.extras) :
    Entries.named? info.params "exec" = none :=
  named?_sentParams_none h.2 rfl

theorem ItemInfo.params_exec (h : ExtrasRule.sent.item item.extras) :
    Entries.hasName item.params "exec" = false := by
  rw [Entries.hasName, ItemInfo.params, named?_sentParams_none h.2 rfl]
  rfl

theorem ItemInfo.params_actions (h : ExtrasRule.sent.item item.extras) :
    Entries.named? item.params "actions" = none :=
  named?_sentParams_none (h.1.ne (by decide)) rfl

end Sent

theorem Program.Carries.exec {a : Action} {entries : Entries} (h : s.Carries a entries)
    (hrule : ExtrasRule.sent.action a.info.extras) : Entries.hasName entries "exec" = false := by
  cases h with
  | nothing => simp [Entries.hasName, ActionInfo.params_exec hrule]
  | key => simp [Entries.hasName, Entries.named?_put_of_ne, ActionInfo.params_exec hrule]

theorem Program.Carries.type {a : Action} {entries : Entries} (h : s.Carries a entries)
    (hrule : ExtrasRule.sent.action a.info.extras) :
    Entries.named? entries "type" = some (.str a.info.kind.name) := by
  cases h with
  | nothing => exact ActionInfo.params_type hrule
  | key =>
    rw [Entries.named?_put_of_ne (by decide)]
    exact ActionInfo.params_type hrule

end Colloquy
