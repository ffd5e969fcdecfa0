import Colloquy.Proofs.Flow.Parts
import Colloquy.Proofs.Flow.RawRecords

/-!
# Reading the raw form of a flow

A flow in normal form is written out as authors would write it, and read again. It comes back exactly if no part of it
depends on something that is not written: on a field that is `None` where a missing field means something else, on an
extra field that is `None` or is taken for another field, or on an empty id of an item.
-/

namespace Colloquy

/-- Whether a part of a flow comes back from its raw form, apart from what is nested in it. -/
def FlowPart.Lossless : FlowPart → Prop
  | .command (.message _ _ body _ _) =>
    Normal.Survive [("media_url", body.mediaUrl), ("media_type", body.mediaType)] body.extras
  | .command (.switch _ value _ _) => value.isNone = false
  | .command (.iteration _ _ condition _ _) => condition.isNone = false
  | .command (.wait _ seconds) => seconds.isNone = false
  | .action info => Normal.Survive [("then_flow", info.thenFlow)] info.extras
  | .item info =>
    info.id ≠ some "" ∧ Normal.Survive [("media_url", info.mediaUrl), ("media_type", info.mediaType)] info.extras
  | .command _ | .case _ | .invalid _ => True

/-- Parts that come back from their raw forms. -/
abbrev Lossless (parts : List FlowPart) : Prop := ∀ part ∈ parts, part.Lossless

private theorem lossless_cons {part : FlowPart} {parts : List FlowPart} :
    Lossless (part :: parts) ↔ part.Lossless ∧ Lossless parts := List.forall_mem_cons

private theorem lossless_append {parts more : List FlowPart} :
    Lossless (parts ++ more) ↔ Lossless parts ∧ Lossless more := List.forall_mem_append

private theorem lossless_nil : Lossless [] := List.forall_mem_nil _

namespace Normal

private theorem cons_eq_ok {α : Type} {x : Except Error α} {xs : Except Error (List α)} {a : α} {as : List α} :
    (do return (← x) :: (← xs)) = .ok (a :: as) ↔ x = .ok a ∧ xs = .ok as := made_of_two List.cons.inj

-- The recursion is along the flow, as in the forms that are canonical.
mutual

theorem element_toRaw_iff (e : Element) (h : e.Canonical) : element e.toValue.toRaw = .ok e ↔ Lossless e.parts := by
  cases e with
  | command c => exact command_toRaw_iff c h
  | handler v =>
    rw [Element.toValue, toRaw_of_isCallable h, element_of_isCallable h]
    exact ⟨fun _ => lossless_nil, fun _ => rfl⟩
  | _ => cases h
termination_by structural e

theorem command_toRaw_iff (c : Command) (h : c.Canonical) :
    element c.toValue.toRaw = .ok (.command c) ↔ Lossless c.parts := by
  cases c with
  | message kind id body as is =>
    obtain ⟨hbody, has, his⟩ := h
    rw [raw_message hbody has his, Command.parts, lossless_cons, lossless_append, actions_toRaw_iff as has,
      items_toRaw_iff is his]
    rfl
  | conditional id test yes no =>
    obtain ⟨htest, hyes, hno⟩ := h
    rw [raw_conditional htest, Command.parts, lossless_cons, lossless_append, flow_toRaw_iff yes hyes,
      flow_toRaw_iff no hno]
    exact ⟨fun h => ⟨trivial, h⟩, And.right⟩
  | switch id value cases default =>
    obtain ⟨hvalue, hcases, hdefault⟩ := h
    rw [raw_switch hvalue, Command.parts, lossless_cons, lossless_append, cases_toRaw_iff cases hcases,
      option_toRaw_iff default hdefault]
    rfl
  | iteration id init condition increment body =>
    obtain ⟨hinit, hcondition, hincrement, hbody⟩ := h
    rw [raw_iteration hinit hcondition hincrement, Command.parts, lossless_cons, flow_toRaw_iff body hbody]
    rfl
  | start id target args resume =>
    obtain ⟨htarget, hargs, hresume⟩ := h
    rw [raw_start htarget hargs, Command.parts, lossless_cons, option_toRaw_iff resume hresume]
    exact ⟨fun h => ⟨trivial, h⟩, And.right⟩
  | finish id result =>
    rw [raw_finish h]
    exact ⟨fun _ => lossless_cons.mpr ⟨trivial, lossless_nil⟩, fun _ => rfl⟩
  | set id values =>
    rw [raw_set h]
    exact ⟨fun _ => lossless_cons.mpr ⟨trivial, lossless_nil⟩, fun _ => rfl⟩
  | exec id target args =>
    rw [raw_exec h.1 h.2]
    exact ⟨fun _ => lossless_cons.mpr ⟨trivial, lossless_nil⟩, fun _ => rfl⟩
  | wait id seconds =>
    rw [raw_wait h]
    exact ⟨fun h => lossless_cons.mpr ⟨h, lossless_nil⟩, fun h => (lossless_cons.mp h).1⟩
  | «break» id =>
    rw [(raw_signal id).1]
    exact ⟨fun _ => lossless_cons.mpr ⟨trivial, lossless_nil⟩, fun _ => rfl⟩
  | «continue» id =>
    rw [(raw_signal id).2]
    exact ⟨fun _ => lossless_cons.mpr ⟨trivial, lossless_nil⟩, fun _ => rfl⟩
  | flow id body =>
    rw [raw_flow, Command.parts, lossless_cons, flow_toRaw_iff body h]
    exact ⟨fun h => ⟨trivial, h⟩, And.right⟩
termination_by structural c

private theorem flow_toRaw_iff (f : Flow) (h : FlowCanonical f) :
    elements (rawAll (flowValues f)) = .ok f ↔ Lossless (flowParts f) := by
  match f, h with
  | [], _ => exact ⟨fun _ => lossless_nil, fun _ => rfl⟩
  | e :: rest, ⟨he, hrest⟩ =>
    rw [flowParts, lossless_append, ← element_toRaw_iff e he, ← flow_toRaw_iff rest hrest]
    exact cons_eq_ok
termination_by structural f

theorem option_toRaw_iff (flow : Option Flow) (h : OptionCanonical flow) :
    (∀ f ∈ flow, elements (rawAll (flowValues f)) = .ok f) ↔ Lossless (optionParts flow) := by
  match flow, h with
  | none, _ => exact ⟨fun _ => lossless_nil, fun _ => nofun⟩
  | some f, h =>
    rw [optionParts, ← flow_toRaw_iff f h]
    exact ⟨fun hall => hall f rfl, fun hf g hg => by cases hg; exact hf⟩
termination_by structural flow

theorem cases_toRaw_iff (cases : List Case) (h : CasesCanonical cases) :
    caseList (rawAll (caseValues cases)) = .ok cases ↔ Lossless (casesParts cases) := by
  match cases, h with
  | [], _ => exact ⟨fun _ => lossless_nil, fun _ => rfl⟩
  | .mk id value body :: rest, ⟨⟨hvalue, hbody⟩, hrest⟩ =>
    have hcons : caseList (rawAll (caseValues (.mk id value body :: rest))) = .ok (.mk id value body :: rest) ↔
        «case» (Case.mk id value body).toValue.toRaw = .ok (.mk id value body) ∧
          caseList (rawAll (caseValues rest)) = .ok rest := cons_eq_ok
    rw [hcons, raw_case hvalue, flow_toRaw_iff body hbody, cases_toRaw_iff rest hrest, casesParts, Case.parts,
      lossless_append, lossless_cons]
    exact ⟨fun h => ⟨⟨trivial, h.1⟩, h.2⟩, fun h => ⟨h.1.2, h.2⟩⟩
termination_by structural cases

theorem actions_toRaw_iff (as : Actions) (h : as.Canonical) {default : Value} :
    rereadActions default as = .ok as ↔ Lossless as.parts := by
  match as, h with
  | .absent, _ => exact ⟨fun _ => lossless_nil, fun _ => rfl⟩
  | .fixed list, h => exact (made_of_one Actions.fixed.inj).trans (actionList_toRaw_iff list h default)
  | .computed _, _ => exact ⟨fun _ => lossless_nil, fun _ => rfl⟩
termination_by structural as

theorem actionList_toRaw_iff (as : List Action) (h : ActionsCanonical as) (default : Value) :
    actionList default (rawAll (actionValues as)) = .ok as ↔ Lossless (actionsParts as) := by
  match as, h with
  | [], _ => exact ⟨fun _ => lossless_nil, fun _ => rfl⟩
  | .mk info flow :: rest, ⟨⟨hinfo, hflow⟩, hrest⟩ =>
    have hcons : actionList default (rawAll (actionValues (.mk info flow :: rest))) = .ok (.mk info flow :: rest) ↔
        (ownId (Action.mk info flow).toValue.toRaw >>= fun own =>
          action default own false (Action.mk info flow).toValue.toRaw) = .ok (.mk info flow) ∧
        actionList default (rawAll (actionValues rest)) = .ok rest := by
      refine Iff.trans ?_ cons_eq_ok
      rw [bind_assoc]
      rfl
    rw [hcons, raw_action hinfo, option_toRaw_iff flow hflow, actionList_toRaw_iff rest hrest,
      actionsParts, Action.parts,
      lossless_append, lossless_cons]
    rfl
termination_by structural as

theorem items_toRaw_iff (is : Items) (h : is.Canonical) : rereadItems is = .ok is ↔ Lossless is.parts := by
  match is, h with
  | .absent, _ => exact ⟨fun _ => lossless_nil, fun _ => rfl⟩
  | .fixed list, h => exact (made_of_one Items.fixed.inj).trans (itemList_toRaw_iff list h 0)
  | .computed _, _ => exact ⟨fun _ => lossless_nil, fun _ => rfl⟩
termination_by structural is

theorem itemList_toRaw_iff (is : List Item) (h : ItemsCanonical is) (position : Nat) :
    itemList position (rawAll (itemValues is)) = .ok is ↔ Lossless (itemsParts is) := by
  match is, h with
  | [], _ => exact ⟨fun _ => lossless_nil, fun _ => rfl⟩
  | .mk info as :: rest, ⟨⟨hinfo, has⟩, hrest⟩ =>
    have hcons : itemList position (rawAll (itemValues (.mk info as :: rest))) = .ok (.mk info as :: rest) ↔
        (ownId (Item.mk info as).toValue.toRaw >>= fun own =>
          item ((own.filter (!·.isEmpty)).getD (Number.intText position)) none (Item.mk info as).toValue.toRaw) =
            .ok (.mk info as) ∧
        itemList (position + 1) (rawAll (itemValues rest)) = .ok rest := by
      refine Iff.trans ?_ cons_eq_ok
      rw [bind_assoc]
      rfl
    rw [hcons, raw_item hinfo has, actions_toRaw_iff as has, itemList_toRaw_iff rest hrest, itemsParts, Item.parts,
      lossless_append, lossless_cons, ← and_assoc]
    rfl
termination_by structural is

end

/-- The normal form of whatever was written as data and handlers comes back from its raw form exactly if no part of it
loses anything there: if every value of a switch, condition of a loop and length of a pause is given, all extra fields
are given and none goes by the second name of a field that is not, and no item has an empty id. -/
theorem raw_form_comes_back_iff {v : Value} (hv : v.recordFree = true) {f : Flow} (hf : flow v = .ok f) :
    flow (.ofList ((flowValues f).map Value.toRaw)) = .ok f ↔ Lossless (flowParts f) := by
  have hcanonical := flow_canonical v hv
  rw [hf] at hcanonical
  rw [← flow_toRaw_iff f hcanonical, rawAll_eq_map]
  rfl

/-- A loop that is never entered: its condition is `None`. -/
def idleLoop : Value := .record [("while", .none), ("do", .str "Hello")]

/-- In the raw form of the loop its condition is left out, so that it never ends. -/
theorem idleLoop_does_not_come_back :
    (idleLoop.recordFree = true ∧
      flow idleLoop = .ok [.command (.iteration "loop" [] .none [] [.command (plainText (.str "Hello"))])]) ∧
    flow (.ofList ((flowValues [.command (.iteration "loop" [] .none [] [.command (plainText (.str "Hello"))])]).map
      Value.toRaw)) ≠ .ok [.command (.iteration "loop" [] .none [] [.command (plainText (.str "Hello"))])] := by
  have hfree : idleLoop.recordFree = true := rfl
  have hflow : flow idleLoop =
      .ok [.command (.iteration "loop" [] .none [] [.command (plainText (.str "Hello"))])] := by
    with_unfolding_all rfl
  refine ⟨⟨hfree, hflow⟩, fun hback => ?_⟩
  have hcondition := (raw_form_comes_back_iff hfree hflow).mp hback _ List.mem_cons_self
  cases hcondition

end Normal

end Colloquy
