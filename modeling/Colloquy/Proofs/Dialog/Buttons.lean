import Colloquy.Proofs.Dialog.Build
import Colloquy.Proofs.Run.Messages

/-!
# Buttons lead to their flows

A fixed reply or postback that stands for a flow is sent with the key of this flow, and what comes back with the key
is handled by the flow. The key is sent like any text of the message, though: one that looks like a template
does not arrive as it was compiled.
-/

namespace Colloquy

namespace Program

variable {p : Program} {a : Action} {key : String}

/-- The handler of what comes back when an action of a kind is picked. -/
def handlerOf (p : Program) (kind : ActionKind) (key : Value) : Option EventHandler :=
  if kind == .reply then p.payloadHandler? key else p.postbackHandler? key

private theorem handlerOf_eq (p : Program) (kind : ActionKind) (key : Value) :
    p.handlerOf kind key = ((p.registeredFor kind key).filter EventHandler.isSet).or (p.flowHandler? key) := by
  unfold handlerOf registeredFor
  split <;> rfl

private theorem Wired.registeredFor (hwired : p.Wired) {kind : ActionKind} {handler : EventHandler}
    (h : p.registeredFor kind (.str key) = some handler) :
    ∃ path : FlowPath, handler = .resume path.toValue ∧ p.pathKey path = .ok key := by
  unfold Program.registeredFor at h
  split at h
  · exact hwired.payloads key handler h
  · exact hwired.postbacks key handler h

private theorem Resolves.found (hresolves : p.Resolves) {target : Value} (hkey : p.key target = .ok key)
    (hmem : key ∈ p.references) : p.key (.str key) = .ok key ∧ p.flows.lookup key ≠ none := by
  have hcontains := hresolves key hmem
  unfold contains at hcontains
  cases hback : p.key (.str key) with
  | error e =>
    rw [hback] at hcontains
    cases hcontains
  | ok other =>
    rw [hback] at hcontains
    obtain rfl : other = key := FlowKey.ofText_of_ofValue hkey hback
    dsimp only at hcontains
    rw [any_eq_isSome_lookup] at hcontains
    exact ⟨rfl, Option.isSome_iff_ne_none.mp hcontains⟩

private theorem Routes.handled (h : p.Routes a key) (hwired : p.Wired) (hresolves : p.Resolves) :
    ∃ path, p.handlerOf a.info.kind (.str key) = some (.resume path) ∧ p.key path = .ok key ∧
      p.flows.lookup key ≠ none := by
  rw [handlerOf_eq]
  have hwith {handler : EventHandler} (hregistered : p.registeredFor a.info.kind (.str key) = some handler)
      (hl : p.flows.lookup key ≠ none) : ∃ path,
        ((p.registeredFor a.info.kind (.str key)).filter EventHandler.isSet).or (p.flowHandler? (.str key)) =
          some (.resume path) ∧ p.key path = .ok key ∧ p.flows.lookup key ≠ none := by
    obtain ⟨path, rfl, hpath⟩ := hwired.registeredFor hregistered
    rw [hregistered]
    exact ⟨_, rfl, hpath, hl⟩
  cases h with
  | reference hthen hkey hmem =>
    obtain ⟨hback, hl⟩ := hresolves.found hkey hmem
    cases hregistered : p.registeredFor a.info.kind (.str key) with
    | some handler =>
      rw [← hregistered]
      exact hwith hregistered hl
    | none =>
      refine ⟨.str key, ?_, hback, hl⟩
      rw [flowHandler?, hresolves key hmem]
      rfl
  | @own path _ _ _ hthen hkey compiled later hregistered =>
    obtain ⟨handler, hhandler⟩ := Option.ne_none_iff_exists'.mp hregistered
    obtain ⟨other, own, _, _, elements, hown, hadd⟩ := compiled.registers
    have hname := ((extends_of_add hadd).trans later).name
    obtain rfl := Except.ok.inj (hkey.symm.trans ((pathKey_congr hname path).trans hown))
    exact hwith hhandler (by simp [later.flows _ _ (lookup_of_add hadd)])

/-- An action that stands for a flow can be answered: there is a key that leads to this flow, what comes back with
the key resumes it, and the key is what was sent, unless it looks like a template. -/
def CanAnswer (p : Program) (a : Action) (shown : Value) : Prop :=
  a.runsFlow = true → ∃ key, p.Routes a key ∧
    (∃ path handler, p.handlerOf a.info.kind (.str key) = some (.resume path) ∧ p.key path = .ok key ∧
      p.find path = .ok handler) ∧
    (Template.isTemplate key = false →
      ∃ out, shown = .dict .anonymous out ∧ Entries.named? out "payload" = some (.str key))

/-- What stands in the place of fixed actions: they can be answered one by one. -/
def CanAnswerAll (p : Program) (actions : Actions) (shown : Option Value) : Prop :=
  ∀ list, actions = .fixed list →
    ∃ outs, shown = some (.list .anonymous outs) ∧ List.Forall₂ p.CanAnswer list outs

/-- What stands in the place of fixed items: their actions can be answered. -/
def CanAnswerItems (p : Program) (items : Items) (shown : Option Value) : Prop :=
  ∀ list, items = .fixed list → ∃ outs, shown = some (.list .anonymous outs) ∧
    List.Forall₂ (fun i v => ∃ out, v = .dict .anonymous out ∧
      p.CanAnswerAll i.actions (Entries.named? out "actions")) list outs

private theorem Carries.canAnswer {entries : Entries} {shown : Value} (h : p.Carries a entries) (hwired : p.Wired)
    (hresolves : p.Resolves) (hshown : Expander.Expanded entries shown) : p.CanAnswer a shown := by
  intro hruns
  cases h with
  | nothing hnothing => simp [hnothing] at hruns
  | @key key hroutes =>
    obtain ⟨path, hhandler, hkey, hl⟩ := hroutes.handled hwired hresolves
    obtain ⟨handler, hl⟩ := Option.ne_none_iff_exists'.mp hl
    refine ⟨key, hroutes, ⟨path, handler, hhandler, hkey, find_eq_ok.mpr ⟨key, hkey, hl⟩⟩, fun hplain => ?_⟩
    obtain ⟨out, rfl, hkeeps⟩ := hshown
    exact ⟨out, rfl, hkeeps.text "payload" _ key (Entries.named?_put_self _ _ _) rfl hplain⟩

private theorem CarriesAll.canAnswer {actions : Actions} {plan : ActionPlan} {shown : Option Value}
    (h : p.CarriesAll actions plan) (hwired : p.Wired) (hresolves : p.Resolves) (hshown : plan.Gives shown) :
    p.CanAnswerAll actions shown := by
  rintro list rfl
  cases h with
  | fixed h =>
    obtain ⟨outs, rfl, houts⟩ := hshown
    exact ⟨outs, rfl, forall₂_comp (fun _ _ _ h h' => h.canAnswer hwired hresolves h') h houts⟩

private theorem CarriesItems.canAnswer {items : Items} {plan : ItemPlan} {shown : Option Value}
    (h : p.CarriesItems items plan) (hwired : p.Wired) (hresolves : p.Resolves) (hshown : plan.Gives shown) :
    p.CanAnswerItems items shown := by
  rintro list rfl
  cases h with
  | fixed h =>
    obtain ⟨outs, rfl, houts⟩ := hshown
    refine ⟨outs, rfl, forall₂_comp (fun i item v hitem hv => ?_) h houts⟩
    obtain ⟨out, rfl, hgives⟩ := hv
    exact ⟨out, rfl, hitem.actions.canAnswer hwired hresolves hgives⟩

end Program

/-- In a dialog that was built, whose messages, actions and items name no handler to be executed in their place,
every fixed action of a message that stands for a flow can be answered once the message was sent, whatever the
variables, the session and the handlers are, and however the actions are nested in items. -/
theorem buttons_can_be_answered {name source modelName : Value} {settings : Settings} {p : Program}
    {entries : List (String × FlowPath)} (hbuild : Program.build name source modelName settings = .ok (p, entries))
    (hexec : ∀ flows, Normal.described source = .ok flows → ∀ entry ∈ flows, FlowFollows .noExec entry.2)
    {key own : String} {path : FlowPath} {steps : List Step} {targets : Targets} {plan : MessagePlan}
    (hl : p.flows.lookup key = some (.sequence own path steps targets)) (hmem : .message plan ∈ steps) :
    ∃ kind body actions items, p.CarriesMessage kind body actions items plan ∧
      ∀ app handlers vars w message w',
        (⟨app, handlers, p⟩ : Machine).deliver plan vars w = .ok message w' →
        ∃ sent, w'.session.history.getLast? = some (.sent sent) ∧
          p.CanAnswerAll actions (Entries.named? sent "actions") ∧
          p.CanAnswerItems items (Entries.named? sent "items") := by
  obtain ⟨hwired, -, -⟩ := build_eq_ok hbuild
  have hresolves := build_resolves hbuild
  have htraced : p.Traced .sent := build_traced hbuild fun flows hflows entry hentry =>
    flow_follows_both _ (Normal.follows_of_described hflows hentry) (hexec flows hflows entry hentry)
  obtain ⟨fn, hstep⟩ | ⟨target, hstep⟩ | ⟨c, inner, q, q', hfollows, hcompiled, hext⟩ :=
    (htraced.formed hl).step_cases hmem
  · cases hstep
  · cases hstep
  obtain ⟨kind, id, body, actions, items, rfl, hcarries⟩ := hcompiled.carriesMessage hext
  refine ⟨kind, body, actions, items, hcarries, fun app handlers vars w message w' hdeliver => ?_⟩
  obtain ⟨w₁, sent, -, rfl, -, hshows⟩ := hcarries.shows_delivered hfollows hdeliver
  refine ⟨sent, by simp [Session.record], ?_, ?_⟩
  · exact hcarries.actions.canAnswer hwired hresolves hshows.actions
  · exact hcarries.items.canAnswer hwired hresolves hshows.items

/-- The reply to a question is sent with the key of what follows it. -/
theorem question_can_be_answered : ∃ p, Program.build (.str "Trial") question .none {} =
    .ok (p, [("onStart", [.name "onStart"])]) ∧
      ∃ actions, p.CanAnswerAll actions (some (.list .anonymous [.dict .anonymous
        [(.str "type", .str "reply"), (.str "text", .str "Yes"), (.str "payload", .str "Trial:onStart.Yes")]])) := by
  obtain ⟨p, hbuild, hl⟩ := build_question
  obtain ⟨kind, body, actions, items, -, hanswers⟩ :=
    buttons_can_be_answered hbuild question_noExec hl List.mem_cons_self
  let machine : Machine := ⟨⟨fun _ _ => pure .none⟩, [], p⟩
  obtain ⟨message, w', hdeliver, hsent⟩ : ∃ message w',
      machine.deliver questionPlan (.dict .anonymous []) { session := { id := .str "s" } } = .ok message w' ∧
        w'.session.history.getLast? = some (.sent [(.str "type", .str "text"), (.str "text", .str "Ready?"),
          (.str "actions", .list .anonymous [.dict .anonymous
            [(.str "type", .str "reply"), (.str "text", .str "Yes"), (.str "payload", .str "Trial:onStart.Yes")]])]) :=
    ⟨_, _, by with_unfolding_all rfl, by with_unfolding_all rfl⟩
  obtain ⟨sent, hlast, hactions, -⟩ := hanswers machine.app machine.handlers _ _ _ _ hdeliver
  obtain rfl := SessionEvent.sent.inj (Option.some.inj (hlast.symm.trans hsent))
  exact ⟨p, hbuild, actions, by with_unfolding_all exact hactions⟩

end Colloquy
