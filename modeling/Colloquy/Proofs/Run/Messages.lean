import Colloquy.Proofs.Compile.Messages
import Colloquy.Proofs.Run.Elements
import Colloquy.Proofs.Run.Steps
import Colloquy.Proofs.Session.Closing

/-!
# What messages show

A message as it is sent has the texts of its command, and its fixed actions and items in the order in which they
were written, however handlers and templates fill in the rest.
-/

namespace Colloquy

open Run Expander

private theorem Expander.Expanded.current {entries : Entries} {v : Value} (h : Expanded entries v) (heap : Heap) :
    Expanded entries (heap.current v) := by
  obtain ⟨out, rfl, hkeeps⟩ := h
  exact ⟨_, heap.current_dict out, hkeeps.current heap⟩

/-- Fixed actions name no handler that is executed in their place. -/
def ActionPlan.Plain (plan : ActionPlan) : Prop :=
  ∀ list, plan = .fixed list → ∀ entries ∈ list, Entries.hasName entries "exec" = false

/-- What is given for actions: none for none, and fixed ones one by one. -/
def ActionPlan.Gives (plan : ActionPlan) (given : Option Value) : Prop :=
  match plan with
  | .absent => given = none
  | .fixed list => ∃ outs, given = some (.list .anonymous outs) ∧ List.Forall₂ Expanded list outs
  | .computed _ => True

/-- An item names no handler that is executed in its place, and has no actions besides its own. -/
structure PlainItem (item : Entries × ActionPlan) : Prop where
  exec : Entries.hasName item.1 "exec" = false
  actions : Entries.named? item.1 "actions" = none
  plain : item.2.Plain

def GivesItem (item : Entries × ActionPlan) (v : Value) : Prop :=
  ∃ out, v = .dict .anonymous out ∧ item.2.Gives (Entries.named? out "actions")

/-- What is given for items: none for none, and fixed ones one by one. -/
def ItemPlan.Gives (plan : ItemPlan) (given : Option Value) : Prop :=
  match plan with
  | .absent => given = none
  | .fixed list => ∃ outs, given = some (.list .anonymous outs) ∧ List.Forall₂ GivesItem list outs
  | .computed _ => True

/-- A message that names no handler that is executed in place of it or of one of its parts, and has no actions
and items besides its own. -/
structure MessagePlan.Plain (plan : MessagePlan) : Prop where
  exec : Entries.hasName plan.params "exec" = false
  noActions : Entries.named? plan.params "actions" = none
  noItems : Entries.named? plan.params "items" = none
  actions : plan.actions.Plain
  items : ∀ list, plan.items = .fixed list → ∀ item ∈ list, PlainItem item

/-- What is shown of a message: its texts that are no templates, its actions and its items. -/
structure MessagePlan.Shows (plan : MessagePlan) (out : Entries) : Prop where
  text : ∀ name v s, name ≠ "actions" → name ≠ "items" → Entries.named? plan.params name = some v →
    v.text? = some s → Template.isTemplate s = false → Entries.named? out name = some (.str s)
  actions : plan.actions.Gives (Entries.named? out "actions")
  items : plan.items.Gives (Entries.named? out "items")

/-! ## Changes of shared objects -/

theorem forall₂_comp {α β γ : Type} {R : α → β → Prop} {S : β → γ → Prop} {T : α → γ → Prop}
    (hcomp : ∀ a b c, R a b → S b c → T a c) {xs : List α} {ys : List β} {zs : List γ} (h : List.Forall₂ R xs ys)
    (h' : List.Forall₂ S ys zs) : List.Forall₂ T xs zs := by
  induction h generalizing zs with
  | nil =>
    cases h'
    exact .nil
  | cons hfirst _ ih =>
    cases h' with
    | cons hfirst' hrest' => exact .cons (hcomp _ _ _ hfirst hfirst') (ih hrest')

private theorem forall₂_current {α : Type} {P : α → Value → Prop} {heap : Heap}
    (hp : ∀ a v, P a v → P a (heap.current v)) {list : List α} {outs : List Value} (h : List.Forall₂ P list outs) :
    List.Forall₂ P list (outs.map heap.current) :=
  List.forall₂_map_right_iff.mpr (h.imp hp)

private theorem ActionPlan.Gives.current {plan : ActionPlan} {given : Option Value} (h : plan.Gives given)
    (heap : Heap) :
    plan.Gives (given.map heap.current) := by
  cases plan with
  | absent =>
    obtain rfl : given = none := h
    rfl
  | fixed list =>
    obtain ⟨outs, rfl, houts⟩ := h
    exact ⟨_, congrArg some (heap.current_list outs), forall₂_current (fun _ _ h => h.current heap) houts⟩
  | computed handler => trivial

private theorem GivesItem.current {item : Entries × ActionPlan} {v : Value} (h : GivesItem item v) (heap : Heap) :
    GivesItem item (heap.current v) := by
  obtain ⟨out, rfl, hgives⟩ := h
  refine ⟨_, heap.current_dict out, ?_⟩
  rw [Entries.named?_mapValues]
  exact hgives.current heap

private theorem ItemPlan.Gives.current {plan : ItemPlan} {given : Option Value} (h : plan.Gives given) (heap : Heap) :
    plan.Gives (given.map heap.current) := by
  cases plan with
  | absent =>
    obtain rfl : given = none := h
    rfl
  | fixed list =>
    obtain ⟨outs, rfl, houts⟩ := h
    exact ⟨_, congrArg some (heap.current_list outs), forall₂_current (fun _ _ h => h.current heap) houts⟩
  | computed handler => trivial

theorem MessagePlan.Shows.current {plan : MessagePlan} {out : Entries} (h : plan.Shows out) (heap : Heap) :
    plan.Shows (out.mapValues heap.current) where
  text name v s ha hi hv hs hplain := by
    rw [Entries.named?_mapValues, h.text name v s ha hi hv hs hplain]
    exact congrArg some (heap.current_str s)
  actions := by
    rw [Entries.named?_mapValues]
    exact h.actions.current heap
  items := by
    rw [Entries.named?_mapValues]
    exact h.items.current heap

/-! ## Putting a message together -/

namespace Machine

variable {m : Machine} {x : Expander}

private theorem yields_setEntry (base : Entries) (name : String) (v : Value) :
    (setEntry (.dict .anonymous base) name v).Yields fun r => ∃ heap : Heap,
      r = .dict .anonymous (Entries.put (base.mapValues heap.current) name v) := by
  have hcurrent : (Run.current (.dict .anonymous base)).Yields fun u => ∃ heap : Heap,
      u = .dict .anonymous (base.mapValues heap.current) := by
    rintro w _ _ ⟨⟩
    exact ⟨w.heap, w.heap.current_dict base⟩
  refine .bind_of hcurrent ?_
  rintro _ ⟨heap, rfl⟩
  exact .bind fun _ => .pure ⟨heap, rfl⟩

theorem yields_mapM {α : Type} {P : α → Value → Prop} {f : α → Run Value} {list : List α}
    (h : ∀ a ∈ list, (f a).Yields (P a)) : (list.mapM f).Yields (List.Forall₂ P list) := by
  induction list with
  | nil => exact .pure .nil
  | cons a rest ih =>
    rw [List.mapM_cons]
    refine .bind_of (h a List.mem_cons_self) fun v hv => ?_
    exact .bind_of (ih fun a ha => h a (List.mem_cons_of_mem _ ha)) fun vs hvs => .pure (.cons hv hvs)

private theorem yields_expandActions {plan : ActionPlan} (h : plan.Plain) (next : Option FlowPath) :
    (m.expandActions x next plan).Yields plan.Gives := by
  cases plan with
  | absent => exact .pure rfl
  | fixed list =>
    refine .bind_of (yields_expand (Lasts.dicts (h list rfl)).expands) ?_
    rintro _ ⟨outs, rfl, houts⟩
    exact .pure ⟨outs, rfl, houts⟩
  | computed handler => exact fun _ _ _ _ => trivial

theorem yields_expandItem {item : Entries × ActionPlan} (h : PlainItem item) (next : Option FlowPath) :
    (m.expandItem x next item).Yields (GivesItem item) := by
  refine .bind_of (yields_expand (Lasts.dict h.exec).expands) ?_
  rintro _ ⟨base, rfl, hkeeps⟩
  refine .bind_of (yields_expandActions h.plain next) fun given hgiven => ?_
  cases given with
  | none =>
    refine .pure ⟨base, rfl, ?_⟩
    rw [hkeeps.absent "actions" h.actions]
    exact hgiven
  | some actions =>
    intro w v w' hv
    obtain ⟨heap, rfl⟩ := yields_setEntry base "actions" actions w v w' hv
    refine ⟨_, rfl, ?_⟩
    rw [Entries.named?_put_self]
    exact hgiven

private theorem yields_expandItems {plan : ItemPlan} (h : ∀ list, plan = .fixed list → ∀ item ∈ list, PlainItem item)
    (next : Option FlowPath) : (m.expandItems x next plan).Yields plan.Gives := by
  cases plan with
  | absent => exact .pure rfl
  | fixed list =>
    refine .bind_of (yields_mapM fun item hitem => yields_expandItem (h list rfl item hitem) next) fun vs hvs => ?_
    exact .pure ⟨vs, rfl, hvs⟩
  | computed handler => exact fun _ _ _ _ => trivial

private theorem yields_attachActions {plan : MessagePlan} {base : Entries} {given : Option Value}
    (h : MessagePlan.Shows { plan with actions := .absent } base) (hgiven : plan.actions.Gives given) :
    (attach (.dict .anonymous base) "actions" given).Yields fun v => ∃ out, v = .dict .anonymous out ∧ plan.Shows out := by
  cases given with
  | none =>
    refine .pure ⟨base, rfl, h.text, ?_, h.items⟩
    rw [show Entries.named? base "actions" = none from h.actions]
    exact hgiven
  | some v =>
    intro w r w' hr
    obtain ⟨heap, rfl⟩ := yields_setEntry base "actions" v w r w' hr
    have hcurrent := h.current heap
    refine ⟨_, rfl, fun name u s ha hi hu hs hplain => ?_, ?_, ?_⟩
    · rw [Entries.named?_put_of_ne ha]
      exact hcurrent.text name u s ha hi hu hs hplain
    · rw [Entries.named?_put_self]
      exact hgiven
    · rw [Entries.named?_put_of_ne (by decide)]
      exact hcurrent.items

private theorem yields_attachItems {plan : MessagePlan} {base : Entries} {given : Option Value}
    (h : MessagePlan.Shows { plan with items := .absent } base) (hgiven : plan.items.Gives given) :
    (attach (.dict .anonymous base) "items" given).Yields fun v => ∃ out, v = .dict .anonymous out ∧ plan.Shows out := by
  cases given with
  | none =>
    refine .pure ⟨base, rfl, h.text, h.actions, ?_⟩
    rw [show Entries.named? base "items" = none from h.items]
    exact hgiven
  | some v =>
    intro w r w' hr
    obtain ⟨heap, rfl⟩ := yields_setEntry base "items" v w r w' hr
    have hcurrent := h.current heap
    refine ⟨_, rfl, fun name u s ha hi hu hs hplain => ?_, ?_, ?_⟩
    · rw [Entries.named?_put_of_ne hi]
      exact hcurrent.text name u s ha hi hu hs hplain
    · rw [Entries.named?_put_of_ne (by decide)]
      exact hcurrent.actions
    · rw [Entries.named?_put_self]
      exact hgiven

theorem yields_assemble {plan : MessagePlan} (h : plan.Plain) (vars : Value) :
    (m.assemble plan vars).Yields fun v => ∃ out, v = .dict .anonymous out ∧ plan.Shows out := by
  unfold assemble
  refine .bind_of (yields_expand (Lasts.dict h.exec).expands) ?_
  rintro _ ⟨base, rfl, hkeeps⟩
  have hbase : MessagePlan.Shows { plan with actions := .absent, items := .absent } base :=
    ⟨fun name v s _ _ => hkeeps.text name v s, hkeeps.absent _ h.noActions, hkeeps.absent _ h.noItems⟩
  refine .bind_of (yields_expandActions h.actions plan.next) fun actions hactions => ?_
  have hattach : (attach (.dict .anonymous base) "actions" actions).Yields fun v =>
      ∃ out, v = .dict .anonymous out ∧ MessagePlan.Shows { plan with items := .absent } out :=
    yields_attachActions hbase hactions
  refine .bind_of hattach ?_
  rintro _ ⟨out, rfl, hout⟩
  refine .bind_of (yields_expandItems h.items plan.next) fun items hitems => ?_
  exact yields_attachItems hout hitems

end Machine

/-! ## Compiled messages -/

namespace Program

variable {s : Program} {r : ExtrasRule}

private theorem Carries.exec_of_forall₂ {list : List Action} {entries : List Entries}
    (h : List.Forall₂ s.Carries list entries)
    (hrule : ActionsFollow .sent list) : ∀ e ∈ entries, Entries.hasName e "exec" = false := by
  induction h with
  | nil => nofun
  | @cons a e list entries hfirst hrest ih =>
    obtain ⟨info, flow⟩ := a
    exact List.forall_mem_cons.mpr ⟨hfirst.exec hrule.1.1, ih hrule.2⟩

private theorem CarriesAll.plain {actions : Actions} {plan : ActionPlan} (h : s.CarriesAll actions plan)
    (hrule : actions.Follows .sent) : plan.Plain := by
  cases h with
  | absent | computed => exact nofun
  | fixed h =>
    rintro _ ⟨⟩
    exact Carries.exec_of_forall₂ h hrule

private theorem CarriesItem.plain_of_forall₂ {list : List Item} {plans : List (Entries × ActionPlan)}
    (h : List.Forall₂ s.CarriesItem list plans) (hrule : ItemsFollow .sent list) : ∀ plan ∈ plans, PlainItem plan := by
  induction h with
  | nil => nofun
  | @cons i plan list plans hfirst hrest ih =>
    obtain ⟨info, actions⟩ := i
    obtain ⟨⟨hinfo, hactions⟩, hlater⟩ := hrule
    refine List.forall_mem_cons.mpr ⟨⟨?_, ?_, hfirst.actions.plain hactions⟩, ih hlater⟩
    · rw [hfirst.params]
      exact ItemInfo.params_exec hinfo
    · rw [hfirst.params]
      exact ItemInfo.params_actions hinfo

theorem CarriesMessage.plain {kind : MessageKind} {id : String} {body : MessageBody} {actions : Actions} {items : Items}
    {plan : MessagePlan} (h : s.CarriesMessage kind body actions items plan)
    (hrule : (Command.message kind id body actions items).Follows .sent) : plan.Plain where
  exec := by
    rw [h.params]
    exact MessageBody.params_exec hrule.1
  noActions := by
    rw [h.params]
    exact MessageBody.params_actions hrule.1
  noItems := by
    rw [h.params]
    exact MessageBody.params_items hrule.1
  actions := h.actions.plain hrule.2.1
  items list hlist := by
    have hitems := h.items
    rw [hlist] at hitems
    cases hitems with
    | fixed hall => exact CarriesItem.plain_of_forall₂ hall hrule.2.2

end Program

/-! ## Sending -/

private theorem posted_of_typed {id : Identity} {entries sent : Entries} (htype : Entries.hasName entries "type" = true)
    (h : Session.posted (.dict id entries) = .ok sent) : sent = entries := by
  unfold Session.posted at h
  simp only [htype, if_true] at h
  split at h
  · cases h
  · split at h <;> cases h
    rfl

private theorem Machine.deliver_eq_ok {m : Machine} {plan : MessagePlan} {vars message : Value} {w w' : World}
    (h : m.deliver plan vars w = .ok message w') : ∃ w₁ sent, m.assemble plan vars w = .ok message w₁ ∧
      w₁.session.locked = false ∧ Session.posted (w₁.heap.current message) = .ok sent ∧
      w' = { w₁ with session := w₁.session.record (.sent sent) } := by
  rw [deliver_eq] at h
  cases hassemble : m.assemble plan vars w with
  | error e w₁ =>
    rw [bind_error hassemble] at h
    cases h
  | ok v w₁ =>
    rw [bind_ok hassemble, bind_ok (show Run.current v w₁ = .ok (w₁.heap.current v) w₁ from rfl)] at h
    cases hsend : Session.send (w₁.heap.current v) w₁.session with
    | error e s =>
      rw [bind_error (onSession_error hsend)] at h
      cases h
    | ok u s =>
      rw [bind_ok (onSession_ok hsend)] at h
      cases h
      cases hlock : w₁.session.locked with
      | true =>
        rw [Session.send_locked _ hlock] at hsend
        cases hsend
      | false =>
        rw [Session.send_eq _ hlock] at hsend
        cases hposted : Session.posted (w₁.heap.current message) with
        | error e =>
          rw [hposted] at hsend
          cases hsend
        | ok sent =>
          rw [hposted] at hsend
          cases hsend
          exact ⟨w₁, sent, rfl, hlock, hposted, rfl⟩

private theorem MessagePlan.Plain.shows_posted {plan : MessagePlan} (h : plan.Plain) {type : String}
    (htype : Entries.named? plan.params "type" = some (.str type)) (hplain : Template.isTemplate type = false)
    {m : Machine} {vars message : Value} {w w₁ : World} (hassemble : m.assemble plan vars w = .ok message w₁)
    (heap : Heap) {sent : Entries} (hsent : Session.posted (heap.current message) = .ok sent) :
    heap.current message = .dict .anonymous sent ∧ plan.Shows sent := by
  obtain ⟨out, rfl, hout⟩ := Machine.yields_assemble h vars w message w₁ hassemble
  have hcurrent := hout.current heap
  have hnamed := hcurrent.text "type" _ type (by decide) (by decide) htype rfl hplain
  rw [heap.current_dict] at hsent ⊢
  obtain rfl := posted_of_typed (by simp [Entries.hasName, hnamed]) hsent
  exact ⟨rfl, hcurrent⟩

theorem MessageKind.name_plain (kind : MessageKind) : Template.isTemplate kind.name = false := by
  cases kind <;> decide

theorem Program.CarriesMessage.shows_delivered {s : Program} {kind : MessageKind} {id : String} {body : MessageBody}
    {actions : Actions} {items : Items} {plan : MessagePlan} (h : s.CarriesMessage kind body actions items plan)
    (hrule : (Command.message kind id body actions items).Follows .sent) {m : Machine} {vars message : Value}
    {w w' : World} (hdeliver : m.deliver plan vars w = .ok message w') :
    ∃ w₁ sent, m.assemble plan vars w = .ok message w₁ ∧ w' = { w₁ with session := w₁.session.record (.sent sent) } ∧
      w'.heap.current message = .dict .anonymous sent ∧ plan.Shows sent := by
  have htype : Entries.named? plan.params "type" = some (.str kind.name) := by
    rw [h.params]
    exact MessageBody.params_type hrule.1
  obtain ⟨w₁, sent, hassemble, -, hposted, rfl⟩ := Machine.deliver_eq_ok hdeliver
  exact ⟨w₁, sent, hassemble, rfl, (h.plain hrule).shows_posted htype kind.name_plain hassemble w₁.heap hposted⟩

/-! ## Replies that are offered -/

section Replies

variable {s : Program}

private theorem ActionKind.name_eq_reply {kind : ActionKind} (h : (kind == .reply) = false) :
    (Value.str kind.name).eq (.str "reply") = false := by
  rw [Value.eq_str]
  cases kind with
  | reply => cases h
  | _ => decide

private theorem ActionKind.name_plain (kind : ActionKind) : Template.isTemplate kind.name = false := by
  cases kind <;> decide

private theorem Program.CarriesAll.no_replies {actions : Actions} {plan : ActionPlan} (h : s.CarriesAll actions plan)
    (hrule : actions.Follows .sent) (hcomputed : actions.isComputed = false) (hreply : actions.hasReply = false)
    {given : Option Value} (hgives : plan.Gives given) : repliesIn (.ofOption given) = false := by
  cases h with
  | absent =>
    obtain rfl : given = none := hgives
    rfl
  | computed => cases hcomputed
  | @fixed list entries h =>
    obtain ⟨outs, rfl, houts⟩ := hgives
    refine List.any_eq_false.mpr ?_
    induction h generalizing outs with
    | nil =>
      cases houts
      nofun
    | @cons a e list entries hfirst _ ih =>
      obtain ⟨info, flow⟩ := a
      cases houts with
      | cons hshown hshowns =>
        obtain ⟨hnone, hnones⟩ : (info.kind == .reply) = false ∧ (Actions.fixed list).hasReply = false := by
          simpa [Actions.hasReply, Action.info] using hreply
        refine List.forall_mem_cons.mpr ⟨?_, ih hrule.2 rfl hnones _ hshowns⟩
        obtain ⟨out, rfl, hkeeps⟩ := hshown
        have htype := hkeeps.text "type" _ info.kind.name (hfirst.type hrule.1.1) rfl info.kind.name_plain
        simp [Entries.named, htype, Value.ofOption, ActionKind.name_eq_reply hnone]

private theorem Program.CarriesItem.no_replies {list : List Item} {plans : List (Entries × ActionPlan)}
    (h : List.Forall₂ s.CarriesItem list plans) (hrule : ItemsFollow .sent list)
    (hcomputed : list.any (·.actions.isComputed) = false) (hreply : list.any (·.actions.hasReply) = false)
    {outs : List Value} (houts : List.Forall₂ GivesItem plans outs) : outs.any Value.offersReply = false := by
  induction h generalizing outs with
  | nil =>
    cases houts
    rfl
  | @cons i plan list plans hfirst _ ih =>
    obtain ⟨info, actions⟩ := i
    obtain ⟨hnone, hcomputed⟩ := Bool.or_eq_false_iff.mp hcomputed
    obtain ⟨hno, hreply⟩ := Bool.or_eq_false_iff.mp hreply
    cases houts with
    | cons hshown hshowns =>
      obtain ⟨out, rfl, hgives⟩ := hshown
      refine Bool.or_eq_false_iff.mpr ⟨?_, ih hrule.2 hcomputed hreply hshowns⟩
      exact hfirst.actions.no_replies hrule.1.2 hnone hno hgives

theorem Program.CarriesMessage.no_replies {kind : MessageKind} {id : String} {body : MessageBody} {actions : Actions}
    {items : Items} {plan : MessagePlan} (h : s.CarriesMessage kind body actions items plan)
    (hrule : (Command.message kind id body actions items).Follows .sent) (hawaits : awaitsReply actions items = false)
    {sent : Entries} (hshows : plan.Shows sent) : Entries.offersReply sent = false := by
  obtain ⟨⟨⟨⟨hactions, hitems⟩, hitemActions⟩, hreply⟩, hitemReply⟩ : (((actions.isComputed = false ∧
      items.isComputed = false) ∧ items.list.any (·.actions.isComputed) = false) ∧ actions.hasReply = false) ∧
        items.list.any (·.actions.hasReply) = false := by
    simpa only [awaitsReply, isDynamic, Bool.or_eq_false_iff] using hawaits
  refine Bool.or_eq_false_iff.mpr ⟨h.actions.no_replies hrule.2.1 hactions hreply hshows.actions, ?_⟩
  have hgives := hshows.items
  have hcarries := h.items
  unfold Entries.named
  generalize plan.items = itemPlan, Entries.named? sent "items" = given at hgives hcarries
  cases hcarries with
  | absent =>
    obtain rfl : given = none := hgives
    rfl
  | computed => cases hitems
  | fixed hlist =>
    obtain ⟨outs, rfl, houts⟩ := hgives
    exact Program.CarriesItem.no_replies hlist hrule.2.2 hitemActions hitemReply houts

end Replies

end Colloquy
