import Colloquy.Proofs.Flow.Normal
import Colloquy.Proofs.Run.Messages

/-!
# How messages are delivered

A message is put together of what its parameters, its actions and its items expand to, and it is sent as it was put
together, with the type of its command. The session also tells a type from what the message shows, whether it needs
one or not. So a message that shows nothing is not sent, and this is the only reason: nothing else can go wrong once
all parts of a message are there.
-/

namespace Colloquy

open Run Expander

namespace Value

private theorem after_append (heaps heaps' : List Heap) (v : Value) : after (heaps ++ heaps') v = after heaps'
    (after heaps v) :=
  List.foldl_append

end Value

namespace Entries

variable {entries out : Entries} {name : String}

/-- What is found under a name is what was there before, as far as shared objects did not change since. -/
def Came (given : Option Value) (out : Entries) (name : String) : Prop :=
  ∃ heaps, named? out name = given.map (Value.after heaps)

private theorem Came.refl (out : Entries) (name : String) : Came (named? out name) out name := by
  refine ⟨[], ?_⟩
  cases named? out name <;> rfl

private theorem Came.trans {given : Option Value} (h : Came given entries name)
    (h' : Came (named? entries name) out name) :
    Came given out name := by
  obtain ⟨heaps, hentries⟩ := h
  obtain ⟨heaps', hout⟩ := h'
  refine ⟨heaps ++ heaps', ?_⟩
  rw [hout, hentries, Option.map_map]
  exact congrArg (Option.map · given) (funext fun v => (Value.after_append heaps heaps' v).symm)

private theorem came_mapValues (heap : Heap) (entries : Entries) (name : String) :
    Came (named? entries name) (entries.mapValues heap.current) name :=
  ⟨[heap], named?_mapValues heap.current entries name⟩

/-- Entries with something more under a name, if there is anything to put there. -/
def attached (heap : Heap) (entries : Entries) (name : String) : Option Value → Entries
  | none => entries
  | some v => put (entries.mapValues heap.current) name v

private theorem came_attached_of_ne {other : String} (hne : name ≠ other) (heap : Heap) (entries : Entries)
    (given : Option Value) :
    Came (named? entries name) (attached heap entries other given) name := by
  cases given with
  | none => exact .refl entries name
  | some v =>
    obtain ⟨heaps, h⟩ := came_mapValues heap entries name
    exact ⟨heaps, (named?_put_of_ne hne _ v).trans h⟩

private theorem came_attached (hnone : named? entries name = none) (heap : Heap) (given : Option Value) :
    Came given (attached heap entries name given) name := by
  cases given with
  | none => exact ⟨[], hnone⟩
  | some v => exact ⟨[], named?_put_self _ name v⟩

/-- A message shows something if it has a medium, items or a text. -/
def ShowsContent (message : Entries) : Prop :=
  ∃ name ∈ ["mediaUrl", "items", "text"], (named message name).isNone = false

end Entries

private theorem Session.inferMessageType_eq_none {message : Entries} :
    inferMessageType message = none ↔ ¬message.ShowsContent := by
  unfold inferMessageType Entries.ShowsContent
  cases hmedia : (Entries.named message "mediaUrl").isNone <;> cases hitems : (Entries.named message "items").isNone <;>
    cases htext : (Entries.named message "text").isNone <;> simp [hmedia, hitems, htext]

/-- What a message is made of: the entries that its parameters expand to, none of them `None`, and its actions and
items, if it has any. -/
structure MessagePlan.Makes (plan : MessagePlan) (x : Expander) (base : Entries) (actions items : Option Value)
    (out : Entries) : Prop where
  params : ∀ Q : Value × Value → Value → Prop, (∀ entry ∈ plan.params, Lasts x (Q entry) entry.2) →
    ∃ vs, List.Forall₂ Q plan.params vs ∧
      base = ((plan.params.map (·.1)).zip vs).filter fun (_, v) => !v.isNone
  others : ∀ name, name ≠ "actions" → name ≠ "items" → Entries.Came (Entries.named? base name) out name
  actions : Entries.Came actions out "actions"
  items : Entries.Came items out "items"

namespace Machine

variable {m : Machine} {plan : MessagePlan} {vars message : Value} {w w' w₁ : World}

private theorem attach_eq (base : Entries) (name : String) (given : Option Value) (w : World) :
    attach (.dict .anonymous base) name given w = .ok (.dict .anonymous (base.attached w.heap name given)) w := by
  cases given with
  | none => rfl
  | some v =>
    rw [attach, setEntry, bind_ok (show Run.current (.dict .anonymous base) w = .ok (w.heap.current _) w from rfl),
      w.heap.current_dict]
    rfl

/-- All that a message is put together of expands, one part after the other, and makes up the message. -/
def PutsTogether (m : Machine) (plan : MessagePlan) (vars : Value) (w w' : World) (out : Entries) : Prop :=
  let x := m.expander vars plan.path
  ∃ base actions items w₁ w₂, x.expand (.dict .anonymous plan.params) w = .ok (.dict .anonymous base) w₁ ∧
    m.expandActions x plan.next plan.actions w₁ = .ok actions w₂ ∧
    m.expandItems x plan.next plan.items w₂ = .ok items w' ∧ plan.Makes x base actions items out

private theorem assemble_eq_ok (h : plan.Plain) (hassemble : m.assemble plan vars w = .ok message w') :
    ∃ out, message = .dict .anonymous out ∧ m.PutsTogether plan vars w w' out := by
  unfold assemble at hassemble
  obtain ⟨v, w₁, hbase, hassemble⟩ := bind_eq_ok hassemble
  obtain ⟨base, rfl, hkeeps⟩ := yields_expand (Lasts.dict h.exec).expands w v w₁ hbase
  obtain ⟨actions, w₂, hactions, hassemble⟩ := bind_eq_ok hassemble
  rw [bind_ok (attach_eq base "actions" actions w₂)] at hassemble
  obtain ⟨items, w₃, hitems, hassemble⟩ := bind_eq_ok hassemble
  rw [attach_eq] at hassemble
  cases hassemble
  refine ⟨_, rfl, base, actions, items, w₁, w₂, hbase, hactions, hitems, fun Q hQ => ?_, fun name hactions hitems => ?_,
    ?_, ?_⟩
  · obtain ⟨vs, hvs, heq⟩ := yields_expand (Lasts.mapping h.exec hQ).expands w _ w₁ hbase
    exact ⟨vs, hvs, (Value.dict.inj heq).2⟩
  · exact (Entries.came_attached_of_ne hactions w₂.heap base actions).trans (Entries.came_attached_of_ne hitems _ _ _)
  · have hnone : Entries.named? base "actions" = none := hkeeps.absent _ h.noActions
    exact (Entries.came_attached hnone w₂.heap actions).trans (Entries.came_attached_of_ne (by decide) _ _ _)
  · refine Entries.came_attached ?_ _ _
    obtain ⟨heaps, hcame⟩ := Entries.came_attached_of_ne (by decide : "items" ≠ "actions") w₂.heap base actions
    rw [hcame, hkeeps.absent _ h.noItems]
    rfl

private theorem PutsTogether.current {out : Entries} (h : m.PutsTogether plan vars w w' out) (heap : Heap) :
    m.PutsTogether plan vars w w' (out.mapValues heap.current) := by
  obtain ⟨base, actions, items, w₁, w₂, hbase, hactions, hitems, hmakes⟩ := h
  refine ⟨base, actions, items, w₁, w₂, hbase, hactions, hitems, hmakes.params, fun name hactions hitems => ?_, ?_, ?_⟩
  · exact (hmakes.others name hactions hitems).trans (Entries.came_mapValues heap out name)
  · exact hmakes.actions.trans (Entries.came_mapValues heap out "actions")
  · exact hmakes.items.trans (Entries.came_mapValues heap out "items")

/-! ## Items -/

def ItemsListed (given : Option Value) : Prop :=
  ∀ v, given = some v → ∃ outs : List Entries, v = .list .anonymous (outs.map (.dict .anonymous))

private theorem ItemsListed.after {given : Option Value} (h : ItemsListed given) (heaps : List Heap) :
    ItemsListed (given.map (Value.after heaps)) := by
  intro v hv
  obtain ⟨u, hu, rfl⟩ := Option.map_eq_some_iff.mp hv
  obtain ⟨outs, rfl⟩ := h u hu
  refine ⟨outs.map (Entries.mapValues (Value.after heaps)), ?_⟩
  rw [Value.after_list, List.map_map, List.map_map]
  exact congrArg _ (List.map_congr_left fun entries _ => Value.after_dict heaps entries)

private theorem itemsListed_of_forall {vs : List Value} (h : ∀ v ∈ vs, ∃ entries, v = .dict .anonymous entries) :
    ItemsListed (some (.ofList vs)) := by
  rintro _ ⟨⟩
  induction vs with
  | nil => exact ⟨[], rfl⟩
  | cons v rest ih =>
    obtain ⟨⟨entries, rfl⟩, hrest⟩ := List.forall_mem_cons.mp h
    obtain ⟨outs, houts⟩ := ih hrest
    exact ⟨entries :: outs, congrArg (fun vs => Value.list .anonymous (.dict .anonymous entries :: vs))
      (Value.list.inj houts).2⟩

private theorem yields_computedItem (next : Option FlowPath) (i : Item) :
    (m.computedItem next i).Yields fun v => ∃ entries, v = .dict .anonymous entries := by
  unfold computedItem
  dsimp only
  split
  · exact .pure ⟨_, rfl⟩
  · exact .throw _
  · exact .bind fun _ => .pure ⟨_, rfl⟩

private theorem yields_expandItems_listed {x : Expander}
    (h : ∀ list, plan.items = .fixed list → ∀ item ∈ list, PlainItem item)
    (next : Option FlowPath) : (m.expandItems x next plan.items).Yields ItemsListed := by
  have hmapM {α : Type} {f : α → Run Value} {list : List α}
      (hf : ∀ a ∈ list, (f a).Yields fun v => ∃ entries, v = .dict .anonymous entries) :
      (do return some (.ofList (← list.mapM f)) : Run (Option Value)).Yields ItemsListed := by
    refine .bind_of (yields_mapM hf) fun vs hvs => .pure (itemsListed_of_forall fun v hv => ?_)
    obtain ⟨i, hi, rfl⟩ := List.mem_iff_getElem.mp hv
    exact (List.forall₂_iff_get.mp hvs).2 i (hvs.length_eq ▸ hi) hi
  have hempty : ItemsListed (some (.ofList [])) := itemsListed_of_forall nofun
  cases hitems : plan.items with
  | absent => exact .pure nofun
  | fixed list =>
    refine hmapM fun item hitem => ?_
    exact fun w v w' hv => (yields_expandItem (h list hitems item hitem) next w v w' hv).imp fun _ hout => hout.1
  | computed handler =>
    refine .bind fun raw => .bind fun raw => ?_
    split
    · exact .pure hempty
    · refine .bind fun items => ?_
      cases items with
      | fixed list => exact hmapM fun i _ => yields_computedItem next i
      | absent => exact .pure hempty
      | computed => exact .throw _

private theorem repliesInItems_ok (outs : List Entries) (w : World) :
    ∃ b, repliesInItems (outs.map (.dict .anonymous)) w = .ok b w := by
  induction outs with
  | nil => exact ⟨false, rfl⟩
  | cons entries rest ih =>
    rw [List.map_cons, repliesInItems]
    split
    · exact ⟨true, rfl⟩
    · exact ih

private theorem offersReply_ok {id : Identity} {out : Entries} (hcurrent : w.heap.current message = .dict id out)
    (hlisted : ItemsListed (Entries.named? out "items")) : ∃ b, offersReply message w = .ok b w := by
  unfold offersReply
  rw [bind_ok (show Run.current message w = .ok _ w from rfl), hcurrent]
  dsimp only
  split
  · exact ⟨true, rfl⟩
  · cases hitems : Entries.named? out "items" with
    | none =>
      rw [Entries.named, hitems]
      exact ⟨false, rfl⟩
    | some v =>
      obtain ⟨outs, rfl⟩ := hlisted v hitems
      rw [Entries.named, hitems]
      cases outs with
      | nil => exact ⟨false, rfl⟩
      | cons entries rest => exact repliesInItems_ok (entries :: rest) w

/-! ## Sending -/

/-- A message that has a text as its type is sent as it is if it shows something, and is refused otherwise. -/
theorem deliver_of_assemble {id : Identity} {out : Entries} {type : String}
    (hassemble : m.assemble plan vars w = .ok message w₁) (hunlocked : w₁.session.locked = false)
    (hcurrent : w₁.heap.current message = .dict id out) (htype : Entries.named? out "type" = some (.str type)) :
    (out.ShowsContent →
      m.deliver plan vars w = .ok message { w₁ with session := w₁.session.record (.sent out) }) ∧
      (¬out.ShowsContent → m.deliver plan vars w = .error (.untypedMessage (.dict id out)) w₁) := by
  have hdeliver : m.deliver plan vars w = (do
      Run.onSession (Session.send (.dict id out))
      return message) w₁ := by
    rw [deliver_eq, bind_ok hassemble, bind_ok (show Run.current message w₁ = .ok _ w₁ from rfl), hcurrent]
  have hsend := Session.send_eq (.dict id out) hunlocked
  have hhas : Entries.hasName out "type" = true := by simp [Entries.hasName, htype]
  have hwritable : (Entries.named out "type").unwritable = false := by
    rw [Entries.named, htype]
    rfl
  unfold Session.posted at hsend
  dsimp only at hsend
  refine ⟨fun hshows => ?_, fun hshows => ?_⟩
  · cases hinfer : Session.inferMessageType out with
    | none => exact absurd hshows (Session.inferMessageType_eq_none.mp hinfer)
    | some type =>
      simp only [hinfer, hhas, hwritable, if_true, Bool.false_eq_true, if_false] at hsend
      rw [hdeliver, bind_ok (onSession_ok hsend)]
      rfl
  · rw [Session.inferMessageType_eq_none.mpr hshows] at hsend
    rw [hdeliver, bind_error (onSession_error hsend)]

/-- The step of a message sends it, if it shows something, and then it is done or goes on with what follows. -/
theorem runStep_of_deliver {own : FlowPath} {id : Identity} {out : Entries}
    (hdeliver : m.deliver plan vars w = .ok message w') (hcurrent : w'.heap.current message = .dict id out)
    (hlisted : ItemsListed (Entries.named? out "items")) :
    ∃ result, m.runStep own vars (.message plan) w = .ok result w' := by
  rw [runStep, sendMessage, bind_ok hdeliver]
  cases plan.dynamic with
  | false => exact ⟨.done, rfl⟩
  | true =>
    cases plan.next with
    | none => exact ⟨.done, rfl⟩
    | some next =>
      obtain ⟨b, hb⟩ := offersReply_ok hcurrent hlisted
      dsimp only
      rw [bind_ok hb]
      cases b with
      | true => exact ⟨.done, rfl⟩
      | false => exact ⟨.jump next.toValue vars, rfl⟩

end Machine

/-- A text or a medium that is written out is shown. -/
theorem Machine.PutsTogether.showsContent {m : Machine} {plan : MessagePlan} {vars : Value} {w w' : World}
    {out : Entries} (h : m.PutsTogether plan vars w w' out) {name s : String} (hname : name = "mediaUrl" ∨ name = "text")
    {v : Value} (hv : Entries.named? plan.params name = some v) (hs : v.text? = some s)
    (hplain : Template.isTemplate s = false) : out.ShowsContent := by
  obtain ⟨base, _, _, _, _, -, -, -, hmakes⟩ := h
  obtain ⟨vs, hvs, rfl⟩ := hmakes.params Entries.KeepsText fun entry _ => Expands.keepsText entry
  obtain ⟨heaps, hcame⟩ := hmakes.others name (by rintro rfl; simp at hname) (by rintro rfl; simp at hname)
  rw [(Entries.keeps_zip hvs).filter.text name v s hv hs hplain] at hcame
  refine ⟨name, by obtain rfl | rfl := hname <;> simp, ?_⟩
  rw [Entries.named, hcame, Option.map_some, Value.after_text rfl]
  rfl

/-- A message command that was read and compiled, and that names no handler to be executed in its place, has a step
that puts a message of its type together of what its parameters, actions and items expand to. If the session is not
locked by then the step sends this message, and nothing else, if and only if the message shows a medium, items or a
text; otherwise it fails since no type can be told, although the message has one. This error is told with the message. If
an integer in it has more than 4300 digits the text cannot be written, and the step fails with the error for the value of
that integer instead. -/
theorem message_is_delivered_iff {raw : Value} {kind : MessageKind} {id : String} {body : MessageBody}
    {actions : Actions} {items : Items}
    (hnormal : Normal.element raw = .ok (.command (.message kind id body actions items)))
    (hexec : (Command.message kind id body actions items).Follows .noExec) {path : FlowPath} {targets : Targets}
    {p q : Program} {step : Step}
    (hcompile : compileCommand (.message kind id body actions items) path targets p = .ok step q) :
    ∃ plan, step = .message plan ∧ plan.params = body.params kind ∧
      ∀ (m : Machine) (own : FlowPath) (vars message : Value) (w w₁ : World),
        m.assemble plan vars w = .ok message w₁ → w₁.session.locked = false →
        ∃ out : Entries, w₁.heap.current message = .dict .anonymous out ∧ m.PutsTogether plan vars w w₁ out ∧
          Entries.named? out "type" = some (.str kind.name) ∧
          ((∃ result, m.runStep own vars step w =
              .ok result { w₁ with session := w₁.session.record (.sent out) }) ↔ out.ShowsContent) ∧
          (¬out.ShowsContent → m.runStep own vars step w = .error (.untypedMessage (.dict .anonymous out)) w₁) := by
  have hreads := Normal.element_reads raw
  rw [hnormal] at hreads
  have hrule : (Command.message kind id body actions items).Follows .sent := Command.follows_both _ hreads hexec
  have hcompiles := compiles_of_compileCommand hcompile
  obtain ⟨plan, rfl⟩ : ∃ plan, step = .message plan := by
    cases hcompiles
    exact ⟨_, rfl⟩
  obtain ⟨_, _, _, _, _, heq, hcarries⟩ := hcompiles.carriesMessage (.refl q)
  cases heq
  have hplain := hcarries.plain hrule
  refine ⟨plan, rfl, hcarries.params, fun m own vars message w w₁ hassemble hunlocked => ?_⟩
  obtain ⟨base, rfl, hmade⟩ := Machine.assemble_eq_ok hplain hassemble
  obtain ⟨_, hout, hshows⟩ := Machine.yields_assemble hplain vars w _ w₁ hassemble
  cases hout
  let out := Entries.mapValues w₁.heap.current base
  have hcurrent : w₁.heap.current (.dict .anonymous base) = .dict .anonymous out := w₁.heap.current_dict base
  have htype : Entries.named? out "type" = some (.str kind.name) := by
    refine (hshows.current w₁.heap).text "type" (.str kind.name) kind.name (by decide) (by decide) ?_ rfl kind.name_plain
    rw [hcarries.params]
    exact MessageBody.params_type hrule.1
  have htogether : m.PutsTogether plan vars w w₁ out := hmade.current w₁.heap
  have hlisted : Machine.ItemsListed (Entries.named? out "items") := by
    obtain ⟨_, _, items, _, w₂, -, -, hitems, hmakes⟩ := htogether
    obtain ⟨heaps, hcame⟩ := hmakes.items
    rw [hcame]
    exact (Machine.yields_expandItems_listed hplain.items plan.next w₂ items w₁ hitems).after heaps
  obtain ⟨hsent, hrefused⟩ := Machine.deliver_of_assemble hassemble hunlocked hcurrent htype
  have hfails (hshows : ¬out.ShowsContent) :
      m.runStep own vars (.message plan) w = .error (.untypedMessage (.dict .anonymous out)) w₁ := by
    rw [Machine.runStep, Machine.sendMessage, bind_error (hrefused hshows)]
  refine ⟨out, hcurrent, htogether, htype, ⟨fun hran => ?_, fun hshows => ?_⟩, hfails⟩
  · obtain ⟨result, hresult⟩ := hran
    by_contra hshows
    rw [hfails hshows] at hresult
    cases hresult
  · exact Machine.runStep_of_deliver (hsent hshows) hcurrent hlisted

/-- A text of which nothing is left: the message has a type, but it is refused since no type can be told. -/
theorem absent_text_is_refused :
    ∃ plan, plan.params = [(.str "type", .str "text"), (.str "text", .accessor .anonymous [.member (.str "x")])] ∧
      let m : Machine := ⟨⟨fun _ _ => pure .none⟩, [], { dialog := { name := "Trial", wildcard := .str "*" } }⟩
      m.runStep [.name "onStart"] (.dict .anonymous []) (.message plan) { session := { id := .str "s" } } =
        .error (.untypedMessage (.dict .anonymous [(.str "type", .str "text")])) { session := { id := .str "s" } } := by
  let text : Value := .accessor .anonymous [.member (.str "x")]
  have hnormal : Normal.element (.record [("type", .str "text"), ("text", text)]) =
      .ok (.command (.message .text "text" { text } .absent .absent)) := by
    with_unfolding_all rfl
  have hcompiles : Compiles (.command (.message .text "text" { text } .absent .absent) [.name "onStart"] {} _)
      { dialog := { name := "Trial", wildcard := .str "*" } } _ := .message rfl .noActions .noItems
  obtain ⟨plan, hplan, hparams, hdelivered⟩ :=
    message_is_delivered_iff hnormal ⟨nofun, trivial, trivial⟩ hcompiles.succeeds
  cases hplan
  let m : Machine := ⟨⟨fun _ _ => pure .none⟩, [], { dialog := { name := "Trial", wildcard := .str "*" } }⟩
  have hassemble : m.assemble ⟨[.name "onStart", .name "text"], MessageBody.params .text { text }, .absent, .absent, none, false⟩
      (.dict .anonymous []) { session := { id := .str "s" } } =
        .ok (.dict .anonymous [(.str "type", .str "text")]) { session := { id := .str "s" } } := by
    with_unfolding_all rfl
  obtain ⟨out, hout, -, -, -, hrefused⟩ := hdelivered m [.name "onStart"] _ _ _ _ hassemble rfl
  cases hout
  refine ⟨_, hparams, hrefused ?_⟩
  rintro ⟨name, hname, hshown⟩
  have hne : (Value.str "type").text? ≠ some name := by
    rintro ⟨⟩
    simp at hname
  rw [Entries.named, Entries.named?_cons, if_neg hne] at hshown
  cases hshown

end Colloquy
