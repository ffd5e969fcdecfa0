import Colloquy.Proofs.Run.Messages

/-!
# Runs that close

A compiled flow does nothing any more once it started or finished a frame or asked a question: what does so is the
last step of its sequence, and the sequence does not jump afterwards. Everything else that a run does is open.
-/

namespace Colloquy

open Run

/-- The contract of runs in an unlocked session after which a request may go on. -/
def Contract.goesOn : Contract where
  holds w := w.session.locked = false
  allows w w' := w.session.GoesOn w'.session
  stops e := e ≠ .sessionLocked
  holds_of_allows h h' := h'.locked.trans h
  trans := .trans
  aside h _ := h ▸ .refl _
  ordinary h := by
    rintro rfl
    cases h

private theorem Session.Opens.meets {effect : Effect Unit} (h : ∀ s : Session, s.locked = false → Opens effect s) :
    Meets .goesOn (Run.onSession effect) := by
  intro w hw
  have hopens := h w.session hw
  unfold Opens at hopens
  cases hr : effect w.session with
  | ok u s =>
    rw [Run.onSession_ok hr]
    rw [hr] at hopens
    exact ⟨hopens, trivial⟩
  | error e s =>
    rw [Run.onSession_error hr]
    rw [hr] at hopens
    exact hopens

private theorem meets_save (values : Value) : Meets .goesOn (Run.onSession (Session.save values)) :=
  Session.Opens.meets fun _ => Session.save_opens values

private theorem meets_sleep (seconds : Float) : Meets .goesOn (Run.sleep seconds) := fun w _ =>
  ⟨Session.goesOn_record (.waited seconds) rfl w.session, trivial⟩

namespace Run

variable {α β : Type}

/-- How a run ended: it was open all the time and gives something in particular, or the last thing that it did closes
and it gives what comes last. -/
def Ends (P last : α → Prop) (w : World) : EStateM.Result Error World α → Prop
  | .ok a w' => (w.session.GoesOn w'.session ∧ P a) ∨ (w.session.Closes w'.session ∧ last a)
  | .error e w' => (w.session.GoesOn w'.session ∨ w.session.Closes w'.session) ∧ e ≠ .sessionLocked

/-- A run that, in an unlocked session, is open all the time and gives something in particular, or closes with the last
thing that it does and gives what comes last. -/
def EndsWith (P last : α → Prop) (x : Run α) : Prop := ∀ w, w.session.locked = false → Ends P last w (x w)

variable {P last : α → Prop} {Q last' : β → Prop}

private theorem Ends.of_goesOn {w w₁ : World} (h : w.session.GoesOn w₁.session) {r : EStateM.Result Error World α}
    (hr : Ends P last w₁ r) : Ends P last w r := by
  cases r with
  | ok a w' => exact hr.imp (And.imp_left h.trans) (And.imp_left h.closes)
  | error e w' => exact ⟨hr.1.imp h.trans h.closes, hr.2⟩

private theorem Ensures.ends {x : Run α} (h : Ensures .goesOn P x) : EndsWith P last x := by
  intro w hw
  have hkept := h w hw
  cases hr : x w with
  | ok a w' =>
    rw [hr] at hkept
    exact .inl hkept
  | error e w' =>
    rw [hr] at hkept
    exact ⟨.inl hkept.1, hkept.2⟩

namespace EndsWith

private theorem bind {x : Run α} {f : α → Run β} (hx : EndsWith P last x) (hf : ∀ a, P a → EndsWith Q last' (f a))
    (hlast : ∀ a, last a → ∃ b, f a = pure b ∧ last' b) : EndsWith Q last' (x >>= f) := by
  intro w hw
  have hends := hx w hw
  cases h : x w with
  | error e w₁ =>
    rw [bind_error h]
    rw [h] at hends
    exact hends
  | ok a w₁ =>
    rw [bind_ok h]
    rw [h] at hends
    obtain ⟨hgoes, ha⟩ | ⟨hcloses, ha⟩ := hends
    · exact .of_goesOn hgoes (hf a ha w₁ (hgoes.locked.trans hw))
    · obtain ⟨b, heq, hb⟩ := hlast a ha
      rw [heq]
      exact .inr ⟨hcloses, hb⟩

private theorem after {x : Run α} {f : α → Run β} (hx : Ensures .goesOn P x) (hf : ∀ a, P a → EndsWith Q last' (f a)) :
    EndsWith Q last' (x >>= f) :=
  bind (show EndsWith P (fun _ => False) x from hx.ends) hf nofun

end EndsWith

end Run

private theorem Session.Shuts.ends {effect : Effect Unit} (h : ∀ s : Session, s.locked = false → Shuts effect s) :
    EndsWith (fun _ => False) (fun _ => True) (Run.onSession effect) := by
  intro w hw
  have hshuts := h w.session hw
  unfold Shuts at hshuts
  cases hr : effect w.session with
  | ok u s =>
    rw [Run.onSession_ok hr]
    rw [hr] at hshuts
    exact .inr ⟨hshuts, trivial⟩
  | error e s =>
    rw [Run.onSession_error hr]
    rw [hr] at hshuts
    obtain ⟨rfl, he⟩ := hshuts
    exact ⟨.inl (.refl _), he⟩

namespace Machine

variable {m : Machine}

/-! ## Messages -/

private theorem repliesInItems_of_any {items : List Value} (h : items.any Value.offersReply = true) (w : World) :
    repliesInItems items w = .ok true w ∨ ∃ f, repliesInItems items w = .error (.fault f) w := by
  induction items with
  | nil => cases h
  | cons v rest ih =>
    cases v with
    | dict id entries =>
      unfold repliesInItems
      cases hreplies : repliesIn (Entries.named entries "actions") with
      | true => exact .inl rfl
      | false =>
        refine ih ?_
        simpa [Value.offersReply, hreplies] using h
    | _ => exact .inr ⟨_, rfl⟩

private theorem offersReply_of_sent {message : Value} {id : Identity} {sent : Entries} {w : World}
    (hmessage : w.heap.current message = .dict id sent) (h : Entries.offersReply sent = true) :
    offersReply message w = .ok true w ∨ ∃ f, offersReply message w = .error (.fault f) w := by
  unfold offersReply
  rw [bind_ok (show Run.current message w = .ok _ w from rfl), hmessage]
  dsimp only
  cases hactions : repliesIn (Entries.named sent "actions") with
  | true => exact .inl rfl
  | false =>
    have hitems := h
    rw [Entries.offersReply, hactions, Bool.false_or] at hitems
    split at hitems
    · rename_i id items hlist
      have htruthy : (Entries.named sent "items").truthy = true := by
        rw [hlist]
        cases items with
        | nil => cases hitems
        | cons => rfl
      simp only [Bool.false_eq_true, if_false, htruthy, if_true]
      rw [hlist]
      exact repliesInItems_of_any hitems w
    · cases hitems

section Walk

variable (happ : m.app.Meets .goesOn)
include happ

private theorem deliver_error {plan : MessagePlan} {vars : Value} {w w' : World} {e : Error}
    (hw : w.session.locked = false)
    (h : m.deliver plan vars w = .error e w') : w.session.GoesOn w'.session ∧ e ≠ .sessionLocked := by
  have hkept := meets_assemble happ plan vars w hw
  rw [deliver_eq] at h
  cases hassemble : m.assemble plan vars w with
  | error e' w₁ =>
    rw [bind_error hassemble] at h
    cases h
    rw [hassemble] at hkept
    exact hkept
  | ok message w₁ =>
    rw [hassemble] at hkept
    rw [bind_ok hassemble, bind_ok (show Run.current message w₁ = .ok (w₁.heap.current message) w₁ from rfl)] at h
    have hsend := Session.send_eq (w₁.heap.current message) (hkept.1.locked.trans hw)
    cases hposted : Session.posted (w₁.heap.current message) with
    | ok sent =>
      rw [hposted] at hsend
      rw [bind_ok (onSession_ok hsend)] at h
      cases h
    | error e' =>
      rw [hposted] at hsend
      rw [bind_error (onSession_error hsend)] at h
      cases h
      refine ⟨hkept.1, ?_⟩
      rcases Session.posted_error hposted with rfl | rfl | rfl <;> nofun

variable {kind : MessageKind} {id : String} {body : MessageBody} {actions : Actions} {items : Items} {plan : MessagePlan}
  (hcarries : m.program.CarriesMessage kind body actions items plan)
  (hrule : (Command.message kind id body actions items).Follows .sent)
include hcarries hrule

private theorem meets_deliver_of_silent (hawaits : awaitsReply actions items = false) (vars : Value) :
    Meets .goesOn (m.deliver plan vars) := by
  intro w hw
  cases hdeliver : m.deliver plan vars w with
  | error e w' => exact deliver_error happ hw hdeliver
  | ok message w' =>
    obtain ⟨w₁, sent, hassemble, rfl, -, hshows⟩ := hcarries.shows_delivered hrule hdeliver
    have hkept := meets_assemble happ plan vars w hw
    rw [hassemble] at hkept
    have hopen : (SessionEvent.sent sent).closes = false := hcarries.no_replies hrule hawaits hshows
    exact ⟨hkept.1.trans (Session.goesOn_record _ hopen _), trivial⟩

private theorem ends_sendMessage {targets : Targets} (hclosed : (Step.message plan).Closed targets m.program)
    (vars : Value) :
    EndsWith (StepResult.Inside m.program targets) (· = .done) (m.sendMessage plan vars) := by
  intro w hw
  unfold sendMessage
  cases hdeliver : m.deliver plan vars w with
  | error e w' =>
    rw [bind_error hdeliver]
    obtain ⟨hgoes, he⟩ := deliver_error happ hw hdeliver
    exact ⟨.inl hgoes, he⟩
  | ok message w' =>
    rw [bind_ok hdeliver]
    obtain ⟨w₁, sent, hassemble, rfl, hmessage, -⟩ := hcarries.shows_delivered hrule hdeliver
    have hkept := meets_assemble happ plan vars w hw
    rw [hassemble] at hkept
    cases hoffers : Entries.offersReply sent with
    | true =>
      have hcloses := hkept.1.closes (Session.closes_record (.sent sent) hoffers _)
      cases plan.dynamic with
      | false => exact .inr ⟨hcloses, rfl⟩
      | true =>
        cases plan.next with
        | none => exact .inr ⟨hcloses, rfl⟩
        | some next =>
          obtain hreply | ⟨f, hreply⟩ := offersReply_of_sent hmessage hoffers
          · dsimp only
            rw [bind_ok hreply]
            exact .inr ⟨hcloses, rfl⟩
          · dsimp only
            rw [bind_error hreply]
            exact ⟨.inr hcloses, nofun⟩
    | false =>
      have hgoes := hkept.1.trans (Session.goesOn_record (.sent sent) hoffers _)
      exact .of_goesOn hgoes ((ensures_afterMessage hclosed message vars).ends _ (hgoes.locked.trans hw))

end Walk

/-! ## Steps -/

section Walk

variable (happ : m.app.Meets .goesOn)
include happ

private theorem admitsStep_of_plain {c : Command} {path : FlowPath} {targets : Targets} {step : Step} {p q : Program}
    (hfollows : c.Follows .sent) (hb : c.breaksFlow = false) (hcompiled : Compiles (.command c path targets step) p q)
    (later : q.Extends m.program) : Contract.goesOn.AdmitsStep m step := by
  cases step with
  | message plan =>
    obtain ⟨kind, id, body, actions, items, rfl, hcarries⟩ := hcompiled.carriesMessage later
    exact meets_deliver_of_silent happ hcarries hfollows hb
  | start =>
    cases hcompiled <;> cases hb
  | finish =>
    cases hcompiled
    cases hb
  | set at_ values => exact meets_save
  | wait at_ seconds => exact meets_sleep
  | iteration =>
    cases hcompiled
    cases hb
  | _ => trivial

private theorem ends_runStep {c : Command} {path : FlowPath} {targets own : Targets} {step : Step} {p q : Program}
    (hfollows : c.Follows .sent) (hcompiled : Compiles (.command c path targets step) p q)
    (later : q.Extends m.program) (hclosed : step.Closed own m.program) (vars : Value) :
    EndsWith (StepResult.Inside m.program own) (· = .done) (m.runStep path vars step) := by
  cases step with
  | message plan =>
    obtain ⟨kind, id, body, actions, items, rfl, hcarries⟩ := hcompiled.carriesMessage later
    exact ends_sendMessage happ hcarries hfollows hclosed vars
  | start at_ target args tag =>
    refine .after (Expander.meets_expand happ target) fun value _ => ?_
    refine .after (Expander.meets_expandGiven happ args) fun defaultArgs _ => ?_
    refine .after (meets_current value) fun value _ => .after (meets_current defaultArgs) fun defaultArgs _ => ?_
    refine .after (StartParam.parse_ordinary value defaultArgs).ensures fun parsed _ => ?_
    refine .bind (Session.Shuts.ends fun _ => Session.start_shuts _ _ _) nofun fun _ _ => ⟨_, rfl, rfl⟩
  | finish at_ result =>
    refine .after (Expander.meets_expand happ result) fun result _ => .after (meets_current result) fun result _ => ?_
    exact .bind (Session.Shuts.ends fun _ => Session.finish_shuts result) nofun fun _ _ => ⟨_, rfl, rfl⟩
  | set at_ values =>
    refine (ensures_runStep happ ?_ hclosed path vars).ends
    exact meets_save
  | wait at_ seconds =>
    refine (ensures_runStep happ ?_ hclosed path vars).ends
    exact meets_sleep
  | iteration init loop =>
    refine (ensures_runStep happ ?_ hclosed path vars).ends
    cases init with
    | none => trivial
    | some entry => exact meets_save
  | _ =>
    refine (ensures_runStep happ ?_ hclosed path vars).ends
    trivial

omit happ in
private theorem ends_cons {step : Step} {rest : List Step} {targets : Targets} (htargets : targets.Known m.program)
    {key : String} {path : FlowPath} {last : StepResult → Prop} {vars : Value}
    (hstep : EndsWith (StepResult.Inside m.program targets) last (m.runStep path vars step))
    (hlast : ∀ result, last result → result = .done ∧ rest = [])
    (hrest : ∀ vars, EndsWith (StepResult.Lands m.program) (· = .done) (m.runSteps key path targets vars rest)) :
    EndsWith (StepResult.Lands m.program) (· = .done) (m.runSteps key path targets vars (step :: rest)) := by
  rw [runSteps_cons]
  refine hstep.bind (fun result hresult => ?_) fun result hend => ?_
  · obtain ⟨-, heq⟩ | ⟨values, heq⟩ | ⟨landed, hlanded, heq⟩ := proceed_cases hresult htargets
    · rw [heq]
      exact hrest vars
    · rw [heq]
      exact .after (meets_overlay vars values) fun vars _ => hrest vars
    · rw [heq]
      exact (Ensures.pure hlanded).ends
  · obtain ⟨rfl, rfl⟩ := hlast result hend
    exact ⟨.done, rfl, rfl⟩

private theorem ends_runSteps {path : FlowPath} {steps : List Step} (hformed : Formed .sent m.program path steps)
    {targets : Targets} (hclosed : ∀ step ∈ steps, step.Closed targets m.program) (htargets : targets.Known m.program)
    (key : String) (vars : Value) :
    EndsWith (StepResult.Lands m.program) (· = .done) (m.runSteps key path targets vars steps) := by
  have hopen {step : Step} {steps : List Step} (hstep : Contract.goesOn.AdmitsStep m step)
      (hclosed : ∀ other ∈ step :: steps, other.Closed targets m.program) (hrest : ∀ vars,
        EndsWith (StepResult.Lands m.program) (· = .done) (m.runSteps key path targets vars steps)) (vars : Value) :
      EndsWith (StepResult.Lands m.program) (· = .done) (m.runSteps key path targets vars (step :: steps)) :=
    have hfirst : EndsWith (StepResult.Inside m.program targets) (fun _ => False) (m.runStep path vars step) :=
      (ensures_runStep happ hstep (hclosed step List.mem_cons_self) path vars).ends
    ends_cons htargets hfirst nofun hrest
  induction hformed generalizing vars with
  | nil => exact (Ensures.pure trivial).ends
  | jump target =>
    refine hopen ?_ hclosed (fun _ => (Ensures.pure trivial).ends) vars
    trivial
  | handler _ ih =>
    refine hopen ?_ hclosed (ih fun step hmem => hclosed step (List.mem_cons_of_mem _ hmem)) vars
    trivial
  | plain follows hb compiled later _ ih =>
    refine hopen (admitsStep_of_plain happ follows hb compiled later) hclosed (ih fun step hmem => ?_) vars
    exact hclosed step (List.mem_cons_of_mem _ hmem)
  | last follows hb compiled later =>
    refine ends_cons htargets (ends_runStep happ follows compiled later (hclosed _ List.mem_cons_self) vars)
      (fun result hresult => ⟨hresult, rfl⟩) fun vars => (Ensures.pure trivial).ends

/-! ## Runs -/

private theorem ends_runHandler (htraced : m.program.Traced .sent) (hclosed : m.program.Closed) {key : String}
    {handler : FlowHandler} (hl : m.program.flows.lookup key = some handler) (path vars : Value) :
    EndsWith (StepResult.Lands m.program) (· = .done) (m.runHandler path vars handler) := by
  have hhandler := hclosed key handler hl
  cases handler with
  | sequence own ownPath steps targets =>
    exact ends_runSteps happ (htraced.formed hl) hhandler.1 hhandler.2 own vars
  | loop id at_ condition body exit => exact (ensures_loop happ hhandler.1 hhandler.2 at_ condition vars).ends
  | external fn => exact hhandler.elim

private theorem ends_hop (htraced : m.program.Traced .sent) (hclosed : m.program.Closed) {path : Value}
    (hpath : m.program.Admits path) (vars : Value) : EndsWith (fun jump => ∀ target vars, jump = some (target, vars) →
      ∃ own : FlowPath, target = own.toValue ∧ m.program.Knows own) (· = none) (m.hop path vars) := by
  refine .after (ensures_find hpath) fun handler ⟨key, hl⟩ => ?_
  refine (ends_runHandler happ htraced hclosed hl path vars).bind (fun _ h => (ensures_landing h).ends) ?_
  rintro _ rfl
  exact ⟨none, rfl, rfl⟩

private theorem ends_follow (htraced : m.program.Traced .sent) (hclosed : m.program.Closed) (fuel : Nat)
    {jump : Option (Value × Value)} (hjump : ∀ target vars, jump = some (target, vars) → m.program.Admits target) :
    EndsWith (fun _ => True) (· = none) (m.follow fuel jump) := by
  induction fuel generalizing jump with
  | zero =>
    cases jump with
    | none => exact (Ensures.pure trivial).ends
    | some => exact (Ensures.pure trivial).ends
  | succ fuel ih =>
    cases jump with
    | none => exact (Ensures.pure trivial).ends
    | some jump =>
      refine (ends_hop happ htraced hclosed (hjump _ _ rfl) _).bind (fun next hnext => ih fun target vars hjump => ?_) ?_
      · obtain ⟨own, rfl, hown⟩ := hnext target vars hjump
        exact hown.admits
      · rintro _ rfl
        cases fuel <;> exact ⟨none, rfl, rfl⟩

/-- Whatever closes during a run is the last thing that the run does. -/
theorem ends_invoke (htraced : m.program.Traced .sent) (hclosed : m.program.Closed) (fuel : Nat) {path : Value}
    (hpath : m.program.Admits path) (vars : Value) :
    EndsWith (fun _ => True) (fun _ => True) (m.invoke fuel path vars) := by
  have hjump (target vars' : Value) (h : some (path, vars) = some (target, vars')) : m.program.Admits target := by
    cases h
    exact hpath
  refine (ends_follow happ htraced hclosed fuel hjump).bind (fun next _ => ?_) ?_
  · cases next with
    | some jump => exact (Meets.fault _).ends
    | none => exact (Ensures.pure trivial).ends
  · rintro _ rfl
    exact ⟨(), rfl, trivial⟩

theorem ends_resume (htraced : m.program.Traced .sent) (hclosed : m.program.Closed) {path : Value}
    (hpath : m.program.Admits path) (value : Value) :
    EndsWith (fun _ => True) (fun _ => True) (m.resume path value) :=
  .after (meets_enter value) fun vars _ => ends_invoke happ htraced hclosed jumpBound hpath vars

end Walk

end Machine

end Colloquy
