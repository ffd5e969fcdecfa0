import Colloquy.Proofs.Compile.Closed
import Colloquy.Proofs.Compile.Origin
import Colloquy.Proofs.Flow.Key
import Colloquy.Proofs.Flow.Naming
import Colloquy.Proofs.Flow.Normal
import Colloquy.Proofs.Run.Expansion
import Colloquy.Run.Machine

/-!
# Contracts of steps

Whatever the functions of an application and the effects of a session keep to, every step of a sequence
keeps to as well, and so does a whole run that starts at a registered flow: a compiled flow only jumps to
registered flows, so nothing but ordinary errors is added on the way.
-/

namespace Colloquy

open Run

/-- The effects of a session keep to a contract. -/
structure Contract.Admits (c : Contract) : Prop where
  save : ∀ values, Meets c (Run.onSession (Session.save values))
  send : ∀ message, Meets c (Run.onSession (Session.send message))
  start : ∀ dialog tag locals, Meets c (Run.onSession (Session.start dialog tag locals))
  finish : ∀ result, Meets c (Run.onSession (Session.finish result))
  sleep : ∀ seconds, Meets c (Run.sleep seconds)

def Contract.AdmitsStep (c : Contract) (m : Machine) : Step → Prop
  | .message plan => ∀ vars, Meets c (m.deliver plan vars)
  | .start .. => ∀ dialog tag locals, Meets c (Run.onSession (Session.start dialog tag locals))
  | .finish .. => ∀ result, Meets c (Run.onSession (Session.finish result))
  | .set .. | .iteration (some _) _ => ∀ values, Meets c (Run.onSession (Session.save values))
  | .wait .. => ∀ seconds, Meets c (Run.sleep seconds)
  | _ => True

variable {c : Contract}

theorem Reads.ensures {α : Type} {P : α → Prop} {x : Except Error α} (h : Reads P x) :
    Ensures c P (Run.ofExcept x) := by
  cases x with
  | ok a => exact .pure h
  | error e => exact .throw (c.ordinary h)

theorem StartParam.parse_ordinary (value defaultArgs : Value) : Ordinary (parse value defaultArgs) := by
  unfold parse
  dsimp only
  split
  · refine .ite (fun _ => rfl) fun _ => .ite (fun _ => trivial) fun _ => rfl
  · rfl

namespace Machine

variable {m : Machine}

/-! ## Messages -/

def assemble (m : Machine) (plan : MessagePlan) (vars : Value) : Run Value := do
  let x := m.expander vars plan.path
  let message ← x.expand (.dict .anonymous plan.params)
  let message ← attach message "actions" (← m.expandActions x plan.next plan.actions)
  attach message "items" (← m.expandItems x plan.next plan.items)

theorem deliver_eq (m : Machine) (plan : MessagePlan) (vars : Value) :
    m.deliver plan vars = (do
      let message ← m.assemble plan vars
      Run.onSession (Session.send (← Run.current message))
      return message) := by
  simp only [deliver, assemble, bind_assoc]

theorem meets_overlay (vars : Value) (values : Entries) : Meets c (overlay vars values) := by
  refine (meets_current vars).bind fun vars => ?_
  split
  · exact meets_store _
  · exact .fault _

private theorem meets_setEntry (container : Value) (name : String) (v : Value) : Meets c
    (setEntry container name v) := by
  intro w hw
  unfold setEntry
  rw [bind_ok (show Run.current container w = .ok (w.heap.current container) w from rfl)]
  cases hcurrent : w.heap.current container with
  | dict id entries =>
    have hchanged : Heap.Changed (w.heap.current container) (.dict id (Entries.put entries name v)) :=
      hcurrent ▸ .dict id entries _
    obtain ⟨w', hwrite, hsession, hheap⟩ := write_changed hchanged
    dsimp only
    rw [bind_ok hwrite]
    exact ⟨c.aside hsession hheap, trivial⟩
  | _ => exact Meets.fault (c := c) (α := Value) _ w hw

private theorem meets_attach (message : Value) (name : String) (v : Option Value) : Meets c
    (attach message name v) := by
  cases v with
  | none => exact .pure _
  | some v => exact meets_setEntry message name v

private theorem meets_computedAction (next : Option FlowPath) (a : Action) : Meets c (m.computedAction next a) := by
  have hkey (path : Value) : Meets c (Run.ofExcept (m.program.key path)) :=
    (FlowKey.unkeyed_ofValue _ path).ordinary.ensures
  have hpath (path : FlowPath) : Meets c (Run.ofExcept (m.program.pathKey path)) :=
    (FlowKey.unkeyed_ofIds _ _).ordinary.ensures
  unfold computedAction
  extract_lets info params withKey offer
  have hkeyed (u : PUnit) : Meets c (withKey u) := (hkey _).bind fun _ => .pure _
  have hoffer (u : PUnit) : Meets c (offer u) := by
    refine .ite (.ite ((Meets.throw (c.ordinary rfl)).bind hkeyed) (hkeyed ())) ?_
    cases next with
    | none => exact .pure _
    | some target => exact .ite ((hpath target).bind fun _ => .pure _) (.pure _)
  exact .ite ((Meets.throw (c.ordinary rfl)).bind hoffer) (hoffer ())

private theorem meets_computedItem (next : Option FlowPath) (i : Item) : Meets c (m.computedItem next i) := by
  unfold computedItem
  dsimp only
  split
  · exact .pure _
  · exact .throw (c.ordinary rfl)
  · exact (Meets.mapM fun a _ => meets_computedAction next a).bind fun _ => .pure _

private theorem meets_computed {α : Type} {x : Expander} (happ : x.app.Meets c) (handler : Value)
    {read : Value → Except Error α} (hread : ∀ v, Ordinary (read v)) {send : α → Run (Option Value)}
    (hsend : ∀ a, Meets c (send a)) : Meets c (do
      let raw ← Run.current (← x.expand handler)
      if raw.isNone then return some (.ofList [])
      send (← Run.ofExcept (read raw))) := by
  refine (Expander.meets_expand happ handler).bind fun raw => (meets_current raw).bind fun raw => ?_
  exact .ite (.pure _) ((hread raw).ensures.meets.bind hsend)

private theorem meets_expandActions {x : Expander} (happ : x.app.Meets c) (next : Option FlowPath) (plan : ActionPlan) :
    Meets c (m.expandActions x next plan) := by
  cases plan with
  | absent => exact .pure none
  | fixed actions => exact (Expander.meets_expand happ _).bind fun _ => .pure _
  | computed handler =>
    refine meets_computed happ handler (fun v => (Normal.actions_reads _ v).mono fun _ _ => trivial) fun actions => ?_
    cases actions with
    | fixed actions => exact (Meets.mapM fun a _ => meets_computedAction next a).bind fun _ => .pure _
    | absent => exact .pure _
    | computed handler => exact .fault _

private theorem meets_expandItem {x : Expander} (happ : x.app.Meets c) (next : Option FlowPath)
    (item : Entries × ActionPlan) : Meets c (m.expandItem x next item) := by
  refine (Expander.meets_expand happ _).bind fun v => (meets_expandActions happ next item.2).bind fun actions => ?_
  cases actions with
  | some actions => exact meets_setEntry v "actions" actions
  | none => exact .pure v

private theorem meets_expandItems {x : Expander} (happ : x.app.Meets c) (next : Option FlowPath) (plan : ItemPlan) :
    Meets c (m.expandItems x next plan) := by
  cases plan with
  | absent => exact .pure none
  | fixed items => exact (Meets.mapM fun item _ => meets_expandItem happ next item).bind fun _ => .pure _
  | computed handler =>
    refine meets_computed happ handler (fun v => (Normal.items_reads v).mono fun _ _ => trivial) fun items => ?_
    cases items with
    | fixed items => exact (Meets.mapM fun i _ => meets_computedItem next i).bind fun _ => .pure _
    | absent => exact .pure _
    | computed handler => exact .fault _

private theorem meets_repliesInItems (items : List Value) : Meets c (repliesInItems items) := by
  induction items with
  | nil => exact .pure false
  | cons v rest ih =>
    cases v with
    | dict id entries => exact .ite (.pure true) ih
    | _ => exact .fault _

private theorem meets_offersReply (message : Value) : Meets c (offersReply message) := by
  refine (meets_current message).bind fun message => ?_
  cases message with
  | dict id entries =>
    refine .ite (.pure true) (.ite ?_ (.pure false))
    exact (Meets.ofOutcome _).bind fun items => meets_repliesInItems items
  | _ => exact .fault _

theorem meets_assemble (happ : m.app.Meets c) (plan : MessagePlan) (vars : Value) :
    Meets c (m.assemble plan vars) := by
  refine (Expander.meets_expand happ _).bind fun message => ?_
  refine (meets_expandActions happ plan.next plan.actions).bind fun actions => ?_
  refine (meets_attach message "actions" actions).bind fun message => ?_
  exact (meets_expandItems happ plan.next plan.items).bind fun items => meets_attach message "items" items

end Machine

/-! ## Steps -/

/-- What a step of a sequence leads to: it jumps to registered flows only, and it signals only what its
sequence has a target for. -/
def StepResult.Inside (p : Program) (targets : Targets) : StepResult → Prop
  | .jump target _ => ∃ path : FlowPath, target = path.toValue ∧ p.Knows path
  | .signal .break => targets.breakTo ≠ none
  | .signal .continue => targets.continueTo ≠ none
  | .done | .update _ => True

/-- What a flow leads to: it jumps to registered flows only. -/
def StepResult.Lands (p : Program) : StepResult → Prop
  | .jump target _ => ∃ path : FlowPath, target = path.toValue ∧ p.Knows path
  | .signal _ => False
  | .done | .update _ => True

/-- A path in any form that is not the key of anything but a registered flow. -/
def Program.Admits (p : Program) (path : Value) : Prop := ∀ key, p.key path = .ok key → p.flows.lookup key ≠ none

theorem Program.Knows.admits {p : Program} {path : FlowPath} (h : p.Knows path) : p.Admits path.toValue := by
  obtain ⟨key, hkey, hl⟩ := h
  intro other hother
  obtain rfl := Except.ok.inj (hkey.symm.trans hother)
  exact hl

private theorem Program.Traced.admits {r : ExtrasRule} {p : Program} (h : p.Traced r) {key : String}
    (hl : p.flows.lookup key ≠ none) : p.Admits (.str key) := by
  obtain ⟨handler, hhandler⟩ := Option.ne_none_iff_exists'.mp hl
  obtain ⟨path, hpath⟩ := (h key handler hhandler).pathKey
  intro other hother
  have hother : FlowKey.ofText p.dialog.name key = .ok other := hother
  by_cases hname : ':' ∈ p.dialog.name.toList
  · rw [FlowKey.ofText_of_colon hname hpath] at hother
    cases hother
  · obtain rfl := Except.ok.inj ((FlowKey.ofText_of_ofIds hname hpath).symm.trans hother)
    exact hl

theorem Program.Traced.admits_either {r : ExtrasRule} {p : Program} (h : p.Traced r) {key : String}
    (hl : p.flows.lookup key ≠ none) {path : Value} (hpath : path = .str key ∨ p.key path = .ok key) :
    p.Admits path := by
  rcases hpath with rfl | hpath
  · exact h.admits hl
  · intro other hother
    obtain rfl := Except.ok.inj (hpath.symm.trans hother)
    exact hl

namespace Machine

variable {m : Machine}

private theorem selectCase_mem {value : Value} {fallback path : FlowPath} {cases : List (Value × FlowPath)}
    (h : selectCase value fallback cases = .ok path) : path = fallback ∨ path ∈ cases.map (·.2) := by
  induction cases with
  | nil => exact .inl (Except.ok.inj h).symm
  | cons entry rest ih =>
    obtain ⟨case, target⟩ := entry
    unfold selectCase at h
    cases hmatch : matchesCase value case with
    | error f =>
      rw [hmatch] at h
      cases h
    | ok matched =>
      rw [hmatch] at h
      cases matched with
      | true => exact .inr (by simp [(Except.ok.inj h).symm])
      | false => exact (ih h).imp_right fun hmem => List.mem_cons_of_mem _ hmem

private theorem chooseCase_mem {value : Value} {fallback path : FlowPath} {cases : List (Value × FlowPath)}
    (h : chooseCase value fallback cases = .ok path) : path = fallback ∨ path ∈ cases.map (·.2) := by
  unfold chooseCase at h
  cases hselect : selectCase value fallback cases with
  | error f =>
    rw [hselect] at h
    cases h
  | ok target =>
    rw [hselect] at h
    cases hwrite : value.repr? with
    | error f =>
      rw [hwrite] at h
      cases h
    | ok shown =>
      rw [hwrite] at h
      exact Except.ok.inj h ▸ selectCase_mem hselect

section Walk

variable (happ : m.app.Meets c)
include happ

theorem meets_holds (path : FlowPath) (condition vars : Value) : Meets c (m.holds path condition vars) :=
  (Expander.meets_expand happ condition).bind fun v => (meets_current v).bind fun _ => .pure _

theorem ensures_loop {body exit : FlowPath} (hbody : m.program.Knows body) (hexit : m.program.Knows exit)
    (at_ : FlowPath) (condition vars : Value) : Ensures c (StepResult.Lands m.program) (do
      let passed ← m.holds at_ condition vars
      return .jump (if passed then body else exit).toValue vars) := by
  refine (meets_holds happ at_ condition vars).andThen fun passed => ?_
  cases passed with
  | true => exact .pure ⟨body, rfl, hbody⟩
  | false => exact .pure ⟨exit, rfl, hexit⟩

private theorem meets_setVariables (hsave : ∀ values, Meets c (Run.onSession (Session.save values))) (path : FlowPath)
    (values : Fields) (vars : Value) : Meets c (m.setVariables path values vars) := by
  refine (Expander.meets_expandSet happ _).bind fun values => (meets_current values).bind fun values => ?_
  exact (hsave values).bind fun _ => .pure _

private theorem meets_assign (hsave : ∀ values, Meets c (Run.onSession (Session.save values))) (path : FlowPath)
    (values : Fields) (vars : Value) : Meets c (m.assign path values vars) :=
  (meets_setVariables happ hsave path values vars).bind fun values => meets_overlay vars values

omit happ in
private theorem meets_wait (hsleep : ∀ seconds, Meets c (Run.sleep seconds)) (value : Value) : Meets c
    (m.wait value) := by
  unfold wait
  extract_lets withSeconds
  have hseconds (seconds : Float) : Meets c (withSeconds seconds) := by
    unfold withSeconds
    dsimp only
    split
    · exact .ite ((meets_log _ _).bind fun _ => hsleep _) (hsleep _)
    · exact hsleep _
  split
  · exact hseconds _
  · exact (Meets.fault _).bind hseconds
  · refine (Meets.throw (c.ordinary ?_)).bind hseconds
    split <;> rfl

omit happ in
theorem ensures_afterMessage {plan : MessagePlan} {targets : Targets}
    (hclosed : (Step.message plan).Closed targets m.program) (message vars : Value) :
    Ensures c (StepResult.Inside m.program targets) (match plan.dynamic, plan.next with
      | true, some next => do if ← offersReply message then return .done else return .jump next.toValue vars
      | _, _ => return .done) := by
  split
  · rename_i next _ hnext
    refine (meets_offersReply message).andThen fun offers => ?_
    cases offers with
    | true => exact .pure trivial
    | false => exact .pure ⟨next, rfl, hclosed next hnext⟩
  · exact .pure trivial

theorem ensures_runStep {step : Step} (hstep : c.AdmitsStep m step) {targets : Targets}
    (hclosed : step.Closed targets m.program) (path : FlowPath) (vars : Value) :
    Ensures c (StepResult.Inside m.program targets) (m.runStep path vars step) := by
  cases step with
  | handler fn => exact (meets_callHandler happ fn _ _ _).andThen fun _ => .pure trivial
  | message plan => exact (hstep vars).andThen fun message => ensures_afterMessage hclosed message vars
  | conditional at_ test yes no =>
    refine (meets_holds happ at_ test vars).andThen fun passed => ?_
    cases passed with
    | true => exact .pure ⟨yes, rfl, hclosed.1⟩
    | false => exact .pure ⟨no, rfl, hclosed.2⟩
  | switch at_ value cases fallback =>
    refine (Expander.meets_expand happ value).andThen fun value => (meets_current value).andThen fun value => ?_
    cases hchoose : chooseCase value fallback cases with
    | error f =>
      have hfault : Ensures c (fun _ => False) (Run.ofOutcome (.error f) : Run FlowPath) := .throw (c.ordinary rfl)
      exact hfault.bind fun _ h => h.elim
    | ok target =>
      rcases chooseCase_mem hchoose with rfl | hmem
      · exact .pure ⟨_, rfl, hclosed.2⟩
      · exact .pure ⟨target, rfl, hclosed.1 target hmem⟩
  | iteration init loop =>
    cases init with
    | none => exact .pure ⟨loop, rfl, hclosed⟩
    | some entry =>
      exact (meets_assign happ hstep entry.1 entry.2 vars).andThen fun _ => .pure ⟨loop, rfl, hclosed⟩
  | start at_ target args tag =>
    refine (Expander.meets_expand happ target).andThen fun value => ?_
    refine (Expander.meets_expandGiven happ args).andThen fun defaultArgs => ?_
    refine (meets_current value).andThen fun value => (meets_current defaultArgs).andThen fun defaultArgs => ?_
    refine (StartParam.parse_ordinary value defaultArgs).ensures.meets.andThen fun parsed => ?_
    exact (hstep _ _ _).andThen fun _ => .pure trivial
  | finish at_ result =>
    refine (Expander.meets_expand happ result).andThen fun result => (meets_current result).andThen fun result => ?_
    exact (hstep result).andThen fun _ => .pure trivial
  | set at_ values => exact (meets_setVariables happ hstep at_ values vars).andThen fun _ => .pure trivial
  | exec at_ target args => exact (Expander.meets_exec happ _).andThen fun _ => .pure trivial
  | wait at_ seconds =>
    refine (Expander.meets_expand happ seconds).andThen fun seconds => (meets_current seconds).andThen fun seconds => ?_
    exact (meets_wait hstep seconds).andThen fun _ => .pure trivial
  | signal s =>
    cases s with
    | «break» => exact .pure hclosed
    | «continue» => exact .pure hclosed
  | jump target => exact .pure ⟨target, rfl, hclosed⟩

end Walk

/-! ## Sequences -/

/-- How a sequence goes on after one of its steps, `rest` being the run of the steps that are left. -/
def proceed (key : String) (targets : Targets) (vars : Value) (rest : Value → Run StepResult) :
    StepResult → Run StepResult
  | .done => rest vars
  | .update values => do rest (← overlay vars values)
  | .jump target vars => return .jump target vars
  | .signal s =>
    match (match s with | .break => targets.breakTo | .continue => targets.continueTo) with
    | some target => return .jump target.toValue vars
    | none => throw (.escapedSequence s key)

theorem runSteps_cons (m : Machine) (key : String) (path : FlowPath) (targets : Targets) (vars : Value) (step : Step)
    (rest : List Step) : m.runSteps key path targets vars (step :: rest) = (do
      proceed key targets vars (fun vars => m.runSteps key path targets vars rest) (← m.runStep path vars step)) := by
  refine bind_congr fun result => ?_
  cases result <;> rfl

theorem proceed_cases {key : String} {targets : Targets} {vars : Value} {rest : Value → Run StepResult}
    {result : StepResult} {p : Program} (hresult : result.Inside p targets) (htargets : targets.Known p) :
    (result = .done ∧ proceed key targets vars rest result = rest vars) ∨
      (∃ values, proceed key targets vars rest result = overlay vars values >>= rest) ∨
      ∃ landed : StepResult, landed.Lands p ∧ proceed key targets vars rest result = pure landed := by
  cases result with
  | done => exact .inl ⟨rfl, rfl⟩
  | update values => exact .inr (.inl ⟨values, rfl⟩)
  | jump target vars => exact .inr (.inr ⟨.jump target vars, hresult, rfl⟩)
  | signal s =>
    refine .inr (.inr ?_)
    cases s with
    | «break» =>
      obtain ⟨target, ht⟩ := Option.ne_none_iff_exists'.mp hresult
      exact ⟨.jump target.toValue vars, ⟨target, rfl, htargets.breakTo target ht⟩, by simp only [proceed, ht]⟩
    | «continue» =>
      obtain ⟨target, ht⟩ := Option.ne_none_iff_exists'.mp hresult
      exact ⟨.jump target.toValue vars, ⟨target, rfl, htargets.continueTo target ht⟩, by simp only [proceed, ht]⟩

section Walk

variable (happ : m.app.Meets c) (heffects : c.Admits)
include happ heffects

private theorem meets_deliver (plan : MessagePlan) (vars : Value) : Meets c (m.deliver plan vars) := by
  rw [deliver_eq]
  refine (meets_assemble happ plan vars).bind fun message => (meets_current message).bind fun sent => ?_
  exact (heffects.send sent).bind fun _ => .pure message

private theorem admitsStep (step : Step) : c.AdmitsStep m step := by
  cases step with
  | message plan => exact meets_deliver happ heffects plan
  | start at_ target args tag => exact heffects.start
  | finish at_ result => exact heffects.finish
  | set at_ values => exact heffects.save
  | iteration init loop =>
    cases init with
    | none => trivial
    | some entry => exact heffects.save
  | wait at_ seconds => exact heffects.sleep
  | _ => trivial

private theorem ensures_runSteps {steps : List Step} {targets : Targets}
    (hclosed : ∀ step ∈ steps, step.Closed targets m.program)
    (htargets : targets.Known m.program) (key : String) (path : FlowPath) (vars : Value) :
    Ensures c (StepResult.Lands m.program) (m.runSteps key path targets vars steps) := by
  induction steps generalizing vars with
  | nil => exact .pure trivial
  | cons step rest ih =>
    have hrest := ih fun step hmem => hclosed step (List.mem_cons_of_mem _ hmem)
    have hstep := ensures_runStep happ (admitsStep happ heffects step)
      (hclosed step List.mem_cons_self) path vars
    rw [runSteps_cons]
    refine hstep.bind fun result hresult => ?_
    obtain ⟨-, heq⟩ | ⟨values, heq⟩ | ⟨landed, hlanded, heq⟩ := proceed_cases hresult htargets
    · rw [heq]
      exact hrest vars
    · rw [heq]
      exact (meets_overlay vars values).andThen hrest
    · rw [heq]
      exact .pure hlanded

theorem ensures_runHandler {handler : FlowHandler} (hclosed : handler.Closed m.program) (path vars : Value) :
    Ensures c (StepResult.Lands m.program) (m.runHandler path vars handler) := by
  cases handler with
  | sequence key own steps targets => exact ensures_runSteps happ heffects hclosed.1 hclosed.2 key own vars
  | loop id at_ condition body exit => exact ensures_loop happ hclosed.1 hclosed.2 at_ condition vars
  | external fn => exact hclosed.elim

/-! ## Runs -/

omit happ heffects in
theorem ensures_find {path : Value} (hpath : m.program.Admits path) :
    Ensures c (fun handler => ∃ key, m.program.flows.lookup key = some handler)
      (Run.ofExcept (m.program.find path)) := by
  cases hkey : m.program.key path with
  | error e =>
    have hfind : m.program.find path = .error e := by simp [Program.find, hkey, bind, Except.bind]
    rw [hfind]
    exact .throw (c.ordinary ((FlowKey.unkeyed_ofValue _ path).ordinary.error hkey))
  | ok key =>
    obtain ⟨handler, hl⟩ := Option.ne_none_iff_exists'.mp (hpath key hkey)
    rw [Program.find_eq_ok.mpr ⟨key, hkey, hl⟩]
    exact .pure ⟨key, hl⟩

omit happ heffects in
theorem ensures_landing {path : Value} {result : StepResult} (hresult : result.Lands m.program) :
    Ensures c (fun jump => ∀ target vars, jump = some (target, vars) →
      ∃ own : FlowPath, target = own.toValue ∧ m.program.Knows own) (m.landing path result) := by
  cases result with
  | jump target vars =>
    refine .pure ?_
    rintro _ _ ⟨⟩
    exact hresult
  | signal s => exact hresult.elim
  | done | update => exact .pure nofun

/-- One flow of a run keeps to the contract and jumps to a registered flow, if anywhere. -/
theorem ensures_hop (hclosed : m.program.Closed) {path : Value} (hpath : m.program.Admits path) (vars : Value) :
    Ensures c (fun jump => ∀ target vars, jump = some (target, vars) →
      ∃ own : FlowPath, target = own.toValue ∧ m.program.Knows own) (m.hop path vars) := by
  refine (ensures_find hpath).bind fun handler ⟨key, hl⟩ => ?_
  exact (ensures_runHandler happ heffects (hclosed key handler hl) path vars).bind fun _ => ensures_landing

private theorem meets_follow (hclosed : m.program.Closed) (fuel : Nat) {jump : Option (Value × Value)}
    (hjump : ∀ target vars, jump = some (target, vars) → m.program.Admits target) : Meets c (m.follow fuel jump) := by
  induction fuel generalizing jump with
  | zero => cases jump <;> exact .pure _
  | succ fuel ih =>
    cases jump with
    | none => exact .pure _
    | some jump =>
      refine (ensures_hop happ heffects hclosed (hjump _ _ rfl) _).bind fun next hnext => ih fun target vars hjump => ?_
      obtain ⟨own, rfl, hown⟩ := hnext target vars hjump
      exact hown.admits

/-- A run that starts at a registered flow keeps to the contract. -/
theorem meets_invoke (hclosed : m.program.Closed) (fuel : Nat) {path : Value} (hpath : m.program.Admits path)
    (vars : Value) : Meets c (m.invoke fuel path vars) := by
  have hjump (target vars' : Value) (h : some (path, vars) = some (target, vars')) : m.program.Admits target := by
    cases h
    exact hpath
  refine (meets_follow happ heffects hclosed fuel hjump).bind fun next => ?_
  cases next with
  | some jump => exact .fault _
  | none => exact .pure ()

omit happ heffects in
theorem meets_enter (value : Value) : Meets c (enter value) :=
  (Meets.of_ok fun w => ⟨w, w, rfl, rfl, .refl _⟩).bind fun _ => meets_store _

theorem meets_resume (hclosed : m.program.Closed) {path : Value} (hpath : m.program.Admits path) (value : Value) :
    Meets c (m.resume path value) :=
  (meets_enter value).bind fun vars => meets_invoke happ heffects hclosed jumpBound hpath vars

end Walk

end Machine

end Colloquy
