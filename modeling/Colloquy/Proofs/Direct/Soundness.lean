import Colloquy.Proofs.Compile.Growth
import Colloquy.Proofs.Direct.Position

/-!
# Compiled flows do what the interpreter does

Whatever part of a flow was compiled, the machine runs it as the interpreter does, provided that the
targets it was compiled with lead to what comes after it; and each of its commands is resumed by what
comes after that command. The proof goes along the derivation of the compiled flow, one lemma for each
rule.
-/

namespace Colloquy.Direct

open Machine (before)

variable {m : Machine} {K : FlowPath → Prop}

/-- The targets lead to what comes after, however many rounds the loops may go, and the place to go on has
the property `K`. -/
structure Realizable (m : Machine) (K : FlowPath → Prop) (targets : Targets) (after : After) : Prop where
  realizes : ∀ n, m.Realizes n targets (after n)
  next : ∀ target, targets.next = some target → K target

def AllAnswer (m : Machine) (after : After) (live : Bool) (actions : List (Action × Labels)) : Prop :=
  ∀ a l, (a, l) ∈ actions → a.info.kind = .reply → a.info.thenFlow.isNone = true →
    Answers m after live a l

/-- What a part of a flow that was compiled does when it is run by the machine. -/
def Means (m : Machine) (K : FlowPath → Prop) : Job → Prop
  | .flow flow path targets _ | .continuation flow _ targets _ path => ∃ l,
    (∀ n after, m.Realizes n targets after → ∀ vars,
      m.Agrees n path vars (runFlow m flow l n vars >>= after)) ∧
    ∀ after live, Realizable m K targets after → Resumable m K (.flow flow l) after live
  | .elements flow path targets _ steps => flow.findSome? Element.fault? = none → ∃ l,
    (∀ n after, m.Realizes n targets after → ∀ key at_ vars,
      m.Leads n (m.runSteps key path targets vars steps >>= m.landing at_)
        (runFlow m flow l n vars >>= after)) ∧
    ∀ after live, Realizable m K targets after → Resumable m K (.flow flow l) after live
  | .command c path targets step => ∃ l,
    (c.breaksFlow = true → ∀ n after own, own.breakTo = targets.breakTo →
      own.continueTo = targets.continueTo → m.Realizes n targets after → ∀ key at_ vars,
      m.Leads n (m.runSteps key path own vars [step] >>= m.landing at_)
        (runCommand m c l n vars >>= after)) ∧
    (c.breaksFlow = false → ∀ n after own key at_ steps,
      (∀ vars, m.Leads n (m.runSteps key path own vars steps >>= m.landing at_) (after (.normal vars))) →
      ∀ vars, m.Leads n (m.runSteps key path own vars (step :: steps) >>= m.landing at_)
        (runCommand m c l n vars >>= after)) ∧
    ∀ after live, (c.breaksFlow = true → Realizable m K targets after) →
      Resumable m K (.command c l) after live
  | .fallback default _ targets exit fallback => (K exit → K fallback) ∧ ∃ l,
    (∀ n after, m.Realizes n { targets with next := some exit } after → ∀ vars,
      m.Agrees n fallback vars (runDefault m default l n vars >>= after)) ∧
    ∀ after live, Realizable m K { targets with next := some exit } after → ∀ body, default = some body →
      Resumable m K (.flow body l) after live
  | .cases cases _ targets last paths first => (K last → K first) ∧ ∃ l,
    paths.map (·.1) = cases.map Case.matchValue ∧ first = (paths.map (·.2)).getD 0 last ∧
    (∀ n after, m.Realizes n { targets with next := some last } after → ∀ skipped vars,
      m.Agrees n ((paths.map (·.2)).getD skipped last) vars (runCases m cases skipped l n vars >>= after)) ∧
    ∀ after live, Realizable m K { targets with next := some last } after →
      Resumable m K (.cases cases l) after live
  | .actions actions _ targets plan => ∃ l, actionPlan l actions = plan ∧
    ∀ after live, (actions.hasReply = true → Realizable m K targets after) →
      AllAnswer m after live (fixedActions l actions) ∧
      ∀ list, actions = .fixed list → Resumable m K (.actions list l) after live
  | .actionList list _ targets entries => ∃ l, offerAll l list = entries ∧
    ∀ after live, ((Actions.fixed list).hasReply = true → Realizable m K targets after) →
      AllAnswer m after live (labelled l list) ∧ Resumable m K (.actions list l) after live
  | .action a _ targets entries => ∃ l, offer l a = entries ∧
    ∀ after live, (a.info.kind = .reply → Realizable m K targets after) →
      AllAnswer m after live [(a, l)] ∧
      ∀ info flow, a = .mk info (some flow) → info.thenFlow.isNone = true →
        Resumable m K (.flow flow (l.sub 0)) (afterAction info after) live
  | .items items _ targets plan => ∃ l, itemPlan l items = plan ∧
    ∀ after live, (items.list.any (·.actions.hasReply) = true → Realizable m K targets after) →
      AllAnswer m after live (itemActions l items.list) ∧ Resumable m K (.items items.list l) after live
  | .itemList list _ targets plans => ∃ l, itemPlans l list = plans ∧
    ∀ after live, (list.any (·.actions.hasReply) = true → Realizable m K targets after) →
      AllAnswer m after live (itemActions l list) ∧ Resumable m K (.items list l) after live

/-! ## Sequences -/

section Sequences

variable {rest : Flow} {path next : FlowPath} {targets : Targets} {index : Nat} {steps : List Step}

private theorem Means.flow {flow : Flow} {own : String} (sound : flow.findSome? Element.fault? = none)
    (hfind : m.program.find path.toValue = .ok (.sequence own path steps targets))
    (h : Means m K (.elements flow path targets index steps)) : Means m K (.flow flow path targets index) := by
  obtain ⟨l, hrun, hres⟩ := h sound
  refine ⟨l, ?_, hres⟩
  intro n after hr vars
  have hhop := Machine.Agrees.of_find hfind (hrun n after hr own path.toValue vars)
  exact Machine.Leads.mono hhop (Nat.le_succ n)

private theorem Means.nil :
    Means m K (.elements [] path targets index (targets.next.elim [] fun t => [.jump t])) := by
  intro _
  refine ⟨.blank, ?_, ?_⟩
  · intro n after hr key at_ vars
    rw [runFlow_nil, pure_bind]
    have hnext := hr.next vars
    cases ht : targets.next with
    | none =>
      rw [ht] at hnext
      exact hnext
    | some target =>
      rw [ht] at hnext
      simpa [Machine.runSteps, Machine.runStep, Machine.landing] using hnext
  · intro after live _ s hs
    cases hs

private theorem fault?_of_cons {e : Element} (h : (e :: rest).findSome? Element.fault? = none) :
    e.fault? = none ∧ rest.findSome? Element.fault? = none := by
  rw [List.findSome?_cons] at h
  cases he : e.fault? with
  | none => simpa [he] using h
  | some cause => simp [he] at h

private theorem Means.handler {e : Element} (he : e.command? = none)
    (h : Means m K (.elements rest path targets index steps)) :
    Means m K (.elements (e :: rest) path targets index (.handler e.meaning.toValue :: steps)) := by
  intro sound
  obtain ⟨hf, hrest⟩ := fault?_of_cons sound
  obtain ⟨l, hrun, hres⟩ := h hrest
  refine ⟨.cons (.node { path := path } fun _ => .blank) l, ?_, ?_⟩
  · intro n after hr key at_ vars
    rw [runFlow_cons_bind, runElement_handler he hf]
    simp only [effect, Machine.runSteps, Machine.runStep, bind_assoc, pure_bind, Labels.sub_cons,
      Labels.own_node, Labels.tail_cons]
    exact .bind fun _ => hrun n after hr key at_ vars
  · intro after live hr s hs
    cases hs with
    | head hc => rw [he] at hc; cases hc
    | tail h => exact hres after _ hr s (by simpa using h)

private theorem Means.plain {e : Element} {c : Command} {step : Step} (he : e.command? = some c)
    (hb : c.breaksFlow = false) (hc : Means m K (.command c path targets step))
    (h : Means m K (.elements rest path targets index steps)) :
    Means m K (.elements (e :: rest) path targets index (step :: steps)) := by
  intro sound
  obtain ⟨lc, -, hplain, hresc⟩ := hc
  obtain ⟨l, hrun, hres⟩ := h (fault?_of_cons sound).2
  refine ⟨.cons lc l, ?_, ?_⟩
  · intro n after hr key at_ vars
    rw [runFlow_cons_bind, runElement_of_command? he]
    apply hplain hb
    intro vars
    simpa [before] using hrun n after hr key at_ vars
  · intro after live hr s hs
    cases hs with
    | head hc h =>
      cases he.symm.trans hc
      exact hresc _ live (by simp [hb]) s (by simpa using h)
    | tail h => exact hres after _ hr s (by simpa using h)

private theorem Means.last {e : Element} {c : Command} {step : Step} (he : e.command? = some c)
    (hb : c.breaksFlow = true) (hc : Means m K (.command c path targets step)) :
    Means m K (.elements [e] path targets index [step]) := by
  intro _
  obtain ⟨lc, hbreaks, -, hresc⟩ := hc
  have hafter (after : Ending → Run Ending) (n : Nat) : before (runFlow m [] .blank n) after = after := by
    funext ending
    cases ending <;> simp [before]
  refine ⟨.cons lc .blank, ?_, ?_⟩
  · intro n after hr key at_ vars
    rw [runFlow_cons_bind, runElement_of_command? he, Labels.tail_cons, hafter]
    exact hbreaks hb n after targets rfl rfl hr key at_ vars
  · intro after live hr s hs
    cases hs with
    | head hc h =>
      cases he.symm.trans hc
      rw [Labels.tail_cons] at h
      simp only [hafter] at h
      exact hresc after live (fun _ => hr) s h
    | tail h => cases h

private theorem Means.broken {e : Element} {c : Command} {step : Step} (he : e.command? = some c)
    (hb : c.breaksFlow = true) (hnext : K next) (h : Means m K (.continuation rest path targets index next))
    (hc : Means m K (.command c path { targets with next := some next } step)) :
    Means m K (.elements (e :: rest) path targets index [step]) := by
  intro _
  obtain ⟨l, hrun, hres⟩ := h
  obtain ⟨lc, hbreaks, -, hresc⟩ := hc
  refine ⟨.cons lc l, ?_, ?_⟩
  · intro n after hr key at_ vars
    rw [runFlow_cons_bind, runElement_of_command? he, Labels.sub_cons, Labels.tail_cons]
    exact hbreaks hb n _ targets rfl rfl (hr.before (hrun n after hr)) key at_ vars
  · intro after live hr s hs
    cases hs with
    | head hc h =>
      cases he.symm.trans hc
      rw [Labels.sub_cons, Labels.tail_cons] at h
      refine hresc _ live (fun _ => ⟨?_, ?_⟩) s h
      · exact fun n => (hr.realizes n).before (hrun n _ (hr.realizes n))
      · rintro _ ⟨⟩
        exact hnext
    | tail h => exact hres after _ hr s (by simpa using h)

private theorem Means.terminal {e : Element} {c : Command} {step : Step} (he : e.command? = some c)
    (hb : c.breaksFlow = true) (ht : c.isTerminal = true) (hc : Means m K (.command c path targets step)) :
    Means m K (.elements (e :: rest) path targets index [step]) := by
  intro _
  obtain ⟨lc, hbreaks, -, hresc⟩ := hc
  refine ⟨.cons lc .blank, ?_, ?_⟩
  · intro n after hr key at_ vars
    rw [runFlow_cons_bind, runElement_of_command? he]
    -- the command never ends normally, so what stands after it does not matter
    rw [runCommand_terminal_congr ht _ (g := after)]
    · exact hbreaks hb n after targets rfl rfl hr key at_ vars
    · intro ending hne
      cases ending with
      | normal vars => exact absurd rfl (hne vars)
      | _ => rfl
  · intro after live hr s hs
    cases hs with
    | head hc h =>
      cases he.symm.trans hc
      cases c with
      | finish _ _ | «break» _ | «continue» _ =>
        cases h
        trivial
      | _ => cases ht
    | tail h =>
      rw [Labels.tail_cons, diverts_of_terminal he ht, Bool.not_true, Bool.and_false] at h
      exact resumable_blank m K rest after s h

private theorem Means.spliced {first : Element} {id : String} {body tail : Flow}
    (hs : first.subFlow? = some (id, body)) (h : Means m K (.flow (body ++ tail) next targets index)) :
    Means m K (.continuation (first :: tail) path targets index next) := by
  obtain ⟨l, hrun, hres⟩ := h
  refine ⟨.cons (.node {} fun _ => l) (l.drop body.length), ?_, ?_⟩
  · intro n after hr vars
    rw [runFlow_splice hs]
    exact hrun n after hr vars
  · intro after live hr
    exact resumable_splice hs (hres after live hr)

private theorem Means.unspliced (h : Means m K (.flow rest next targets index)) :
    Means m K (.continuation rest path targets index next) := h

end Sequences

/-! ## Commands -/

section Commands

variable {id : String} {path own root exit : FlowPath} {targets : Targets}

private theorem Means.message {kind : MessageKind} {body : MessageBody} {actions : Actions} {items : Items}
    {actionPlan : ActionPlan} {itemPlan : ItemPlan} (ha : Means m K (.actions actions path targets actionPlan))
    (hi : Means m K (.items items path targets itemPlan)) :
    Means m K (.command (.message kind id body actions items) path targets
      (.message ⟨own, body.params kind, actionPlan, itemPlan, targets.next, isDynamic actions items⟩)) := by
  obtain ⟨la, rfl, hresa⟩ := ha
  obtain ⟨li, rfl, hresi⟩ := hi
  let labels : Labels := .node { path := own, next := targets.next } fun | 0 => la | _ => li
  refine ⟨labels, ?_, ?_, ?_⟩
  · intro hb n after _ _ _ hr key at_ vars
    simp only [Machine.runSteps, Machine.runStep, Machine.sendMessage, runCommand, runMessage, bind_assoc]
    refine .bind fun message => ?_
    have hb : awaitsReply actions items = true := hb
    have hstop : m.Leads n (pure none) (after .stopped) := by
      rw [hr.stops]
      exact .ended (by simp)
    have hnext := hr.next vars
    cases hd : isDynamic actions items with
    | false => simpa [hd, hb, Machine.landing] using hstop
    | true =>
      cases ht : targets.next with
      | none =>
        rw [ht] at hnext
        simpa [labels, ht, Machine.landing] using hnext
      | some target =>
        rw [ht] at hnext
        simp only [labels, ht, Labels.own_node, Option.isSome_some, if_true, bind_assoc]
        refine .bind fun offered => ?_
        cases offered with
        | true => simpa [Machine.landing] using hstop
        | false => simpa [Machine.landing] using hnext
  · intro hb n after own key at_ steps hsteps vars
    simp only [Machine.runSteps, Machine.runStep, Machine.sendMessage, runCommand, runMessage, bind_assoc]
    refine .bind fun message => ?_
    have hb : awaitsReply actions items = false := hb
    have hd : isDynamic actions items = false := by
      unfold awaitsReply at hb
      revert hb
      cases isDynamic actions items <;> simp
    simpa [hd, hb] using hsteps vars
  · intro after live hr s hs
    have hactions := hresa after live fun h => hr (by simp [Command.breaksFlow, awaitsReply, h])
    have hitems := hresi after live fun h => hr (by simp only [Command.breaksFlow, awaitsReply, h, Bool.or_true])
    cases hs with
    | self =>
      refine ⟨?_, ?_⟩
      · intro a l hmem
        rcases List.mem_append.mp hmem with hmem | hmem
        · exact hactions.1 a l hmem
        · exact hitems.1 a l hmem
      · intro hd target ht
        have hr := hr (by simp [Command.breaksFlow, awaitsReply, hd])
        have ht : targets.next = some target := ht
        refine ⟨hr.next target ht, fun n vars => ?_⟩
        have hnext := (hr.realizes n).next vars
        rw [ht] at hnext
        exact hnext
    | action h => exact hactions.2 _ rfl s h
    | item h => exact hitems.2 s h

private theorem Means.conditional {test : Value} {yes no : Flow} {yesPath noPath : FlowPath}
    (hy : Means m K (.flow yes yesPath targets 0)) (hn : Means m K (.flow no noPath targets 0)) :
    Means m K (.command (.conditional id test yes no) path targets
      (.conditional root test yesPath noPath)) := by
  obtain ⟨ly, hruny, hresy⟩ := hy
  obtain ⟨ln, hrunn, hresn⟩ := hn
  refine ⟨.node { path := root } fun | 0 => ly | _ => ln, ?_, nofun, ?_⟩
  · intro _ n after _ _ _ hr key at_ vars
    simp only [Machine.runSteps, Machine.runStep, Machine.landing, runCommand, bind_assoc, pure_bind]
    refine .bind fun passed => ?_
    cases passed with
    | true => exact hruny n after hr vars
    | false => exact hrunn n after hr vars
  · intro after live hr s hs
    cases hs with
    | self => trivial
    | yes h => exact hresy after live (hr rfl) s h
    | no h => exact hresn after live (hr rfl) s h

private theorem selectCase_eq (value : Value) (fallback : FlowPath) (paths : List (Value × FlowPath)) :
    Machine.selectCase value fallback paths =
      (firstMatch value (paths.map (·.1))).map fun skipped => (paths.map (·.2)).getD skipped fallback := by
  induction paths with
  | nil => rfl
  | cons entry rest ih =>
    obtain ⟨case, target⟩ := entry
    simp only [Machine.selectCase, List.map_cons, firstMatch, ih]
    cases Machine.matchesCase value case with
    | error e => rfl
    | ok matched =>
      cases matched with
      | true => rfl
      | false => cases firstMatch value (rest.map (·.1)) <;> rfl

private theorem chooseCase_eq (value : Value) (fallback : FlowPath) (paths : List (Value × FlowPath)) :
    Machine.chooseCase value fallback paths =
      (choice value (paths.map (·.1))).map fun skipped => (paths.map (·.2)).getD skipped fallback := by
  unfold Machine.chooseCase choice
  rw [selectCase_eq]
  cases firstMatch value (paths.map (·.1)) with
  | error f => rfl
  | ok skipped => cases value.repr? <;> rfl

private theorem realizes_switch {n : Nat} {after : Ending → Run Ending} (hr : m.Realizes n targets after)
    (hexit : ∀ vars, m.Agrees n exit vars (after (.normal vars))) :
    m.Realizes n { targets.ofSwitch exit with next := some exit } fun ending => after (leaveSwitch ending) where
  next := hexit
  breaks target vars ht := by
    obtain rfl : exit = target := Option.some.inj ht
    exact hexit vars
  continues := hr.continues
  stops := hr.stops
  cuts := hr.cuts

private theorem Means.switch {value : Value} {cases : List Case} {default : Option Flow}
    {fallback entry : FlowPath} {paths : List (Value × FlowPath)}
    (hend : K exit) (hexit : Means m K (.flow [] exit targets 0))
    (hfalls : Means m K (.fallback default root (targets.ofSwitch exit) exit fallback))
    (hcases : Means m K (.cases cases root (targets.ofSwitch exit) fallback paths entry)) :
    Means m K (.command (.switch id value cases default) path targets
      (.switch root value paths fallback)) := by
  obtain ⟨_, hrune, -⟩ := hexit
  obtain ⟨hfallback, ld, hrund, hresd⟩ := hfalls
  obtain ⟨-, lc, hvalues, -, hrunc, hresc⟩ := hcases
  have hleave {n : Nat} {after : Ending → Run Ending} (hr : m.Realizes n targets after) :
      m.Realizes n { targets.ofSwitch exit with next := some exit } fun ending => after (leaveSwitch ending) :=
    realizes_switch hr (fun vars => by simpa using hrune n after hr vars)
  have hfall {n : Nat} {after : Ending → Run Ending} (hr : m.Realizes n targets after) :
      m.Realizes n { targets.ofSwitch exit with next := some fallback }
        (before (runDefault m default ld n) fun ending => after (leaveSwitch ending)) :=
    (hleave hr).before (hrund n _ (hleave hr))
  refine ⟨.node { path := root } fun | 0 => lc | _ => ld, ?_, nofun, ?_⟩
  · intro _ n after _ _ _ hr key at_ vars
    rw [runCommand_switch_bind]
    simp only [Machine.runSteps, Machine.runStep, bind_assoc]
    refine .bind fun value => .bind fun value => ?_
    rw [chooseCase_eq, Run.ofOutcome_map, hvalues]
    simp only [bind_assoc, pure_bind]
    refine .bind fun skipped => ?_
    exact hrunc n _ (hfall hr) skipped vars
  · intro after live hr s hs
    cases hs with
    | self => trivial
    | case h =>
      refine hresc _ live ⟨fun n => hfall ((hr rfl).realizes n), ?_⟩ s h
      rintro _ ⟨⟩
      exact hfallback hend
    | default h =>
      refine hresd _ live ⟨fun n => hleave ((hr rfl).realizes n), ?_⟩ _ rfl s h
      rintro _ ⟨⟩
      exact hend

section Effects

variable {step : Step} {ending : Ending} {c : Command}

private theorem leads_effect {n : Nat} {after : Ending → Run Ending} {targets : Targets} {key : String}
    {at_ vars : Value} {steps : List Step} (hdone : (m.runStep path vars step).Yields (· = .done))
    (h : m.Leads n (m.runSteps key path targets vars steps >>= m.landing at_) (after ending)) :
    m.Leads n (m.runSteps key path targets vars (step :: steps) >>= m.landing at_)
      (effect m path vars step ending >>= after) := by
  rw [Machine.runSteps, effect, bind_assoc, bind_assoc]
  refine .bind_of hdone ?_
  rintro _ rfl
  simpa using h

private theorem leads_stop {n : Nat} {after : Ending → Run Ending} {targets own : Targets} {key : String}
    {at_ vars : Value} (hdone : (m.runStep path vars step).Yields (· = .done)) (hr : m.Realizes n targets after) :
    m.Leads n (m.runSteps key path own vars [step] >>= m.landing at_)
      (effect m path vars step .stopped >>= after) := by
  refine leads_effect hdone ?_
  rw [hr.stops]
  exact .ended (by simp)

private theorem start_done {target args vars : Value} {tag : Option String} :
    (m.runStep path vars (.start own target args tag)).Yields (· = .done) :=
  .bind fun _ => .bind fun _ => .bind fun _ => .bind fun _ => .bind fun _ => .bind fun _ => .pure rfl

private theorem finish_done {result vars : Value} :
    (m.runStep path vars (.finish own result)).Yields (· = .done) :=
  .bind fun _ => .bind fun _ => .bind fun _ => .pure rfl

private theorem exec_done {target args vars : Value} :
    (m.runStep path vars (.exec own target args)).Yields (· = .done) :=
  .bind fun _ => .pure rfl

private theorem wait_done {seconds vars : Value} :
    (m.runStep path vars (.wait own seconds)).Yields (· = .done) :=
  .bind fun _ => .bind fun _ => .bind fun _ => .pure rfl

end Effects

section Loop

variable {l : Labels} {condition : Value} {increment : Fields} {body : Flow} {name : String}
  {head bodyPath again : FlowPath} {n : Nat} {after : Ending → Run Ending}

private theorem realizes_round (hr : m.Realizes n targets after)
    (hexit : ∀ vars, m.Agrees n exit vars (after (.normal vars)))
    (hhead : ∀ vars, m.Agrees n head vars (loop m l condition increment body n vars >>= after))
    (hagain : ∀ after, m.Realizes n { next := some head } after → ∀ vars,
      m.Agrees n again vars (increase m (l.sub 3).own.path increment vars >>= fun vars => after (.normal vars))) :
    m.Realizes n (.ofLoop head exit again) (afterRound m l condition increment body n after) where
  next := hhead
  breaks target vars ht := by
    obtain rfl : exit = target := Option.some.inj ht
    exact hexit vars
  continues target vars ht := by
    obtain rfl : again = target := Option.some.inj ht
    let rounds := before (loop m l condition increment body n) after
    have hrounds : m.Realizes n { next := some head } rounds :=
      { next := hhead, breaks := nofun, continues := nofun, stops := hr.stops, cuts := hr.cuts }
    exact hagain rounds hrounds vars
  stops := hr.stops
  cuts := hr.cuts

theorem agrees_loop (hl : l.own.path = head)
    (hfind : m.program.find head.toValue = .ok (.loop name head condition bodyPath exit))
    (hexit : ∀ n after, m.Realizes n targets after → ∀ vars, m.Agrees n exit vars (after (.normal vars)))
    (hbody : ∀ n after, m.Realizes n (.ofLoop head exit again) after → ∀ vars,
      m.Agrees n bodyPath vars (runFlow m body (l.sub 0) n vars >>=
        before (runIncrement m (l.sub 2).own.path increment) after))
    (hagain : ∀ n after, m.Realizes n { next := some head } after → ∀ vars,
      m.Agrees n again vars (increase m (l.sub 3).own.path increment vars >>= fun vars => after (.normal vars)))
    (hr : m.Realizes n targets after) (vars : Value) :
    m.Agrees n head vars (loop m l condition increment body n vars >>= after) := by
  induction n generalizing vars with
  | zero =>
    rw [loop, iterate, pure_bind, hr.cuts]
    exact .cut
  | succ n ih =>
    have hr := hr.mono (Nat.le_succ n)
    have hround := realizes_round hr (hexit n after hr) (ih hr) (hagain n)
    apply Machine.Agrees.of_find hfind
    simp only [Machine.runHandler, Machine.landing, loop, iterate, hl, bind_assoc, pure_bind]
    refine .bind fun passed => ?_
    cases passed with
    | false =>
      rw [if_neg (by simp), if_neg (by simp), pure_bind]
      exact hexit n after hr vars
    | true =>
      have hrun := hbody n _ hround vars
      rw [if_pos rfl, if_pos rfl, bind_assoc]
      refine (congrArg (m.Leads n _) (bind_congr fun ending => ?_)).mp hrun
      cases ending <;> simp [before, afterRound, runIncrement, loop, hl]

private theorem Means.iteration {init : Fields} (hhead : K head) (hexit : Means m K (.flow [] exit targets 0))
    (hbody : Means m K (.flow (body ++ loopTail body increment) bodyPath (.ofLoop head exit again) 0))
    (hagain : Means m K (.flow (incrementFlow increment) again { next := some head } 0))
    (hfind : m.program.find head.toValue = .ok (.loop name head condition bodyPath exit)) :
    Means m K (.command (.iteration id init condition increment body) path targets
      (.iteration (if init.isEmpty then none else some (own, init)) head)) := by
  obtain ⟨_, hrune, -⟩ := hexit
  obtain ⟨lb, hrunb, hresb⟩ := hbody
  obtain ⟨la, hruna, -⟩ := hagain
  let labels : Labels := .node { path := head } fun
    | 0 => lb
    | 1 => .node { path := own } fun _ => .blank
    | 2 => (lb.drop body.length).sub 0
    | _ => la.sub 0
  have hexit (n : Nat) (after : Ending → Run Ending) (hr : m.Realizes n targets after) (vars : Value) :
      m.Agrees n exit vars (after (.normal vars)) := by simpa using hrune n after hr vars
  have hbody (n : Nat) (after : Ending → Run Ending) (hr : m.Realizes n (.ofLoop head exit again) after)
      (vars : Value) :
      m.Agrees n bodyPath vars (runFlow m body (labels.sub 0) n vars >>=
        before (runIncrement m (labels.sub 2).own.path increment) after) := by
    have hrun := hrunb n after hr vars
    rwa [runFlow_loopTail_bind] at hrun
  have hagain (n : Nat) (after : Ending → Run Ending) (hr : m.Realizes n { next := some head } after)
      (vars : Value) :
      m.Agrees n again vars
        (increase m (labels.sub 3).own.path increment vars >>= fun vars => after (.normal vars)) := by
    have hrun := hruna n after hr vars
    rwa [runFlow_incrementFlow_bind] at hrun
  have hloop {n : Nat} {after : Ending → Run Ending} (hr : m.Realizes n targets after) (vars : Value) :
      m.Agrees n head vars (loop m labels condition increment body n vars >>= after) :=
    agrees_loop (l := labels) rfl hfind hexit hbody hagain hr vars
  refine ⟨labels, ?_, nofun, ?_⟩
  · intro _ n after _ _ _ hr key at_ vars
    simp only [Machine.runSteps, Machine.runStep, runCommand, bind_assoc]
    cases hinit : init.isEmpty with
    | true =>
      simp only [if_true, pure_bind]
      exact hloop hr vars
    | false =>
      simp only [Bool.false_eq_true, if_false, bind_assoc, pure_bind]
      exact .bind fun vars => hloop hr vars
  · intro after live hr s hs
    cases hs with
    | self => trivial
    | body h =>
      have hround (n : Nat) : m.Realizes n (.ofLoop head exit again)
          (afterRound m labels condition increment body n (after n)) :=
        have hr := (hr rfl).realizes n
        realizes_round hr (hexit n _ hr) (hloop hr) (hagain n)
      refine resumable_loopTail (hresb _ live ⟨hround, ?_⟩) s h
      rintro _ ⟨⟩
      exact hhead

end Loop

private theorem Means.start {target args : Value} {resume : Option Flow} {tag : String}
    (hresume : Means m K (.flow (resume.getD []) own targets 0)) (htag : m.program.pathKey own = .ok tag)
    (hresult : m.program.dialog.results.get?
      (Dialog.resultKey (.str (m.program.resultName target)) (.str tag)) ≠ none) :
    Means m K (.command (.start id target args resume) path targets (.start own target args (some tag))) := by
  obtain ⟨l, hrun, hres⟩ := hresume
  refine ⟨.node { path := own, key := some tag } fun _ => l, ?_, nofun, ?_⟩
  · intro _ n after _ _ _ hr key at_ vars
    exact leads_stop start_done hr
  · intro after live hr s hs
    cases hs with
    | self =>
      refine ⟨?_, nofun⟩
      intro other ht
      obtain rfl : tag = other := Option.some.inj ht
      exact ⟨htag, hresult, fun n vars => hrun n _ ((hr rfl).realizes n) vars⟩
    | resume h => exact hres after live (hr rfl) s h

private theorem Means.startLast {target args : Value} (hnext : targets.next = none) :
    Means m K (.command (.start id target args none) path targets (.start own target args none)) := by
  refine ⟨.node { path := own } fun _ => .blank, ?_, nofun, ?_⟩
  · intro _ n after _ _ _ hr key at_ vars
    exact leads_stop start_done hr
  · intro after live hr s hs
    cases hs with
    | self =>
      refine ⟨nofun, ?_⟩
      intro _ _
      refine ⟨rfl, fun n vars => ?_⟩
      have hlast := ((hr rfl).realizes n).next vars
      rw [hnext] at hlast
      exact hlast

private theorem Means.finish {result : Value} :
    Means m K (.command (.finish id result) path targets (.finish own result)) := by
  refine ⟨.node { path := own } fun _ => .blank, ?_, nofun, ?_⟩
  · intro _ n after _ _ _ hr key at_ vars
    exact leads_stop finish_done hr
  · intro after live hr s hs
    cases hs
    trivial

private theorem Means.set {values : Fields} :
    Means m K (.command (.set id values) path targets (.set own values)) := by
  refine ⟨.node { path := own } fun _ => .blank, nofun, ?_, ?_⟩
  · intro _ n after targets key at_ steps hsteps vars
    simp only [Machine.runSteps, Machine.runStep, runCommand, Machine.assign, bind_assoc, pure_bind]
    exact .bind fun _ => .bind fun vars => hsteps vars
  · intro after live hr s hs
    cases hs
    trivial

private theorem Means.exec {target args : Value} :
    Means m K (.command (.exec id target args) path targets (.exec own target args)) := by
  refine ⟨.node { path := own } fun _ => .blank, nofun, ?_, ?_⟩
  · intro _ n after targets key at_ steps hsteps vars
    exact leads_effect exec_done (hsteps vars)
  · intro after live hr s hs
    cases hs
    trivial

private theorem Means.wait {seconds : Value} :
    Means m K (.command (.wait id seconds) path targets (.wait own seconds)) := by
  refine ⟨.node { path := own } fun _ => .blank, nofun, ?_, ?_⟩
  · intro _ n after targets key at_ steps hsteps vars
    exact leads_effect wait_done (hsteps vars)
  · intro after live hr s hs
    cases hs
    trivial

private theorem Means.break {target : FlowPath} (ht : targets.breakTo = some target) :
    Means m K (.command (.break id) path targets (.signal .break)) := by
  refine ⟨.blank, ?_, nofun, ?_⟩
  · intro _ n after own hbreak _ hr key at_ vars
    simp only [Machine.runSteps, Machine.runStep, Machine.landing, runCommand, hbreak, ht, pure_bind]
    exact hr.breaks target vars ht
  · intro after live hr s hs
    cases hs
    trivial

private theorem Means.continue {target : FlowPath} (ht : targets.continueTo = some target) :
    Means m K (.command (.continue id) path targets (.signal .continue)) := by
  refine ⟨.blank, ?_, nofun, ?_⟩
  · intro _ n after own _ hcontinue hr key at_ vars
    simp only [Machine.runSteps, Machine.runStep, Machine.landing, runCommand, hcontinue, ht, pure_bind]
    exact hr.continues target vars ht
  · intro after live hr s hs
    cases hs
    trivial

private theorem Means.subFlow {body : Flow} (h : Means m K (.flow body own targets 0)) :
    Means m K (.command (.flow id body) path targets (.jump own)) := by
  obtain ⟨l, hrun, hres⟩ := h
  refine ⟨.node {} fun _ => l, ?_, nofun, ?_⟩
  · intro _ n after _ _ _ hr key at_ vars
    simp only [Machine.runSteps, Machine.runStep, Machine.landing, runCommand, pure_bind]
    exact hrun n after hr vars
  · intro after live hr s hs
    cases hs with
    | self => trivial
    | subFlow h => exact hres after live (hr rfl) s h

/-! ### Cases and defaults -/

private theorem Means.noDefault : Means m K (.fallback none root targets exit exit) := by
  refine ⟨id, .blank, ?_, nofun⟩
  intro n after hr vars
  rw [runDefault, pure_bind]
  exact hr.next vars

private theorem Means.default {body : Flow} (hown : K own)
    (h : Means m K (.flow body own { targets with next := some exit } 0)) :
    Means m K (.fallback (some body) root targets exit own) := by
  obtain ⟨l, hrun, hres⟩ := h
  refine ⟨fun _ => hown, l, hrun, ?_⟩
  rintro after live hr _ ⟨⟩
  exact hres after live hr

private theorem Means.noCase {last : FlowPath} : Means m K (.cases [] root targets last [] last) := by
  refine ⟨fun h => h, .blank, rfl, rfl, ?_, ?_⟩
  · intro n after hr skipped vars
    rw [runCases, pure_bind]
    exact hr.next vars
  · intro after live hr s hs
    cases hs

private theorem runCases_head_bind {n : Nat} {vars : Value} (id : String) (value : Value) (body : Flow)
    (rest : List Case) (l : Labels) (after : Ending → Run Ending) :
    (runCases m (.mk id value body :: rest) 0 l n vars >>= after) =
      runFlow m body (l.sub 0) n vars >>= before (runCases m rest 0 l.tail n) after := by
  rw [runCases, bind_assoc]
  refine bind_congr fun ending => ?_
  cases ending <;> simp [before]

private theorem Means.case {value : Value} {body : Flow} {rest : List Case} {last next : FlowPath}
    {paths : List (Value × FlowPath)} (hown : K own) (h : Means m K (.cases rest root targets last paths next))
    (hbody : Means m K (.flow body own { targets with next := some next } 0)) :
    Means m K (.cases (.mk id value body :: rest) root targets last
      (((Case.mk id value body).matchValue, own) :: paths) own) := by
  obtain ⟨hlast, lr, hvalues, rfl, hrunr, hresr⟩ := h
  obtain ⟨lb, hrunb, hresb⟩ := hbody
  have hfall {n : Nat} {after : Ending → Run Ending} (hr : m.Realizes n { targets with next := some last } after) :
      m.Realizes n { targets with next := some ((paths.map (·.2)).getD 0 last) }
        (before (runCases m rest 0 lr n) after) := hr.before (hrunr n after hr 0)
  refine ⟨fun _ => hown, .cons lb lr, by simp [hvalues], rfl, ?_, ?_⟩
  · intro n after hr skipped vars
    cases skipped with
    | zero =>
      rw [runCases_head_bind, Labels.sub_cons, Labels.tail_cons]
      exact hrunb n _ (hfall hr) vars
    | succ skipped =>
      rw [runCases, Labels.tail_cons]
      exact hrunr n after hr skipped vars
  · intro after live hr s hs
    cases hs with
    | caseHead h =>
      rw [Labels.sub_cons, Labels.tail_cons] at h
      refine hresb _ live ⟨fun n => hfall (hr.realizes n), ?_⟩ s h
      rintro _ ⟨⟩
      exact hlast (hr.next last rfl)
    | caseTail h =>
      rw [Labels.tail_cons] at h
      exact hresr after live hr s h

end Commands

/-! ## Actions and items -/

section Actions

variable {path own : FlowPath} {targets : Targets} {info : ActionInfo} {key : String}

private theorem allAnswer_nil (m : Machine) (after : After) (live : Bool) : AllAnswer m after live [] :=
  nofun

private theorem allAnswer_append {after : After} {live : Bool} {first second : List (Action × Labels)}
    (h : AllAnswer m after live first) (h' : AllAnswer m after live second) :
    AllAnswer m after live (first ++ second) := by
  intro a l hmem
  rcases List.mem_append.mp hmem with hmem | hmem
  · exact h a l hmem
  · exact h' a l hmem

private theorem Means.inert (hk : info.kind ≠ .reply) :
    Means m K (.action (.mk info none) path targets info.params) := by
  refine ⟨.blank, rfl, ?_⟩
  intro after live _
  refine ⟨?_, nofun⟩
  intro a l hmem hreply _
  obtain ⟨rfl, rfl⟩ : a = .mk info none ∧ l = .blank := by simpa using hmem
  exact absurd hreply hk

private theorem Means.reference {flow : Option Flow} (ht : info.thenFlow.isNone = false) :
    Means m K (.action (.mk info flow) path targets (Entries.put info.params "payload" (.str key))) := by
  refine ⟨.node { key := some key } fun _ => .blank, rfl, ?_⟩
  intro after live _
  refine ⟨?_, ?_⟩
  · intro a l hmem _ hnone
    obtain ⟨rfl, -⟩ : a = .mk info flow ∧ _ := by simpa using hmem
    exact absurd (ht.symm.trans hnone) (by simp)
  · rintro _ _ ⟨⟩ hnone
    exact absurd (ht.symm.trans hnone) (by simp)

private theorem Means.button {flow : Option Flow}
    (hflow : Means m K (.flow (flow.getD []) own (targets.ofAction info.kind) 0))
    (hkey : m.program.pathKey own = .ok key)
    (hpayload : info.kind = .reply → m.program.dialog.payloads.get? (.str key) ≠ none) :
    Means m K (.action (.mk info flow) path targets (Entries.put info.params "payload" (.str key))) := by
  obtain ⟨l, hrun, hres⟩ := hflow
  refine ⟨.node { path := own, key := some key } fun _ => l, rfl, ?_⟩
  intro after live hr
  refine ⟨?_, ?_⟩
  · intro a l' hmem hreply _
    obtain ⟨rfl, rfl⟩ : a = .mk info flow ∧ l' = .node { path := own, key := some key } fun _ => l := by
      simpa using hmem
    have hreply : info.kind = .reply := hreply
    have htargets : targets.ofAction info.kind = targets := by simp [Targets.ofAction, hreply]
    rw [htargets] at hrun
    refine ⟨nofun, ?_, ?_⟩
    · rintro _ ⟨⟩
      exact ⟨hkey, hpayload hreply⟩
    · rintro _ ⟨⟩ n vars
      exact hrun n _ ((hr hreply).realizes n) vars
  · rintro _ body ⟨⟩ _
    refine hres _ live ?_
    unfold Targets.ofAction afterAction
    split
    · rename_i hreply
      exact hr (eq_of_beq hreply)
    · exact ⟨fun n => .blank, nofun⟩

private theorem Means.actionNil : Means m K (.actionList [] path targets []) := by
  refine ⟨.blank, rfl, ?_⟩
  intro after live _
  exact ⟨allAnswer_nil m after live, fun s hs => by cases hs⟩

private theorem Means.actionCons {a : Action} {rest : List Action} {entries : Entries} {more : List Entries}
    (ha : Means m K (.action a path targets entries)) (h : Means m K (.actionList rest path targets more)) :
    Means m K (.actionList (a :: rest) path targets (entries :: more)) := by
  obtain ⟨la, rfl, hresa⟩ := ha
  obtain ⟨lr, rfl, hresr⟩ := h
  refine ⟨.cons la lr, by simp [offerAll], ?_⟩
  intro after live hr
  have hfirst := hresa after live fun h => hr (by simp [Actions.hasReply, h])
  have hrest := hresr after live fun h => hr (by
    simp only [Actions.hasReply] at h ⊢
    simp [h])
  refine ⟨?_, ?_⟩
  · rw [labelled, Labels.sub_cons, Labels.tail_cons]
    have hall := allAnswer_append hfirst.1 hrest.1
    exact hall
  · intro s hs
    cases hs with
    | actionHead ht h =>
      rw [Labels.sub_cons] at h
      exact hfirst.2 _ _ rfl ht s h
    | actionTail h =>
      rw [Labels.tail_cons] at h
      exact hrest.2 s h

private theorem Means.noActions : Means m K (.actions .absent path targets .absent) := by
  refine ⟨.blank, rfl, ?_⟩
  intro after live _
  exact ⟨allAnswer_nil m after live, nofun⟩

private theorem Means.computedActions {handler : Value} :
    Means m K (.actions (.computed handler) path targets (.computed handler)) := by
  refine ⟨.blank, rfl, ?_⟩
  intro after live _
  exact ⟨allAnswer_nil m after live, nofun⟩

private theorem Means.fixedActions {list : List Action} {entries : List Entries}
    (h : Means m K (.actionList list path targets entries)) :
    Means m K (.actions (.fixed list) path targets (.fixed entries)) := by
  obtain ⟨l, rfl, hres⟩ := h
  refine ⟨l, rfl, ?_⟩
  intro after live hr
  refine ⟨(hres after live hr).1, ?_⟩
  rintro _ ⟨⟩
  exact (hres after live hr).2

private theorem Means.itemNil : Means m K (.itemList [] path targets []) := by
  refine ⟨.blank, rfl, ?_⟩
  intro after live _
  exact ⟨allAnswer_nil m after live, fun s hs => by cases hs⟩

private theorem Means.itemCons {info : ItemInfo} {actions : Actions} {rest : List Item} {plan : ActionPlan}
    {plans : List (Entries × ActionPlan)} (ha : Means m K (.actions actions own targets plan))
    (h : Means m K (.itemList rest path targets plans)) :
    Means m K (.itemList (.mk info actions :: rest) path targets ((info.params, plan) :: plans)) := by
  obtain ⟨la, rfl, hresa⟩ := ha
  obtain ⟨lr, rfl, hresr⟩ := h
  refine ⟨.cons la lr, by simp [itemPlans, Item.info, Item.actions], ?_⟩
  intro after live hr
  have hfirst := hresa after live fun h => hr (by simp [Item.actions, h])
  have hrest := hresr after live fun h => hr (by simp [h])
  refine ⟨?_, ?_⟩
  · rw [itemActions, Labels.sub_cons, Labels.tail_cons]
    exact allAnswer_append hfirst.1 hrest.1
  · intro s hs
    cases hs with
    | itemHead h =>
      rw [Labels.sub_cons] at h
      exact hfirst.2 _ rfl s h
    | itemTail h =>
      rw [Labels.tail_cons] at h
      exact hrest.2 s h

private theorem Means.noItems : Means m K (.items .absent path targets .absent) := by
  refine ⟨.blank, rfl, ?_⟩
  intro after live _
  exact ⟨allAnswer_nil m after live, fun s hs => by cases hs⟩

private theorem Means.computedItems {handler : Value} :
    Means m K (.items (.computed handler) path targets (.computed handler)) := by
  refine ⟨.blank, rfl, ?_⟩
  intro after live _
  exact ⟨allAnswer_nil m after live, fun s hs => by cases hs⟩

private theorem Means.fixedItems {list : List Item} {plans : List (Entries × ActionPlan)}
    (h : Means m K (.itemList list path targets plans)) :
    Means m K (.items (.fixed list) path targets (.fixed plans)) := by
  obtain ⟨l, rfl, hres⟩ := h
  exact ⟨l, rfl, hres⟩

end Actions

/-! ## The derivation as a whole -/

/-- Everything that was compiled means what it should, in a machine that runs the compiled program or an
extension of it. If the program was wired at first, the places to go on are continuations. -/
theorem means_of_compiles {job : Job} {p q : Program} (h : Compiles job p q) (hext : q.Extends m.program)
    (hK : ∀ t, (p.Wired → job.Leaves q t) → K t) : Means m K job := by
  induction h with
  | flow sound hown elements hkey hadd ih =>
    have hadded := Program.extends_of_add hadd
    have hfind := hext.find ((Program.pathKey_congr hadded.name _).trans hkey) (Program.lookup_of_add hadd)
    exact .flow sound hfind (ih (hadded.trans hext) fun t ht => hK t fun hp => .of_add (ht hp).continuation hkey hadd)
  | nil => exact .nil
  | handler he later ih => exact .handler he (ih hext fun t ht => hK t fun hp => (ht hp).continuation)
  | plain he hb first later ih ih' =>
    refine .plain he hb (ih (later.grows.trans hext) fun t ht => ?_) (ih' hext fun t ht => ?_)
    · exact hK t fun hp => later.keeps (ht hp).continuation
    · exact hK t fun hp => (ht (first.wired hp)).continuation
  | last he hb first ih => exact .last he hb (ih hext fun t ht => hK t fun hp => (ht hp).continuation)
  | terminal he hb _ ht hkey first ih =>
    refine .terminal he hb ht (ih hext fun t ht => hK t fun hp => (ht ?_).continuation)
    exact hp.of_eq (Program.extends_warned _ _) rfl rfl rfl
  | broken he hb ht later first ih ih' =>
    refine .broken he hb (hK _ fun hp => first.keeps (later.continues hp))
      (ih (first.grows.trans hext) fun t ht => ?_) (ih' hext fun t ht => ?_)
    · exact hK t fun hp => first.keeps (ht hp).continuation
    · exact hK t fun hp => (ht (later.wired hp)).continuation
  | spliced hs hpath rest ih => exact .spliced hs (ih hext fun t ht => hK t fun hp => (ht hp).continuation)
  | unspliced hs hpath rest ih => exact .unspliced (ih hext fun t ht => hK t fun hp => (ht hp).continuation)
  | message hpath first later ih ih' =>
    refine .message (ih (later.grows.trans hext) fun t ht => ?_) (ih' hext fun t ht => ?_)
    · exact hK t fun hp => later.keeps (ht hp).continuation
    · exact hK t fun hp => (ht (first.wired hp)).continuation
  | conditional hroot hyes hno first second ih ih' =>
    refine .conditional (ih (second.grows.trans hext) fun t ht => ?_) (ih' hext fun t ht => ?_)
    · exact hK t fun hp => second.keeps (ht hp).continuation
    · exact hK t fun hp => (ht (first.wired hp)).continuation
  | switch hroot hexit exits falls selects ih ih' ih'' =>
    have hfalls := selects.grows.trans hext
    refine .switch (hK _ fun hp => selects.keeps (falls.keeps (exits.continuation hp)))
      (ih (falls.grows.trans hfalls) fun t ht => ?_) (ih' hfalls fun t ht => ?_) (ih'' hext fun t ht => ?_)
    · exact hK t fun hp => selects.keeps (falls.keeps (ht hp).continuation)
    · exact hK t fun hp => selects.keeps (ht (exits.wired hp)).continuation
    · exact hK t fun hp => (ht (falls.wired (exits.wired hp))).continuation
  | iteration hroot hloop hbody hagain hexit _ exits repeats continues hkey hadd hinit ih ih' ih'' =>
    have hadded := Program.extends_of_add hadd
    have hcontinues := hadded.trans hext
    have hrepeats := continues.grows.trans hcontinues
    have hfind := hext.find ((Program.pathKey_congr hadded.name _).trans hkey) (Program.lookup_of_add hadd)
    refine .iteration (hK _ fun hp => ?_) (ih (repeats.grows.trans hrepeats) fun t ht => ?_)
      (ih' hrepeats fun t ht => ?_) (ih'' hcontinues fun t ht => ?_) hfind
    · exact Program.Continuation.of_add (continues.wired (repeats.wired (exits.wired hp))) hkey hadd
    · exact hK t fun hp => (continues.keeps (repeats.keeps (ht hp).continuation)).add hadd
    · exact hK t fun hp => (continues.keeps (ht (exits.wired hp)).continuation).add hadd
    · exact hK t fun hp => (ht (repeats.wired (exits.wired hp))).continuation.add hadd
  | startLast hcheck hpath hnext => exact .startLast hnext
  | start hcheck hpath hresume resumes htag ih =>
    have hq := (Program.extends_awaiting _ _ _ _).trans hext
    refine .start (ih hq fun t ht => hK t fun hp => (ht hp).continuation)
      ((Program.pathKey_congr hq.name _).trans htag) ?_
    rw [Program.resultName_congr hext.settings]
    exact hext.results _ (EventTable.get?_put_self_ne_none (Value.sharp_resultKey _ _).self)
  | finish hpath => exact .finish
  | set hpath => exact .set
  | exec hpath => exact .exec
  | wait hpath => exact .wait
  | «break» ht => exact .break ht
  | «continue» ht => exact .continue ht
  | subFlow hpath inner ih => exact .subFlow (ih hext fun t ht => hK t fun hp => (ht hp).continuation)
  | noDefault => exact .noDefault
  | default hpath inner ih =>
    refine .default (hK _ fun hp => inner.continuation hp) (ih hext fun t ht => ?_)
    exact hK t fun hp => (ht hp).continuation
  | noCase => exact .noCase
  | case later hpath inner ih ih' =>
    refine .case (hK _ fun hp => inner.continuation (later.wired hp))
      (ih (inner.grows.trans hext) fun t ht => ?_) (ih' hext fun t ht => ?_)
    · exact hK t fun hp => inner.keeps (ht hp).continuation
    · exact hK t fun hp => (ht (later.wired hp)).continuation
  | noActions => exact .noActions
  | computedActions => exact .computedActions
  | fixedActions inner ih => exact .fixedActions (ih hext fun t ht => hK t fun hp => (ht hp).continuation)
  | actionNil => exact .actionNil
  | actionCons first later ih ih' =>
    refine .actionCons (ih (later.grows.trans hext) fun t ht => ?_) (ih' hext fun t ht => ?_)
    · exact hK t fun hp => later.keeps (ht hp).continuation
    · exact hK t fun hp => (ht (first.wired hp)).continuation
  | inert hk ht => exact .inert (by rintro h; simp [h, ActionKind.carriesFlow] at hk)
  | reference hk ht hkey => exact .reference ht
  | postback hk ht => exact .inert (by simp [hk])
  | @button info _ _ _ _ own _ _ _ hk ht hb hid hpath inner hkey ih =>
    have hq := (Program.extends_offering _ info.kind _ own).trans hext
    refine .button (ih hq fun t ht => ?_) ((Program.pathKey_congr hq.name _).trans hkey) ?_
    · refine hK t fun hp => (ht hp).continuation.offering ?_ _ _
      rw [← hkey]
      exact (ht hp).2
    · intro hreply
      refine hext.payloads _ ?_
      rw [hreply]
      exact EventTable.get?_put_self_ne_none (by simp [Value.same_str, Value.text?])
  | noItems => exact .noItems
  | computedItems => exact .computedItems
  | fixedItems inner ih => exact .fixedItems (ih hext fun t ht => hK t fun hp => (ht hp).continuation)
  | itemNil => exact .itemNil
  | itemCons hpath first later ih ih' =>
    refine .itemCons (ih (later.grows.trans hext) fun t ht => ?_) (ih' hext fun t ht => ?_)
    · exact hK t fun hp => later.keeps (ht hp).continuation
    · exact hK t fun hp => (ht (first.wired hp)).continuation

/-- A compiled flow does what the interpreter does with the labels of its compilation, wherever the program is used. -/
theorem does_of_compileFlow {m : Machine} {flow : Flow} {path : FlowPath} {p q : Program}
    (hcompile : compileFlow flow path {} 0 p = .ok () q) (hext : q.Extends m.program) :
    ∃ l, ∀ vars, m.Does id (pure (path.toValue, vars)) fun fuel => runFlow m flow l fuel vars := by
  obtain ⟨l, hrun, -⟩ := means_of_compiles (K := fun _ => True) (compiles_of_compileFlow hcompile) hext fun _ _ => trivial
  refine ⟨l, fun vars => .of_leads fun fuel => ?_⟩
  have hleads := hrun fuel pure .blank vars
  rw [bind_pure] at hleads
  rw [pure_bind]
  exact hleads

end Colloquy.Direct
