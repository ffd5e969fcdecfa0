import Colloquy.Proofs.Compile.Derivation
import Colloquy.Proofs.Flow.Naming
import Colloquy.Proofs.Flow.Parts

/-!
# Signals and where they lead

A `break` leaves the nearest loop or switch around it and a `continue` goes on with the nearest loop. What is run by a
postback is not inside of what the message stands in, so nothing beyond such an action counts. Compiling a flow is
refused on this account if and only if the flow has a signal that leads nowhere. What comes after the end of a sequence
is not looked at.
-/

namespace Colloquy

/-- Something that a signal may stand in, as far as it matters for where the signal leads. -/
inductive Enclosure where
  | loop | switch
  | action (kind : ActionKind)
deriving DecidableEq

/-- What a signal can lead to: all around it up to the nearest flow that is run by a postback. -/
def Enclosure.near (around : List Enclosure) : List Enclosure := around.takeWhile (· != .action .postback)

/-- Whether a signal leads somewhere from where it stands. -/
def Signal.hasTarget (s : Signal) (around : List Enclosure) : Bool :=
  match s with
  | .break => (Enclosure.near around).contains .loop || (Enclosure.near around).contains .switch
  | .continue => (Enclosure.near around).contains .loop

mutual

def Element.signals (around : List Enclosure) : Element → List (Signal × List Enclosure)
  | .command c => c.signals around
  | .deferred _ meaning => meaning.signals around
  | .handler _ | .invalid .. => []
termination_by structural e => e

def Command.signals (around : List Enclosure) : Command → List (Signal × List Enclosure)
  | .break _ => [(.break, around)]
  | .continue _ => [(.continue, around)]
  | .message _ _ _ actions items => actions.signals around ++ items.signals around
  | .conditional _ _ yes no => flowSignals around yes ++ flowSignals around no
  | .switch _ _ cases default => optionSignals (.switch :: around) default ++ casesSignals (.switch :: around) cases
  | .iteration _ _ _ _ body => flowSignals (.loop :: around) body
  | .start _ _ _ resume => optionSignals around resume
  | .flow _ body => flowSignals around body
  | .finish .. | .set .. | .exec .. | .wait .. => []
termination_by structural c => c

def flowSignals (around : List Enclosure) : List Element → List (Signal × List Enclosure)
  | [] => []
  | e :: rest => e.signals around ++ if e.isTerminal then [] else flowSignals around rest
termination_by structural flow => flow

def optionSignals (around : List Enclosure) : Option (List Element) → List (Signal × List Enclosure)
  | none => []
  | some flow => flowSignals around flow
termination_by structural flow => flow

def casesSignals (around : List Enclosure) : List Case → List (Signal × List Enclosure)
  | [] => []
  | c :: rest => c.signals around ++ casesSignals around rest
termination_by structural cases => cases

def Case.signals (around : List Enclosure) : Case → List (Signal × List Enclosure)
  | .mk _ _ body => flowSignals around body
termination_by structural c => c

def Actions.signals (around : List Enclosure) : Actions → List (Signal × List Enclosure)
  | .fixed actions => actionsSignals around actions
  | .absent | .computed _ => []
termination_by structural actions => actions

def actionsSignals (around : List Enclosure) : List Action → List (Signal × List Enclosure)
  | [] => []
  | a :: rest => a.signals around ++ actionsSignals around rest
termination_by structural actions => actions

/-- Signals of an action. One that names the flow it leads to runs no flow of its own. -/
def Action.signals (around : List Enclosure) : Action → List (Signal × List Enclosure)
  | .mk info flow => if info.thenFlow.isNone then optionSignals (.action info.kind :: around) flow else []
termination_by structural a => a

def Items.signals (around : List Enclosure) : Items → List (Signal × List Enclosure)
  | .fixed items => itemsSignals around items
  | .absent | .computed _ => []
termination_by structural items => items

def itemsSignals (around : List Enclosure) : List Item → List (Signal × List Enclosure)
  | [] => []
  | i :: rest => i.signals around ++ itemsSignals around rest
termination_by structural items => items

def Item.signals (around : List Enclosure) : Item → List (Signal × List Enclosure)
  | .mk _ actions => actions.signals around
termination_by structural i => i

end

def Strays (signals : List (Signal × List Enclosure)) : Prop := ∃ found ∈ signals, found.1.hasTarget found.2 = false

private theorem strays_nil : Strays [] ↔ False := by simp [Strays]

private theorem strays_append {signals others : List (Signal × List Enclosure)} :
    Strays (signals ++ others) ↔ Strays signals ∨ Strays others := by
  simp [Strays, or_and_right, exists_or]

private theorem strays_singleton {s : Signal} {around : List Enclosure} :
    Strays [(s, around)] ↔ s.hasTarget around = false := by
  simp [Strays]

section Flows

variable {around : List Enclosure} {e : Element} {c : Command}

private theorem Element.signals_meaning (e : Element) : e.meaning.signals around = e.signals around := by
  fun_induction Element.meaning e with
  | case1 source e ih => exact ih
  | case2 => rfl

private theorem Element.signals_of_command? (around : List Enclosure) (h : e.command? = some c) :
    e.signals around = c.signals around ∧ e.isTerminal = c.isTerminal := by
  rw [← e.signals_meaning, isTerminal]
  unfold command? at h
  split at h
  · rename_i heq
    cases h
    simp [heq, signals]
  · cases h

private theorem Element.signals_of_none (around : List Enclosure) (h : e.command? = none) :
    e.signals around = [] ∧ e.isTerminal = false := by
  unfold command? at h
  unfold isTerminal
  fun_induction Element.meaning e with
  | case1 source e ih => exact ih h
  | case2 e hmeaning =>
    cases e with
    | command c => cases h
    | deferred source e => exact absurd rfl (hmeaning source e)
    | handler | invalid => exact ⟨rfl, rfl⟩

private theorem optionSignals_getD (flow : Option Flow) : flowSignals around
    (flow.getD []) = optionSignals around flow := by
  cases flow <;> simp [optionSignals, flowSignals]

private theorem flowSignals_append {tail : Flow} (h : flowSignals around tail = []) (flow : Flow) :
    flowSignals around (flow ++ tail) = flowSignals around flow := by
  induction flow with
  | nil => simp [h, flowSignals]
  | cons e rest ih => simp [flowSignals, ih]

private theorem flowSignals_incrementFlow (increment : Fields) : flowSignals around (incrementFlow increment) = [] := by
  unfold incrementFlow
  split
  · rfl
  · simp [flowSignals, Element.signals, Command.signals]

private theorem flowSignals_loopTail (body : Flow) (increment : Fields) :
    flowSignals around (loopTail body increment) = [] := by
  unfold loopTail
  split
  · rfl
  · exact flowSignals_incrementFlow increment

end Flows

/-! ## Targets -/

/-- The places to go on that compiling is given are those of what it is in. -/
structure Targets.Fits (targets : Targets) (around : List Enclosure) : Prop where
  breaks : targets.breakTo.isSome = Signal.break.hasTarget around
  continues : targets.continueTo.isSome = Signal.continue.hasTarget around

namespace Targets.Fits

variable {targets : Targets} {around : List Enclosure}

private theorem blank : ({} : Targets).Fits [] := ⟨rfl, rfl⟩

private theorem withNext (h : targets.Fits around) (next : Option FlowPath) : { targets with next }.Fits around :=
  ⟨h.breaks, h.continues⟩

private theorem ofSwitch (h : targets.Fits around) (exit : FlowPath) : (targets.ofSwitch exit).Fits
    (.switch :: around) where
  breaks := by simp [Targets.ofSwitch, Signal.hasTarget, Enclosure.near]
  continues := by simpa [Targets.ofSwitch, Signal.hasTarget, Enclosure.near] using h.continues

private theorem ofLoop (loop exit again : FlowPath) (around : List Enclosure) :
    (Targets.ofLoop loop exit again).Fits (.loop :: around) where
  breaks := by simp [Targets.ofLoop, Signal.hasTarget, Enclosure.near]
  continues := by simp [Targets.ofLoop, Signal.hasTarget, Enclosure.near]

private theorem ofAction (h : targets.Fits around) {kind : ActionKind} (hkind : kind.carriesFlow = true) :
    (targets.ofAction kind).Fits (.action kind :: around) := by
  cases kind <;> cases hkind
  · exact ⟨by simpa [Targets.ofAction, Signal.hasTarget, Enclosure.near] using h.breaks,
      by simpa [Targets.ofAction, Signal.hasTarget, Enclosure.near] using h.continues⟩
  · exact ⟨rfl, rfl⟩

end Targets.Fits

/-! ## Refusals -/

/-- Whether an error tells of a signal that leads nowhere. -/
def Error.isOutsideLoop : Error → Bool
  | .outsideLoop .. => true
  | _ => false

def FlowPart.isFlow : FlowPart → Bool
  | .command (.flow ..) => true
  | _ => false

/-- A part is no explicit flow, and if it stands for nothing it is known why. -/
structure FlowPart.Plain (faults : Error → Prop) (part : FlowPart) : Prop where
  notFlow : part.isFlow = false
  faults : ∀ cause, part = .invalid cause → faults cause

private theorem Unkeyed.not_outsideLoop {α : Type} {x : Except Error α} (h : Unkeyed x) {e : Error}
    (he : x = .error e) :
    e.isOutsideLoop = false := by
  rcases h e he with rfl | hnaming
  · rfl
  · cases e <;> first | rfl | cases hnaming

namespace Compile

variable {α β : Type} {faults : Error → Prop} {b c : Prop}

/-- Compiling fails because of a signal that leads nowhere only if there is one, and then it does fail. Elements that
stand for nothing have faults of their own. -/
def Told (faults : Error → Prop) (b : Prop) (x : Compile α) : Prop :=
  ∀ p, match x p with
    | .ok _ _ => ¬b
    | .error e _ => e.isOutsideLoop = true → ¬faults e → b

namespace Told

private theorem pure (a : α) : Told faults False (pure a : Compile α) := fun _ => id

private theorem throw {e : Error} (h : e.isOutsideLoop = true → ¬faults e → b) : Told faults b
    (throw e : Compile α) := fun _ => h

private theorem congr {x : Compile α} (hx : Told faults b x) (h : b ↔ c) : Told faults c x := propext h ▸ hx

private theorem bind {x : Compile α} {f : α → Compile β} (hx : Told faults b x) (hf : ∀ a, Told faults c (f a)) :
    Told faults (b ∨ c) (x >>= f) := by
  intro p
  have hfirst := hx p
  change match EStateM.bind x f p with
    | .ok _ _ => ¬(b ∨ c)
    | .error e _ => e.isOutsideLoop = true → ¬faults e → b ∨ c
  unfold EStateM.bind
  cases hr : x p with
  | error e q =>
    rw [hr] at hfirst
    exact fun he hown => .inl (hfirst he hown)
  | ok a q =>
    rw [hr] at hfirst
    have hrest := hf a q
    dsimp only at hfirst ⊢
    cases hs : f a q with
    | error e s =>
      rw [hs] at hrest
      exact fun he hown => .inr (hrest he hown)
    | ok d s =>
      rw [hs] at hrest
      exact not_or.mpr ⟨hfirst, hrest⟩

private theorem after {x : Compile α} {f : α → Compile β} (hx : Told faults False x) (hf : ∀ a, Told faults b (f a)) :
    Told faults b (x >>= f) :=
  (hx.bind hf).congr (or_iff_right id)

private theorem before {x : Compile α} {f : α → Compile β} (hx : Told faults b x) (hf : ∀ a, Told faults False (f a)) :
    Told faults b (x >>= f) :=
  (hx.bind hf).congr (or_iff_left id)

private theorem ofExcept {x : Except Error α} (h : ∀ e, x = .error e → e.isOutsideLoop = false) : Told faults False
    (ofExcept x) := by
  cases x with
  | ok a => exact .pure a
  | error e => exact .throw fun he _ => by simp [h e rfl] at he

private theorem modify (f : Program → Program) : Told faults False (modify f : Compile PUnit) := fun _ => id

private theorem append (path : FlowPath) (id : String) : Told faults False (append path id) :=
  .ofExcept fun _ => (FlowKey.misnames_append path id).unkeyed.not_outsideLoop

private theorem key (path : FlowPath) : Told faults False (Compile.key path) := fun p =>
  Told.ofExcept (fun _ => (FlowKey.unkeyed_ofPath p.dialog.name path).not_outsideLoop) p

private theorem register (path : FlowPath) (h : FlowHandler) : Told faults False (register path h) := by
  refine (key path).after fun key p => ?_
  have hadd : Told faults False (Compile.ofExcept (p.add key h)) := by
    refine .ofExcept fun e he => ?_
    unfold Program.add at he
    split at he <;> cases he
    rfl
  exact (hadd.before (f := fun q => set q) fun q _ => id) p

private theorem refer (target : Value) : Told faults False (refer target) := fun p =>
  (Told.ofExcept fun _ => (FlowKey.unkeyed_ofValue p.dialog.name target).not_outsideLoop).before
    (f := fun key => do set (p.referring key); return key) (fun _ _ => id) p

private theorem checkFlow {flow : Flow} (h : ∀ part ∈ flowParts flow, part.Plain faults) : Told faults False
    (checkFlow flow) := by
  unfold Colloquy.checkFlow
  split
  · rename_i e he
    exact .throw fun _ hown => absurd ((h _ (mem_flowParts_of_fault he)).faults e rfl) hown
  · exact .pure ()

private theorem startParam (target : Value) : Told faults False (Compile.ofExcept (StartParam.check target)) := by
  have hshape (shaped : Bool) (e : Error)
      (he : (if shaped then .ok () else .error (.invalidStart target) : Except Error Unit) = .error e) :
      e.isOutsideLoop = false := by
    cases shaped <;> cases he
    rfl
  exact .ofExcept (hshape _)

end Told

end Compile

open Compile

/-! ## Compiling -/

section Compiling

variable {faults : Error → Prop}

mutual

private theorem told_compileFlow {flow : Flow} (h : ∀ part ∈ flowParts flow, part.Plain faults) {targets : Targets}
    {around : List Enclosure} (hfits : targets.Fits around) (path : FlowPath) (index : Nat) :
    Told faults (Strays (flowSignals around flow)) (compileFlow flow path targets index) := by
  rw [compileFlow]
  refine (Told.checkFlow h).after fun _ => (Told.key path).after fun key => ?_
  exact (told_compileElements h hfits path index).before fun steps => .register path _
termination_by (flowWeight flow, 2)

theorem told_compileElements {flow : Flow} (h : ∀ part ∈ flowParts flow, part.Plain faults) {targets : Targets}
    {around : List Enclosure} (hfits : targets.Fits around) (path : FlowPath) (index : Nat) :
    Told faults (Strays (flowSignals around flow)) (compileElements flow path targets index) := by
  match flow with
  | [] =>
    rw [compileElements]
    exact (Told.pure _).congr strays_nil.symm
  | e :: rest =>
    have hpos := e.weight_pos
    obtain ⟨hfirst, hrest⟩ := List.forall_mem_append.mp h
    cases he : e.command? with
    | none =>
      obtain ⟨hsignals, hterminal⟩ := e.signals_of_none around he
      rw [compileElements_handler he, flowSignals, hsignals, hterminal]
      exact (told_compileElements hrest hfits path index).before fun _ => .pure _
    | some c =>
      rw [Element.parts_of_command? he] at hfirst
      have hle := Element.weight_le_of_command? he
      obtain ⟨hsignals, hterminal⟩ := e.signals_of_command? around he
      have hcommand {targets : Targets} (hfits : targets.Fits around) :
          Told faults (Strays (c.signals around)) (compileCommand c path targets) :=
            told_compileCommand hfirst hfits path
      rw [flowSignals, hsignals, hterminal]
      cases hb : c.breaksFlow with
      | false =>
        have ht : c.isTerminal = false := by cases c <;> first | rfl | cases hb
        rw [compileElements_plain he hb, ht]
        refine ((hcommand hfits).bind fun step => ?_).congr strays_append.symm
        exact (told_compileElements hrest hfits path index).before fun _ => .pure _
      | true =>
        match rest with
        | [] =>
          rw [compileElements_last he hb, flowSignals, ite_self, List.append_nil]
          exact (hcommand hfits).before fun _ => .pure _
        | next :: rest =>
          cases ht : c.isTerminal with
          | true =>
            rw [compileElements_terminal he hb ht, if_pos rfl, List.append_nil]
            refine (Told.key path).after fun key => Told.after (.modify _) fun _ => ?_
            exact (hcommand hfits).before fun _ => .pure _
          | false =>
            -- what comes after the command is compiled before it
            rw [compileElements_broken he hb ht, if_neg (by simp)]
            refine Told.congr ?_ (or_comm.trans strays_append.symm)
            refine (told_compileContinuation hrest hfits path (index + 1)).bind fun own => ?_
            exact (hcommand (hfits.withNext (some own))).before fun _ => .pure _
termination_by (flowWeight flow, 1)
decreasing_by
  all_goals
    simp only [flowWeight, Prod.lex_def]
    omega

theorem told_compileContinuation {rest : Flow} (h : ∀ part ∈ flowParts rest, part.Plain faults) {targets : Targets}
    {around : List Enclosure} (hfits : targets.Fits around) (path : FlowPath) (index : Nat) :
    Told faults (Strays (flowSignals around rest)) (compileContinuation rest path targets index) := by
  match rest with
  | [] =>
    rw [compileContinuation]
    exact (Told.pure _).congr strays_nil.symm
  | first :: tail =>
    have hs : first.subFlow? = none := by
      cases hs : first.subFlow? with
      | none => rfl
      | some named =>
        have hfirst := (List.forall_mem_append.mp h).1
        rw [Element.parts_of_subFlow? hs] at hfirst
        cases (hfirst _ List.mem_cons_self).notFlow
    rw [compileContinuation_unspliced hs]
    refine (Told.append path _).after fun own => ?_
    exact (told_compileFlow h hfits own index).before fun _ => .pure _
termination_by (flowWeight rest, 3)
decreasing_by
  exact Prod.Lex.right _ (by omega)

theorem told_compileCommand {c : Command} (h : ∀ part ∈ c.parts, part.Plain faults) {targets : Targets}
    {around : List Enclosure} (hfits : targets.Fits around) (path : FlowPath) :
    Told faults (Strays (c.signals around)) (compileCommand c path targets) := by
  have hpos := c.weight_pos
  have hempty {targets : Targets} {around : List Enclosure} (hfits : targets.Fits around) (path : FlowPath) :
      Told faults False (compileFlow [] path targets 0) :=
    (told_compileFlow (by simp [flowParts]) hfits path 0).congr strays_nil
  match c with
  | .message kind id body actions items =>
    obtain ⟨hactions, hitems⟩ := List.forall_mem_append.mp (List.forall_mem_cons.mp h).2
    rw [compileCommand.eq_def, Command.signals]
    refine (Told.append path id).after fun own => Told.congr ?_ strays_append.symm
    refine (told_compileActions hactions hfits path).bind fun plan => ?_
    cases hfixed : items with
    | absent | computed => exact (Told.pure _).congr strays_nil.symm
    | fixed list =>
      have hweight : itemsWeight list = items.weight := by rw [hfixed, Items.weight]
      rw [hfixed] at hitems
      exact (told_compileItems hitems hfits path).before fun _ => .pure _
  | .conditional id test yes no =>
    obtain ⟨hyes, hno⟩ := List.forall_mem_append.mp (List.forall_mem_cons.mp h).2
    rw [compileCommand.eq_def, Command.signals]
    refine (Told.append _ _).after fun root => (Told.append _ _).after fun yesPath => (Told.append _ _).after fun noPath => ?_
    refine Told.congr ?_ strays_append.symm
    refine (told_compileFlow hyes hfits yesPath 0).bind fun _ => ?_
    exact (told_compileFlow hno hfits noPath 0).before fun _ => .pure _
  | .switch id value cases default =>
    obtain ⟨hcases, hdefault⟩ := List.forall_mem_append.mp (List.forall_mem_cons.mp h).2
    rw [compileCommand.eq_def, Command.signals]
    refine (Told.append _ _).after fun root => (Told.append _ _).after fun exit => (hempty hfits exit).after fun _ => ?_
    have hrest (fallback : FlowPath) := told_compileCases hcases (hfits.ofSwitch exit) root fallback
    refine Told.congr ?_ strays_append.symm
    cases hsome : default with
    | none => exact ((hrest exit).before fun _ => .pure _).congr (by simp [optionSignals, strays_nil])
    | some body =>
      have hweight : flowWeight body = optionWeight default := by rw [hsome, optionWeight]
      rw [hsome] at hdefault
      refine (Told.append _ _).after fun own => ?_
      refine (told_compileFlow hdefault ((hfits.ofSwitch exit).withNext (some exit)) own 0).bind fun _ => ?_
      exact (hrest own).before fun _ => .pure _
  | .iteration id init condition increment body =>
    have htail := flowWeight_loopTail_le body increment
    have hincrement := flowWeight_incrementFlow_le increment
    have hbody := (List.forall_mem_cons.mp h).2
    have hincrementPlain : ∀ part ∈ flowParts (incrementFlow increment), part.Plain faults := by
      intro part hpart
      obtain ⟨values, rfl⟩ := mem_flowParts_incrementFlow hpart
      exact ⟨rfl, nofun⟩
    have hrepeated : ∀ part ∈ flowParts (body ++ loopTail body increment), part.Plain faults := by
      rw [flowParts_append]
      refine List.forall_mem_append.mpr ⟨hbody, ?_⟩
      unfold loopTail
      split
      · nofun
      · exact hincrementPlain
    rw [compileCommand.eq_def, Command.signals]
    refine (Told.append _ _).after fun root => (Told.append _ _).after fun loop => (Told.append _ _).after fun own => ?_
    refine (Told.append _ _).after fun again => (Told.append _ _).after fun exit => ?_
    refine (Told.ofExcept fun _ => (unkeyed_incrementValues? increment).not_outsideLoop).after fun _ => ?_
    refine (Told.checkFlow hbody).after fun _ => (hempty hfits exit).after fun _ => ?_
    have hloop := told_compileFlow hrepeated (.ofLoop loop exit again around) own 0
    rw [flowSignals_append (flowSignals_loopTail body increment)] at hloop
    have hagain := told_compileFlow hincrementPlain (Targets.Fits.blank.withNext (some loop)) again 0
    rw [flowSignals_incrementFlow] at hagain
    refine hloop.before fun _ => (hagain.congr strays_nil).after fun _ => (Told.register _ _).after fun _ => ?_
    split
    · exact .pure _
    · exact (Told.append _ _).after fun _ => .pure _
  | .start id target args resume =>
    have hweight := flowWeight_getD resume
    have hresume : ∀ part ∈ flowParts (resume.getD []), part.Plain faults := by
      rw [flowParts_getD]
      exact (List.forall_mem_cons.mp h).2
    rw [Command.signals, ← optionSignals_getD]
    cases hlast : resume.isNone && targets.next.isNone with
    | true =>
      obtain ⟨hnone, hnext⟩ := Bool.and_eq_true_iff.mp hlast
      obtain rfl := Option.isNone_iff_eq_none.mp hnone
      rw [compileCommand_startLast _ _ _ _ (Option.isNone_iff_eq_none.mp hnext)]
      refine Told.congr ?_ strays_nil.symm
      exact (Told.startParam target).after fun _ => (Told.append _ _).after fun _ => .pure _
    | false =>
      rw [compileCommand_start _ _ _ _ hlast]
      refine (Told.startParam target).after fun _ => (Told.append _ _).after fun own => ?_
      refine (told_compileFlow hresume hfits own 0).before fun _ => (Told.key _).after fun tag => ?_
      exact Told.after (.modify _) fun _ => .pure _
  | .finish id result | .set id values | .exec id target args | .wait id seconds =>
    rw [compileCommand.eq_def]
    exact ((Told.append _ _).after fun _ => .pure _).congr strays_nil.symm
  | .break id =>
    rw [compileCommand.eq_def, Command.signals]
    refine Told.congr ?_ strays_singleton.symm
    rw [← hfits.breaks]
    cases targets.breakTo with
    | none => exact (Told.key path).after fun key => .throw fun _ _ => rfl
    | some exit => exact (Told.pure _).congr (by simp)
  | .continue id =>
    rw [compileCommand.eq_def, Command.signals]
    refine Told.congr ?_ strays_singleton.symm
    rw [← hfits.continues]
    cases targets.continueTo with
    | none => exact (Told.key path).after fun key => .throw fun _ _ => rfl
    | some again => exact (Told.pure _).congr (by simp)
  | .flow id body => cases (h _ List.mem_cons_self).notFlow
termination_by (c.weight, 0)
decreasing_by
  all_goals
    simp only [Command.weight, flowWeight, flowWeight_append, Prod.lex_def]
    omega

theorem told_compileCases {cases : List Case} (h : ∀ part ∈ casesParts cases, part.Plain faults) {targets : Targets}
    {around : List Enclosure} (hfits : targets.Fits around) (root : FlowPath) (next : FlowPath) :
    Told faults (Strays (casesSignals around cases)) (compileCases cases root targets next) := by
  match cases with
  | [] =>
    rw [compileCases]
    exact (Told.pure _).congr strays_nil.symm
  | .mk id value body :: rest =>
    obtain ⟨hcase, hrest⟩ := List.forall_mem_append.mp h
    rw [compileCases, casesSignals, Case.signals]
    -- the last case is compiled first
    refine Told.congr ?_ (or_comm.trans strays_append.symm)
    refine (told_compileCases hrest hfits root next).bind fun later => (Told.append _ _).after fun own => ?_
    exact (told_compileFlow (List.forall_mem_cons.mp hcase).2 (hfits.withNext (some later.2)) own 0).before fun _ => .pure _
termination_by (casesWeight cases, 0)
decreasing_by
  all_goals
    simp only [casesWeight, Case.weight, Prod.lex_def]
    omega

theorem told_compileActions {actions : Actions} (h : ∀ part ∈ actions.parts, part.Plain faults) {targets : Targets}
    {around : List Enclosure} (hfits : targets.Fits around) (path : FlowPath) :
    Told faults (Strays (actions.signals around)) (compileActions actions path targets) := by
  match actions with
  | .absent | .computed _ =>
    rw [compileActions]
    exact (Told.pure _).congr strays_nil.symm
  | .fixed list =>
    rw [compileActions, Actions.signals]
    exact (told_compileActionList h hfits path).before fun _ => .pure _
termination_by (actions.weight, 2)
decreasing_by
  simp only [Actions.weight]
  exact Prod.Lex.right _ (by omega)

theorem told_compileActionList {actions : List Action} (h : ∀ part ∈ actionsParts actions, part.Plain faults)
    {targets : Targets} {around : List Enclosure} (hfits : targets.Fits around) (path : FlowPath) :
    Told faults (Strays (actionsSignals around actions)) (compileActionList actions path targets) := by
  match actions with
  | [] =>
    rw [compileActionList]
    exact (Told.pure _).congr strays_nil.symm
  | a :: rest =>
    obtain ⟨hfirst, hrest⟩ := List.forall_mem_append.mp h
    rw [compileActionList, actionsSignals]
    refine Told.congr ?_ strays_append.symm
    refine (told_compileAction hfirst hfits path).bind fun params => ?_
    exact (told_compileActionList hrest hfits path).before fun _ => .pure _
termination_by (actionsWeight actions, 1)
decreasing_by
  all_goals
    have : 0 < a.weight := by cases a; simp only [Action.weight]; omega
    simp only [actionsWeight, Prod.lex_def]
    omega

theorem told_compileAction {a : Action} (h : ∀ part ∈ a.parts, part.Plain faults) {targets : Targets}
    {around : List Enclosure} (hfits : targets.Fits around) (path : FlowPath) :
    Told faults (Strays (a.signals around)) (compileAction a path targets) := by
  match a with
  | .mk info flow =>
    have hflow := (List.forall_mem_cons.mp h).2
    rw [compileAction.eq_def, Action.signals]
    dsimp only
    cases hthen : info.thenFlow.isNone with
    | false =>
      rw [if_neg (by simp)]
      refine Told.congr ?_ strays_nil.symm
      split
      · rw [if_pos (by simp)]
        exact .throw nofun
      · exact (Told.refer info.thenFlow).before fun _ => .pure _
    | true =>
      rw [if_pos rfl]
      cases hkind : info.kind.carriesFlow with
      | false =>
        cases flow with
        | none => exact (Told.pure _).congr strays_nil.symm
        | some body => exact .throw nofun
      | true =>
        simp only [Bool.not_true, Bool.false_eq_true, if_false]
        split
        · rename_i hplain
          obtain ⟨-, hnone⟩ := Bool.and_eq_true_iff.mp hplain
          obtain rfl := Option.isNone_iff_eq_none.mp hnone
          exact (Told.pure _).congr strays_nil.symm
        · split
          · exact .throw nofun
          · refine (Told.append _ _).after fun own => ?_
            have hoffer : Told faults False (do
                let key ← Compile.key own
                modify fun p => p.offering info.kind key own
                return Entries.put info.params "payload" (.str key)) :=
              (Told.key own).after fun key => Told.after (.modify _) fun _ => .pure _
            cases hsome : flow with
            | none => exact (told_compileFlow (by simp [flowParts]) (hfits.ofAction hkind) own 0).before fun _ => hoffer
            | some body =>
              have hweight : flowWeight body = optionWeight flow := by rw [hsome, optionWeight]
              rw [hsome] at hflow
              exact (told_compileFlow hflow (hfits.ofAction hkind) own 0).before fun _ => hoffer
termination_by (a.weight, 0)
decreasing_by
  all_goals
    simp only [Action.weight, flowWeight, Prod.lex_def]
    omega

theorem told_compileItems {items : List Item} (h : ∀ part ∈ itemsParts items, part.Plain faults) {targets : Targets}
    {around : List Enclosure} (hfits : targets.Fits around) (path : FlowPath) :
    Told faults (Strays (itemsSignals around items)) (compileItems items path targets) := by
  match items with
  | [] =>
    rw [compileItems]
    exact (Told.pure _).congr strays_nil.symm
  | .mk info actions :: rest =>
    obtain ⟨hitem, hrest⟩ := List.forall_mem_append.mp h
    rw [compileItems, itemsSignals, Item.signals]
    have hroot : Told faults False (Compile.ofExcept (info.actionRoot actions path)) :=
      .ofExcept fun _ => (info.misnames_actionRoot actions path).unkeyed.not_outsideLoop
    refine hroot.after fun own => Told.congr ?_ strays_append.symm
    refine (told_compileActions (List.forall_mem_cons.mp hitem).2 hfits own).bind fun plan => ?_
    exact (told_compileItems hrest hfits path).before fun _ => .pure _
termination_by (itemsWeight items, 0)
decreasing_by
  all_goals
    simp only [itemsWeight, Item.weight, Prod.lex_def]
    omega

end

end Compiling

/-- A flow without explicit flows, compiled as an entry point, is refused on account of its signals if and only if one
of them leads nowhere: a `break` outside of every loop and switch or a `continue` outside of every loop. The flow has no
other error: it is not refused for another reason, nor for an element that stands for nothing. -/
theorem stray_signals_are_refused {flow : Flow} (hflows : ∀ part ∈ flowParts flow, part.isFlow = false)
    (path : FlowPath) (p : Program)
    (honly : ∀ e q, compileFlow flow path {} 0 p = .error e q → e.isOutsideLoop = true ∧ .invalid e ∉ flowParts flow) :
    (∃ signal key q, compileFlow flow path {} 0 p = .error (.outsideLoop signal key) q) ↔
      ∃ found ∈ flowSignals [] flow, found.1.hasTarget found.2 = false := by
  have hplain : ∀ part ∈ flowParts flow, part.Plain (.invalid · ∈ flowParts flow) := by
    intro part hpart
    refine ⟨hflows part hpart, ?_⟩
    rintro cause rfl
    exact hpart
  have htold := told_compileFlow hplain .blank path 0 p
  cases hr : compileFlow flow path {} 0 p with
  | ok u q =>
    rw [hr] at htold
    exact iff_of_false (by simp) htold
  | error e q =>
    rw [hr] at htold
    obtain ⟨he, hown⟩ := honly e q hr
    refine iff_of_true ?_ (htold he hown)
    cases e <;> cases he
    exact ⟨_, _, _, rfl⟩

/-- A loop may be left from within, but not the flow around it. -/
def leftTwice : Flow :=
  [.command (.iteration "each" [] (.bool true) [] [.command (.break "leave")]), .command (.break "stop")]

def nothing : Program := { dialog := { name := "D" } }

-- The continuation after the loop is compiled first, so nothing is registered when the second `break` is refused.
private theorem compileFlow_leftTwice : compileFlow leftTwice [.name "onStart"] {} 0 nothing =
    .error (.outsideLoop .break "D:onStart.flow1") nothing := by
  have hstop : compileFlow [.command (.break "stop")] [.name "onStart", .name "flow1"] {} 1 nothing =
      .error (.outsideLoop .break "D:onStart.flow1") nothing := by
    rw [compileFlow, compileElements_last (c := .break "stop") rfl rfl, compileCommand.eq_def]
    with_unfolding_all rfl
  rw [leftTwice, compileFlow, compileElements_broken rfl rfl rfl, compileContinuation_unspliced rfl]
  refine bind_eq_error.mpr (.inr ⟨(), nothing, rfl, ?_⟩)
  refine bind_eq_error.mpr (.inr ⟨"D:onStart", nothing, by with_unfolding_all rfl, ?_⟩)
  refine bind_eq_error.mpr (.inl (bind_eq_error.mpr (.inl ?_)))
  refine bind_eq_error.mpr (.inr ⟨[.name "onStart", .name "flow1"], nothing, by with_unfolding_all rfl, ?_⟩)
  exact bind_eq_error.mpr (.inl hstop)

theorem leftTwice_is_refused :
    ∃ signal key q, compileFlow leftTwice [.name "onStart"] {} 0 nothing = .error (.outsideLoop signal key) q := by
  have hflows : ∀ part ∈ flowParts leftTwice, part.isFlow = false := by
    simp [leftTwice, flowParts, Element.parts, Command.parts, FlowPart.isFlow]
  have honly : ∀ e q, compileFlow leftTwice [.name "onStart"] {} 0 nothing = .error e q →
      e.isOutsideLoop = true ∧ .invalid e ∉ flowParts leftTwice := by
    intro e q h
    rw [compileFlow_leftTwice] at h
    cases h
    exact ⟨rfl, by simp [leftTwice, flowParts, Element.parts, Command.parts]⟩
  refine (stray_signals_are_refused hflows _ _ honly).mpr ⟨(.break, []), ?_, rfl⟩
  simp [leftTwice, flowSignals, Element.signals, Command.signals, Element.isTerminal, Element.meaning,
    Command.isTerminal]

end Colloquy
