import Mathlib.Algebra.GroupWithZero.Nat
import Mathlib.Algebra.Order.BigOperators.Group.List
import Mathlib.Algebra.Order.Group.Nat
import Colloquy.Proofs.Compile.Derivation
import Colloquy.Proofs.Flow.Parts

/-!
# Calls of the compiler

Compiling a flow compiles the flows inside of it and, as continuations, flows that are put together from what is left
of a sequence. Here the compiler is watched: it does the same as ever, and each call that it makes of itself is noted.
A flow that is compiled by such a call has fewer commands than the flow that is being compiled, even where its list is
longer. So the calls end, and there are no more of them than the parts of the flow account for.
-/

namespace Colloquy

structure FlowCall where
  flow : Flow
  path : FlowPath
  targets : Targets
  index : Nat

def FlowCall.compile (c : FlowCall) : Compile Unit := compileFlow c.flow c.path c.targets c.index

/-- A call that the compiler makes: of a flow, of a continuation or of a command. -/
inductive CompilerCall where
  | flow (c : FlowCall)
  | continuation (rest : Flow) (path : FlowPath) (targets : Targets) (index : Nat)
  | command (c : Command) (path : FlowPath) (targets : Targets)

/-- Calls in their order, each with the program that it found. -/
abbrev CallLog := List (CompilerCall × Program)

/-- Compiling under watch: what compiling changes, and the calls so far. -/
abbrev Watched := EStateM Error (Program × CallLog)

namespace Watched

variable {α : Type}

/-- An outcome of compiling with the calls so far. -/
def withLog (r : EStateM.Result Error Program α) (log : CallLog) : EStateM.Result Error (Program × CallLog) α :=
  match r with
  | .ok a p => .ok a (p, log)
  | .error e p => .error e (p, log)

def noted : EStateM.Result Error (Program × CallLog) α → CallLog
  | .ok _ (_, log) => log
  | .error _ (_, log) => log

@[simp] theorem noted_withLog (r : EStateM.Result Error Program α) (log : CallLog) : noted (withLog r log) = log := by
  cases r <;> rfl

/-- Does something that makes no calls. -/
def run (x : Compile α) : Watched α := fun (p, log) => withLog (x p) log

private theorem run_bind {β : Type} {x : Compile α} {p q : Program} {a : α} (h : x p = .ok a q) (f : α → Watched β)
    (log : CallLog) : (run x >>= f) (p, log) = f a (q, log) := by
  change EStateM.bind (run x) f (p, log) = _
  simp only [EStateM.bind, run, h, withLog]

/-- Notes a call and the program that it finds. -/
def note (call : CompilerCall) : Watched Unit := fun (p, log) => .ok () (p, log ++ [(call, p)])

/-- Compiles a flow by a call. The calls made inside are those of this call, and are not noted here. -/
def call (c : FlowCall) : Watched Unit := do
  note (.flow c)
  run c.compile

end Watched

open Watched

/-! ## The compiler under watch -/

def watchAction (a : Action) (path : FlowPath) (targets : Targets) : Watched Entries :=
  match a with
  | .mk info flow => do
    if !info.kind.carriesFlow then
      if flow.isSome || !info.thenFlow.isNone then
        throw (.actionWithoutFlow (.ofText? info.id) info.kind.name)
      else return info.params
    else if !info.thenFlow.isNone then
      return Entries.put info.params "payload" (.str (← run (Compile.refer info.thenFlow)))
    else if info.kind == .postback && flow.isNone then return info.params
    else
      match info.buttonId with
      | none => throw (.actionWithoutId (Action.mk info flow).toValue)
      | some id => do
        let actionPath ← run (Compile.append path id)
        call ⟨flow.getD [], actionPath, targets.ofAction info.kind, 0⟩
        let key ← run (Compile.key actionPath)
        run (modify fun p => p.offering info.kind key actionPath)
        return Entries.put info.params "payload" (.str key)

def watchActionList (actions : List Action) (path : FlowPath) (targets : Targets) : Watched (List Entries) :=
  match actions with
  | [] => pure []
  | a :: rest => do
    let params ← watchAction a path targets
    return params :: (← watchActionList rest path targets)

def watchActions (actions : Actions) (path : FlowPath) (targets : Targets) : Watched ActionPlan :=
  match actions with
  | .absent => pure .absent
  | .computed handler => pure (.computed handler)
  | .fixed list => do return .fixed (← watchActionList list path targets)

def watchItems (items : List Item) (path : FlowPath) (targets : Targets) : Watched (List (Entries × ActionPlan)) :=
  match items with
  | [] => pure []
  | .mk info actions :: rest => do
    let root ← run (Compile.ofExcept (info.actionRoot actions path))
    let plan ← watchActions actions root targets
    return (info.params, plan) :: (← watchItems rest path targets)

def watchCases (cases : List Case) (root : FlowPath) (targets : Targets) (next : FlowPath) :
    Watched (List (Value × FlowPath) × FlowPath) :=
  match cases with
  | [] => pure ([], next)
  | .mk id value body :: rest => do
    let (later, next) ← watchCases rest root targets next
    let path ← run (Compile.append root id)
    call ⟨body, path, { targets with next := some next }, 0⟩
    return (((Case.mk id value body).matchValue, path) :: later, path)

/-- Compiles a command under watch, once it is called for. -/
def watchStep (c : Command) (path : FlowPath) (targets : Targets) : Watched Step :=
  match c with
  | .message kind id body actions items => do
    let messagePath ← run (Compile.append path id)
    let actionPlan ← watchActions actions path targets
    let itemPlan ← match items with
      | .absent => pure .absent
      | .computed handler => pure (.computed handler)
      | .fixed list => do pure (.fixed (← watchItems list path targets))
    return .message {
      path := messagePath
      params := body.params kind
      actions := actionPlan
      items := itemPlan
      next := targets.next
      dynamic := isDynamic actions items }
  | .conditional id test yes no => do
    let root ← run (Compile.append path id)
    let yesPath ← run (Compile.append root "then")
    let noPath ← run (Compile.append root "else")
    call ⟨yes, yesPath, targets, 0⟩
    call ⟨no, noPath, targets, 0⟩
    return .conditional root test yesPath noPath
  | .switch id value cases default => do
    let root ← run (Compile.append path id)
    let exit ← run (Compile.append root "end")
    call ⟨[], exit, targets, 0⟩
    let fallback ← match default with
      | none => pure exit
      | some body => do
        let defaultPath ← run (Compile.append root "default")
        call ⟨body, defaultPath, { targets.ofSwitch exit with next := some exit }, 0⟩
        pure defaultPath
    let (paths, _) ← watchCases cases root (targets.ofSwitch exit) fallback
    return .switch root value paths fallback
  | .iteration id init condition increment body => do
    let root ← run (Compile.append path id)
    let loop ← run (Compile.append root "loop")
    let bodyPath ← run (Compile.append root "do")
    let continuePath ← run (Compile.append root "continue")
    let exit ← run (Compile.append root "end")
    let _ ← run (Compile.ofExcept (incrementValues? increment))
    run (checkFlow body)
    call ⟨[], exit, targets, 0⟩
    call ⟨body ++ loopTail body increment, bodyPath, .ofLoop loop exit continuePath, 0⟩
    call ⟨incrementFlow increment, continuePath, { next := some loop }, 0⟩
    run (Compile.register loop (.loop id loop condition bodyPath exit))
    if init.isEmpty then return .iteration none loop
    else return .iteration (some (← run (Compile.append root "init"), init)) loop
  | .start id target args resume => do
    run (Compile.ofExcept (StartParam.check target))
    let startPath ← run (Compile.append path id)
    if resume.isNone && targets.next.isNone then return .start startPath target args none
    else
      call ⟨resume.getD [], startPath, targets, 0⟩
      let tag ← run (Compile.key startPath)
      run (modify fun p => p.awaiting target tag startPath)
      return .start startPath target args (some tag)
  | .finish id result => do return .finish (← run (Compile.append path id)) result
  | .set id values => do return .set (← run (Compile.append path id)) values
  | .exec id target args => do return .exec (← run (Compile.append path id)) target args
  | .wait id seconds => do return .wait (← run (Compile.append path id)) seconds
  | .break _ => do
    if targets.breakTo.isNone then throw (.outsideLoop .break (← run (Compile.key path)))
    else return .signal .break
  | .continue _ => do
    if targets.continueTo.isNone then throw (.outsideLoop .continue (← run (Compile.key path)))
    else return .signal .continue
  | .flow id body => do
    let bodyPath ← run (Compile.append path id)
    call ⟨body, bodyPath, targets, 0⟩
    return .jump bodyPath

def watchCommand (c : Command) (path : FlowPath) (targets : Targets) : Watched Step := do
  note (.command c path targets)
  watchStep c path targets

def watchContinuation (rest : Flow) (path : FlowPath) (targets : Targets) (index : Nat) : Watched FlowPath := do
  note (.continuation rest path targets index)
  match rest with
  | [] => pure path
  | first :: tail =>
    match first.subFlow? with
    | some (id, body) => do
      let continuation ← run (Compile.append path id)
      call ⟨body ++ tail, continuation, targets, index⟩
      return continuation
    | none => do
      let continuation ← run (Compile.append path ("flow" ++ toString index))
      call ⟨first :: tail, continuation, targets, index⟩
      return continuation

def watchElements (flow : Flow) (path : FlowPath) (targets : Targets) (index : Nat) : Watched (List Step) :=
  match flow with
  | [] => pure (targets.next.elim [] fun target => [.jump target])
  | e :: rest =>
    match e.command? with
    | none => do return .handler e.meaning.toValue :: (← watchElements rest path targets index)
    | some c =>
      if c.breaksFlow then do
        let inner ← if rest.isEmpty then pure targets
          else if c.isTerminal then do
            let key ← run (Compile.key path)
            run (Compile.warn (unreachableWarning c rest key))
            pure targets
          else do
            let next ← watchContinuation rest path targets (index + 1)
            pure { targets with next := some next }
        return [← watchCommand c path inner]
      else do
        let step ← watchCommand c path targets
        return step :: (← watchElements rest path targets index)

def FlowCall.watch (c : FlowCall) : Watched Unit := do
  run (checkFlow c.flow)
  let key ← run (Compile.key c.path)
  let steps ← watchElements c.flow c.path c.targets c.index
  run (Compile.register c.path (.sequence key c.path steps c.targets))

/-- The calls that the compiler makes while it compiles a flow, but not those that are made inside of calls for further
flows. -/
def FlowCall.calls (c : FlowCall) (p : Program) : CallLog := noted (c.watch (p, []))

/-! ## Counting -/

/-- Calls that a command may take for its own flows: for branches, for the place after a switch or a loop, for the body
of a loop and its increment with a command each, for what a dialog returns to. -/
def Command.innerCalls : Command → Nat
  | .conditional .. | .switch .. => 2
  | .iteration .. => 5
  | .start .. | .flow .. => 1
  | _ => 0

/-- Calls for what comes after a command, if it is compiled on its own: a continuation and its flow. -/
def Command.restCalls (c : Command) : Nat := if c.breaksFlow && !c.isTerminal then 2 else 0

namespace FlowPart

/-- Commands that a part stands for. The increment of a loop counts with its loop. -/
def commands : FlowPart → Nat
  | .command (.iteration _ _ _ increment _) => if increment.isEmpty then 1 else 2
  | .command _ => 1
  | _ => 0

def calls : FlowPart → Nat
  | .command c => 1 + c.innerCalls + c.restCalls
  | .case _ | .action _ => 1
  | _ => 0

end FlowPart

def commandCount (parts : List FlowPart) : Nat := (parts.map FlowPart.commands).sum

def callBound (parts : List FlowPart) : Nat := (parts.map FlowPart.calls).sum

/-- Calls that a call accounts for, itself included. -/
def CompilerCall.weight : CompilerCall → Nat
  | .flow c => callBound (flowParts c.flow) + 1
  | _ => 1

section Counting

variable {part : FlowPart} {parts more : List FlowPart}

@[simp] theorem commandCount_nil : commandCount [] = 0 := rfl

@[simp] theorem commandCount_cons : commandCount (part :: parts) = part.commands + commandCount parts := by
  simp [commandCount]

@[simp] theorem commandCount_append : commandCount (parts ++ more) = commandCount parts + commandCount more := by
  simp [commandCount]

@[simp] theorem callBound_nil : callBound [] = 0 := rfl

@[simp] theorem callBound_cons : callBound (part :: parts) = part.calls + callBound parts := by
  simp [callBound]

@[simp] theorem callBound_append : callBound (parts ++ more) = callBound parts + callBound more := by
  simp [callBound]

private theorem FlowPart.commands_pos (c : Command) : 0 < (FlowPart.command c).commands := by
  cases c with
  | iteration _ _ _ increment _ =>
    simp only [commands]
    split <;> omega
  | _ => exact Nat.one_pos

private theorem commandCount_pos (c : Command) : 0 < commandCount c.parts := by
  have hpos := FlowPart.commands_pos c
  cases c <;> exact Nat.lt_of_lt_of_le hpos (by simp [Command.parts])

private theorem callBound_command (c : Command) :
    callBound c.parts = c.innerCalls + callBound c.parts.tail + 1 + c.restCalls := by
  cases c <;> simp only [Command.parts, callBound_cons, List.tail_cons, FlowPart.calls, callBound_nil] <;> omega

private theorem commandCount_incrementFlow (increment : Fields) :
    commandCount (flowParts (incrementFlow increment)) = if increment.isEmpty then 0 else 1 := by
  unfold incrementFlow
  split <;> simp [flowParts, Element.parts, Command.parts, FlowPart.commands]

private theorem callBound_incrementFlow_le (increment : Fields) : callBound
    (flowParts (incrementFlow increment)) ≤ 1 := by
  unfold incrementFlow
  split <;> simp [flowParts, Element.parts, Command.parts, FlowPart.calls, Command.innerCalls, Command.restCalls,
    Command.breaksFlow]

private theorem commandCount_loopTail_le (body : Flow) (increment : Fields) :
    commandCount (flowParts (loopTail body increment)) ≤ if increment.isEmpty then 0 else 1 := by
  unfold loopTail
  split
  · simp [flowParts]
  · exact Nat.le_of_eq (commandCount_incrementFlow increment)

private theorem callBound_loopTail_le (body : Flow) (increment : Fields) :
    callBound (flowParts (loopTail body increment)) ≤ 1 := by
  unfold loopTail
  split
  · simp [flowParts]
  · exact callBound_incrementFlow_le increment

end Counting

/-- Flows that are called for have fewer than `n` commands, and all calls together account for at most `m`. -/
structure CallLog.Within (n m : Nat) (log : CallLog) : Prop where
  smaller : ∀ c p, (.flow c, p) ∈ log → commandCount (flowParts c.flow) < n
  few : (log.map fun entry => entry.1.weight).sum ≤ m

namespace CallLog.Within

variable {n m k : Nat} {log more : CallLog}

private theorem nil : Within n 0 [] := ⟨fun _ _ hmem => absurd hmem List.not_mem_nil, Nat.le_refl 0⟩

private theorem append (h : Within n m log) (h' : Within n k more) : Within n (m + k) (log ++ more) where
  smaller c p hmem := (List.mem_append.mp hmem).elim (h.smaller c p) (h'.smaller c p)
  few := by
    rw [List.map_append, List.sum_append]
    exact Nat.add_le_add h.few h'.few

private theorem le (h : Within n m log) (hm : m ≤ k) : Within n k log := ⟨h.smaller, Nat.le_trans h.few hm⟩

end CallLog.Within

/-! ## Watching changes nothing -/

/-- Under watch the same is done, and the calls that are made meanwhile are noted. Flows that are called for have fewer
than `n` commands, and the calls account for at most `m`. -/
def Watches {α : Type} (n m : Nat) (x : Watched α) (y : Compile α) : Prop :=
  ∀ p log, ∃ calls : CallLog, calls.Within n m ∧ x (p, log) = withLog (y p) (log ++ calls)

namespace Watches

variable {α β : Type} {n m k : Nat} {x : Watched α} {y : Compile α}

private theorem run (y : Compile α) : Watches n 0 (run y) y := fun p log =>
  ⟨[], .nil, by rw [List.append_nil]; rfl⟩

private theorem pure (a : α) : Watches n 0 (pure a) (pure a) := run (Pure.pure a)

private theorem throw (e : Error) : Watches n 0 (throw e : Watched α) (throw e) := run (MonadExcept.throw e)

private theorem le (h : Watches n m x y) (hm : m ≤ k) : Watches n k x y := fun p log =>
  have ⟨calls, hcalls, heq⟩ := h p log
  ⟨calls, hcalls.le hm, heq⟩

private theorem bind {f : α → Watched β} {g : α → Compile β} (h : Watches n m x y) (hf : ∀ a, Watches n k (f a) (g a)) :
    Watches n (m + k) (x >>= f) (y >>= g) := by
  intro p log
  obtain ⟨calls, hcalls, heq⟩ := h p log
  change ∃ calls : CallLog, calls.Within n (m + k) ∧
    EStateM.bind x f (p, log) = withLog (EStateM.bind y g p) (log ++ calls)
  unfold EStateM.bind
  rw [heq]
  cases y p with
  | error e q => exact ⟨calls, hcalls.le (Nat.le_add_right m k), rfl⟩
  | ok a q =>
    obtain ⟨more, hmore, hrest⟩ := hf a q (log ++ calls)
    refine ⟨calls ++ more, hcalls.append hmore, ?_⟩
    rw [← List.append_assoc]
    exact hrest

private theorem after {f : α → Watched β} {g : α → Compile β} {y : Compile α} (hf : ∀ a, Watches n m (f a) (g a)) :
    Watches n m (Watched.run y >>= f) (y >>= g) :=
  ((run y).bind hf).le (by omega)

private theorem call {flow : Flow} (h : commandCount (flowParts flow) < n) (path : FlowPath) (targets : Targets)
    (index : Nat) :
    Watches n (callBound (flowParts flow) + 1) (call ⟨flow, path, targets, index⟩)
      (compileFlow flow path targets index) := by
  refine fun p log => ⟨[(.flow ⟨flow, path, targets, index⟩, p)], ⟨fun c q hmem => ?_, ?_⟩, rfl⟩
  · cases List.mem_singleton.mp hmem
    exact h
  · simp [CompilerCall.weight]

private theorem note {call : CompilerCall} (hcall : ∀ c, call ≠ .flow c) (h : Watches n m x y) :
    Watches n (m + 1) (do note call; x) y := by
  intro p log
  obtain ⟨calls, hcalls, heq⟩ := h p (log ++ [(call, p)])
  have hfirst : CallLog.Within n 1 [(call, p)] := by
    refine ⟨fun c q hmem => ?_, ?_⟩
    · cases List.mem_singleton.mp hmem
      exact absurd rfl (hcall c)
    · cases call with
      | flow c => exact absurd rfl (hcall c)
      | _ => exact Nat.le_refl 1
  refine ⟨(call, p) :: calls, (hfirst.append hcalls).le (by omega), ?_⟩
  rw [List.append_cons]
  exact heq

private theorem mem_noted_bind {f : α → Watched β} {g : α → Compile β} {entry : CompilerCall × Program}
    {s : Program × CallLog} (h : entry ∈ noted (x s)) (hf : ∀ a, Watches n m (f a) (g a)) :
    entry ∈ noted ((x >>= f) s) := by
  change entry ∈ noted (EStateM.bind x f s)
  unfold EStateM.bind
  cases hx : x s with
  | error e t => rwa [hx] at h
  | ok a t =>
    obtain ⟨calls, -, heq⟩ := hf a t.1 t.2
    rw [hx] at h
    change entry ∈ noted (f a (t.1, t.2))
    rw [heq, noted_withLog]
    exact List.mem_append_left _ h

end Watches

section Parts

variable {n : Nat}

private theorem watches_action {a : Action} (h : commandCount a.parts < n) (path : FlowPath) (targets : Targets) :
    Watches n (callBound a.parts) (watchAction a path targets) (compileAction a path targets) := by
  obtain ⟨info, flow⟩ := a
  rw [Action.parts, commandCount_cons, ← flowParts_getD] at h
  rw [Action.parts, callBound_cons, ← flowParts_getD, compileAction.eq_def, watchAction]
  dsimp only
  split
  · split
    · exact (Watches.throw _).le (Nat.zero_le _)
    · exact (Watches.pure _).le (Nat.zero_le _)
  · split
    · exact (Watches.after fun _ => .pure _).le (Nat.zero_le _)
    · split
      · exact (Watches.pure _).le (Nat.zero_le _)
      · cases info.buttonId with
        | none => exact (Watches.throw _).le (Nat.zero_le _)
        | some id =>
          refine .after fun own => ?_
          have hbody := Nat.lt_of_le_of_lt (Nat.le_add_left _ _) h
          have hcall := (Watches.call hbody own (targets.ofAction info.kind) 0).bind fun _ =>
            Watches.after (y := Compile.key own) fun key =>
              .after (y := modify fun p => p.offering info.kind key own) fun _ =>
                .pure (Entries.put info.params "payload" (.str key))
          cases flow <;> exact hcall.le (Nat.le_of_eq (Nat.add_comm _ 1))

private theorem watches_actionList {actions : List Action} (h : commandCount (actionsParts actions) < n)
    (path : FlowPath) (targets : Targets) :
    Watches n (callBound (actionsParts actions)) (watchActionList actions path targets)
      (compileActionList actions path targets) := by
  induction actions with
  | nil =>
    rw [compileActionList]
    exact .pure _
  | cons a rest ih =>
    rw [actionsParts, commandCount_append] at h
    rw [actionsParts, callBound_append, compileActionList]
    refine (watches_action (by omega) path targets).bind fun params => ?_
    exact (ih (by omega)).bind fun more => .pure _

private theorem watches_actions {actions : Actions} (h : commandCount actions.parts < n) (path : FlowPath)
    (targets : Targets) :
    Watches n (callBound actions.parts) (watchActions actions path targets) (compileActions actions path targets) := by
  cases actions with
  | absent | computed =>
    rw [compileActions]
    exact (Watches.pure _).le (Nat.zero_le _)
  | fixed list =>
    rw [compileActions]
    exact (watches_actionList h path targets).bind fun _ => .pure _

private theorem watches_items {items : List Item} (h : commandCount (itemsParts items) < n) (path : FlowPath)
    (targets : Targets) :
    Watches n (callBound (itemsParts items)) (watchItems items path targets) (compileItems items path targets) := by
  induction items with
  | nil =>
    rw [compileItems]
    exact .pure _
  | cons item rest ih =>
    obtain ⟨info, actions⟩ := item
    rw [itemsParts, Item.parts, commandCount_append, commandCount_cons] at h
    rw [itemsParts, Item.parts, callBound_append, callBound_cons, compileItems]
    refine .after fun root => ?_
    have hlater := ih (by omega)
    exact ((watches_actions (by omega) root targets).bind fun plan => hlater.bind fun plans => .pure _).le (by omega)

private theorem watches_cases {cases : List Case} (h : commandCount (casesParts cases) < n) (root : FlowPath)
    (targets : Targets) (next : FlowPath) :
    Watches n (callBound (casesParts cases)) (watchCases cases root targets next)
      (compileCases cases root targets next) := by
  induction cases with
  | nil =>
    rw [compileCases]
    exact .pure _
  | cons first rest ih =>
    obtain ⟨id, value, body⟩ := first
    rw [casesParts, Case.parts, commandCount_append, commandCount_cons] at h
    rw [casesParts, Case.parts, callBound_append, callBound_cons, compileCases]
    have hbody : commandCount (flowParts body) < n := by omega
    refine ((ih (by omega)).bind fun later => .after fun own => ?_).le (Nat.le_of_eq (Nat.add_comm _ _))
    exact ((Watches.call hbody own _ 0).bind fun _ => .pure _).le (Nat.le_of_eq (Nat.add_comm _ 1))

private theorem watches_step {c : Command} (h : commandCount c.parts ≤ n) (path : FlowPath) (targets : Targets) :
    Watches n (c.innerCalls + callBound c.parts.tail) (watchStep c path targets) (compileCommand c path targets) := by
  have hempty : commandCount (flowParts []) < n := by
    have hpos := commandCount_pos c
    rw [flowParts, commandCount_nil]
    omega
  have hfree : callBound (flowParts []) = 0 := by rw [flowParts, callBound_nil]
  cases c with
  | message kind id body actions items =>
    simp only [Command.parts, commandCount_cons, commandCount_append, FlowPart.commands] at h
    simp only [Command.parts, List.tail_cons, callBound_append, Command.innerCalls, Nat.zero_add]
    rw [compileCommand.eq_def, watchStep]
    refine .after fun own => (watches_actions (by omega) path targets).bind fun plan => ?_
    cases items with
    | absent | computed => exact (Watches.pure _).le (Nat.zero_le _)
    | fixed list =>
      rw [Items.parts] at h ⊢
      exact (watches_items (by omega) path targets).bind fun _ => .pure _
  | conditional id test yes no =>
    simp only [Command.parts, commandCount_cons, commandCount_append, FlowPart.commands] at h
    simp only [Command.parts, List.tail_cons, callBound_append, Command.innerCalls]
    rw [compileCommand.eq_def, watchStep]
    refine .after fun root => .after fun yesPath => .after fun noPath => ?_
    have hyes : commandCount (flowParts yes) < n := by omega
    have hno : commandCount (flowParts no) < n := by omega
    exact ((Watches.call hyes yesPath targets 0).bind fun _ => (Watches.call hno noPath targets 0).bind fun _ =>
      .pure _).le (by omega)
  | switch id value cases default =>
    simp only [Command.parts, commandCount_cons, commandCount_append, FlowPart.commands] at h
    simp only [Command.parts, List.tail_cons, callBound_append, Command.innerCalls]
    rw [compileCommand.eq_def, watchStep]
    refine .after fun root => .after fun exit => ?_
    have hexit := Watches.call hempty exit targets 0
    have hcases : commandCount (casesParts cases) < n := by omega
    have hcases := watches_cases hcases root (targets.ofSwitch exit)
    cases default with
    | none => exact (hexit.bind fun _ => (hcases exit).bind fun _ => .pure _).le (by omega)
    | some body =>
      rw [optionParts] at h ⊢
      have hbody : commandCount (flowParts body) < n := by omega
      exact (hexit.bind fun _ => .after fun own => (Watches.call hbody own _ 0).bind fun _ => (hcases own).bind fun _ =>
        .pure _).le (by omega)
  | iteration id init condition increment body =>
    have hincrement := commandCount_incrementFlow increment
    have htail := commandCount_loopTail_le body increment
    simp only [Command.parts, commandCount_cons, FlowPart.commands] at h
    simp only [Command.parts, List.tail_cons, Command.innerCalls]
    -- The increment counts with its loop, so there is one command to spare wherever it is put.
    have hone : commandCount (flowParts (incrementFlow increment)) < n := by grind
    have hrepeated : commandCount (flowParts (body ++ loopTail body increment)) < n := by
      rw [flowParts_append, commandCount_append]
      grind
    rw [compileCommand.eq_def, watchStep]
    refine .after fun root => .after fun loop => .after fun own => .after fun again => .after fun exit => ?_
    have hexit := Watches.call hempty exit targets 0
    have hbody := Watches.call hrepeated own (.ofLoop loop exit again) 0
    have hagain := Watches.call hone again { next := some loop } 0
    rw [flowParts_append, callBound_append] at hbody
    have hcost := callBound_loopTail_le body increment
    have hcost' := callBound_incrementFlow_le increment
    refine .after fun _ => .after fun _ => (hexit.bind fun _ => hbody.bind fun _ => hagain.bind fun _ =>
      .after (m := 0) fun _ => ?_).le (by omega)
    split
    · exact .pure _
    · exact .after fun _ => .pure _
  | start id target args resume =>
    simp only [Command.parts, commandCount_cons, FlowPart.commands, ← flowParts_getD] at h
    simp only [Command.parts, List.tail_cons, Command.innerCalls, ← flowParts_getD]
    cases hlast : resume.isNone && targets.next.isNone with
    | true =>
      rw [compileCommand.eq_def, watchStep]
      simp only [hlast]
      exact .after fun _ => .after fun _ => (Watches.pure _).le (Nat.zero_le _)
    | false =>
      rw [compileCommand_start _ _ _ _ hlast, watchStep]
      simp only [hlast]
      refine .after fun _ => .after fun own => ?_
      have hresume : commandCount (flowParts (resume.getD [])) < n := by omega
      exact ((Watches.call hresume own targets 0).bind fun _ => .after fun tag => .after fun _ => .pure _).le (by omega)
  | finish id result | set id values | exec id target args | wait id seconds =>
    rw [compileCommand.eq_def, watchStep]
    exact (Watches.after fun _ => .pure _).le (Nat.zero_le _)
  | «break» id | «continue» id =>
    rw [compileCommand.eq_def, watchStep]
    dsimp only
    split
    · exact (Watches.after fun _ => .throw _).le (Nat.zero_le _)
    · exact (Watches.pure _).le (Nat.zero_le _)
  | flow id body =>
    simp only [Command.parts, commandCount_cons, FlowPart.commands] at h
    simp only [Command.parts, List.tail_cons, Command.innerCalls]
    rw [compileCommand.eq_def, watchStep]
    refine .after fun own => ?_
    have hbody : commandCount (flowParts body) < n := by omega
    exact ((Watches.call hbody own targets 0).bind fun _ => .pure _).le (by omega)

private theorem watches_command {c : Command} (h : commandCount c.parts ≤ n) (path : FlowPath) (targets : Targets) :
    Watches n (c.innerCalls + callBound c.parts.tail + 1) (watchCommand c path targets)
      (compileCommand c path targets) :=
  (watches_step h path targets).note fun _ => nofun

private theorem watches_continuation {rest : Flow} (h : commandCount (flowParts rest) < n) (path : FlowPath)
    (targets : Targets) (index : Nat) :
    Watches n (callBound (flowParts rest) + 2) (watchContinuation rest path targets index)
      (compileContinuation rest path targets index) := by
  refine .note (fun _ => nofun) ?_
  cases rest with
  | nil =>
    rw [compileContinuation]
    exact (Watches.pure _).le (Nat.zero_le _)
  | cons first tail =>
    cases hs : first.subFlow? with
    | none =>
      rw [compileContinuation_unspliced hs]
      simp only [hs]
      exact .after fun own => (Watches.call h own targets index).bind fun _ => .pure own
    | some named =>
      obtain ⟨id, body⟩ := named
      rw [compileContinuation_spliced hs]
      simp only [hs]
      refine .after fun own => ?_
      rw [flowParts, Element.parts_of_subFlow? hs, List.cons_append, commandCount_cons, ← flowParts_append] at h
      rw [flowParts, Element.parts_of_subFlow? hs, List.cons_append, callBound_cons, ← flowParts_append]
      have hspliced : commandCount (flowParts (body ++ tail)) < n := by omega
      exact ((Watches.call hspliced own targets index).bind fun _ => .pure own).le (by omega)

private theorem watches_elements {flow : Flow} (h : commandCount (flowParts flow) ≤ n) (path : FlowPath)
    (targets : Targets) (index : Nat) :
    Watches n (callBound (flowParts flow)) (watchElements flow path targets index)
      (compileElements flow path targets index) := by
  induction flow with
  | nil =>
    rw [compileElements]
    exact (Watches.pure _).le (Nat.zero_le _)
  | cons e rest ih =>
    rw [flowParts, commandCount_append] at h
    rw [flowParts, callBound_append, watchElements]
    cases he : e.command? with
    | none =>
      rw [compileElements_handler he]
      exact ((ih (by omega)).bind fun steps => .pure _).le (by omega)
    | some c =>
      rw [Element.parts_of_command? he, callBound_command]
      rw [Element.parts_of_command? he] at h
      have hpos := commandCount_pos c
      have hcommand := watches_command (c := c) (n := n) (by omega) path
      dsimp only
      cases hb : c.breaksFlow with
      | false =>
        rw [compileElements_plain he hb, if_neg Bool.false_ne_true]
        refine ((hcommand targets).bind fun step => (ih (by omega)).bind fun steps => .pure _).le (by omega)
      | true =>
        rw [if_pos rfl]
        cases rest with
        | nil =>
          rw [compileElements_last he hb]
          exact ((hcommand targets).bind fun step => .pure _).le (by omega)
        | cons next rest =>
          cases ht : c.isTerminal with
          | true =>
            rw [compileElements_terminal he hb ht]
            simp only [List.isEmpty_cons, Bool.false_eq_true, if_false, if_true, pure_bind]
            exact .after fun key => .after fun _ => ((hcommand targets).bind fun step => .pure _).le (by omega)
          | false =>
            rw [compileElements_broken he hb ht]
            have hrest : c.restCalls = 2 := by simp [Command.restCalls, hb, ht]
            simp only [List.isEmpty_cons, Bool.false_eq_true, if_false, pure_bind]
            have hlater : commandCount (flowParts (next :: rest)) < n := by omega
            exact ((watches_continuation hlater path targets (index + 1)).bind fun own =>
              (hcommand _).bind fun step => .pure _).le (by omega)

end Parts

/-! ## Calls come to an end -/

namespace FlowCall

variable {p : Program}

private theorem watches (c : FlowCall) :
    Watches (commandCount (flowParts c.flow)) (callBound (flowParts c.flow)) c.watch c.compile := by
  rw [compile, compileFlow]
  refine .after fun _ => .after fun key => ?_
  exact (watches_elements (Nat.le_refl _) c.path c.targets c.index).bind fun steps => .run _

private theorem watch_eq (c : FlowCall) (p : Program) : c.watch (p, []) = withLog (c.compile p) (c.calls p) := by
  obtain ⟨log, -, heq⟩ := c.watches p []
  rw [calls, heq, noted_withLog]

private theorem within_calls (c : FlowCall) (p : Program) :
    (c.calls p).Within (commandCount (flowParts c.flow)) (callBound (flowParts c.flow)) := by
  obtain ⟨log, hlog, heq⟩ := c.watches p []
  rw [calls, heq, noted_withLog]
  exact hlog

/-- All calls that are made while a flow is compiled, the call for the flow first. -/
def allCalls (c : FlowCall) (p : Program) : List CompilerCall :=
  .flow c :: (c.calls p).attach.flatMap fun entry =>
    match _h : entry.1 with
    | (.flow d, q) => d.allCalls q
    | (call, _) => [call]
termination_by commandCount (flowParts c.flow)
decreasing_by exact (c.within_calls p).smaller d q (_h ▸ entry.2)

end FlowCall

/-- All calls that come of a call, itself first. -/
def CompilerCall.made (call : CompilerCall) (p : Program) : List CompilerCall :=
  match call with
  | .flow c => c.allCalls p
  | call => [call]

namespace FlowCall

variable {p : Program}

private theorem allCalls_eq (c : FlowCall) (p : Program) :
    c.allCalls p = .flow c :: (c.calls p).flatMap fun entry => entry.1.made entry.2 := by
  rw [allCalls]
  refine congrArg (CompilerCall.flow c :: ·) ?_
  conv_rhs => rw [← List.attach_map_subtype_val (c.calls p), List.flatMap_map]
  refine List.flatMap_congr fun entry _ => ?_
  obtain ⟨⟨call, q⟩, hmem⟩ := entry
  cases call <;> rfl

private theorem length_allCalls_le (c : FlowCall) (p : Program) : (c.allCalls p).length ≤ callBound
    (flowParts c.flow) + 1 := by
  have hwithin := c.within_calls p
  have heach : ∀ entry ∈ c.calls p, (entry.1.made entry.2).length ≤ entry.1.weight := by
    rintro ⟨call, q⟩ hmem
    cases call with
    | flow d =>
      have hsmaller := hwithin.smaller d q hmem
      exact d.length_allCalls_le q
    | _ => exact Nat.le_refl 1
  rw [allCalls_eq, List.length_cons, List.length_flatMap]
  exact Nat.succ_le_succ (Nat.le_trans (List.sum_le_sum heach) hwithin.few)
termination_by commandCount (flowParts c.flow)

/-- Where an explicit flow comes after a command that breaks a sequence, its body and the rest are called for as one
flow. -/
theorem mem_calls_of_spliced {c : FlowCall} {e first : Element} {tail body : Flow} {id key : String} {breaker : Command}
    {own : FlowPath} (hflow : c.flow = e :: first :: tail) (hsound : c.flow.findSome? Element.fault? = none)
    (he : e.command? = some breaker) (hb : breaker.breaksFlow = true) (ht : breaker.isTerminal = false)
    (hs : first.subFlow? = some (id, body)) (hkey : p.pathKey c.path = .ok key)
    (hown : FlowPath.append c.path id = .ok own) :
    (.flow ⟨body ++ tail, own, c.targets, c.index + 1⟩, p) ∈ c.calls p := by
  have hcontinuation : (.flow ⟨body ++ tail, own, c.targets, c.index + 1⟩, p) ∈
      noted (watchContinuation (first :: tail) c.path c.targets (c.index + 1) (p, [])) := by
    change _ ∈ noted ((_ : Watched FlowPath) (p, [(.continuation (first :: tail) c.path c.targets (c.index + 1), p)]))
    simp only [hs]
    rw [run_bind (Compile.append_eq_ok.mpr ⟨hown, rfl⟩)]
    refine Watches.mem_noted_bind (n := 0) ?_ fun _ => .pure own
    change _ ∈ noted (withLog _ _)
    simp
  rw [calls, watch, run_bind (Compile.checkFlow_eq_ok.mpr ⟨hsound, rfl⟩), run_bind (Compile.key_eq_ok.mpr ⟨hkey, rfl⟩)]
  refine Watches.mem_noted_bind (n := 0) ?_ fun steps => .run _
  rw [hflow, watchElements]
  simp only [he, hb, if_true, List.isEmpty_cons, ht, Bool.false_eq_true, if_false, pure_bind]
  exact Watches.mem_noted_bind hcontinuation fun next =>
    (watches_command (Nat.le_refl _) c.path _).bind fun step => .pure _

end FlowCall

/-- The compiler makes finitely many calls of itself, whatever flow is compiled, where, with which targets, after how
many continuations and into which program. Each flow that it calls for has fewer commands than the flow that is being
compiled, nested ones and increments of loops included. Yet the list may be longer, where the body of an explicit flow
takes its place in a continuation. -/
theorem compiling_makes_finitely_many_calls :
    (∀ (c : FlowCall) (p : Program), c.watch (p, []) = withLog (c.compile p) (c.calls p) ∧
      (∀ d q, (.flow d, q) ∈ c.calls p → commandCount (flowParts d.flow) < commandCount (flowParts c.flow)) ∧
        (c.allCalls p).length ≤ callBound (flowParts c.flow) + 1) ∧
      ∀ body : Flow, ∃ (c d : FlowCall) (p q : Program),
        c.flow.length = 2 ∧ (.flow d, q) ∈ c.calls p ∧ d.flow = body := by
  refine ⟨fun c p => ⟨c.watch_eq p, (c.within_calls p).smaller, c.length_allCalls_le p⟩, fun body => ?_⟩
  let c : FlowCall := ⟨[.command (.flow "first" []), .command (.flow "second" body)], [.name "onStart"], {}, 0⟩
  let p : Program := { dialog := { name := "D" } }
  have hkey : p.pathKey c.path = .ok "D:onStart" := by with_unfolding_all rfl
  have hown : FlowPath.append c.path "second" = .ok [.name "onStart", .name "second"] := by with_unfolding_all rfl
  exact ⟨c, _, p, p, rfl, FlowCall.mem_calls_of_spliced rfl rfl rfl rfl rfl rfl hkey hown, List.append_nil body⟩

/-- A list that is called for may be longer than the list that is being compiled, and yet have fewer commands. -/
theorem longer_list_has_fewer_commands : ∃ (c d : FlowCall) (p q : Program),
    (.flow d, q) ∈ c.calls p ∧ c.flow.length < d.flow.length ∧
      commandCount (flowParts d.flow) < commandCount (flowParts c.flow) := by
  let wait : Element := .command (.wait "pause" (.int 1))
  obtain ⟨hcalls, hlists⟩ := compiling_makes_finitely_many_calls
  obtain ⟨c, d, p, q, hlength, hmem, hbody⟩ := hlists [wait, wait, wait]
  exact ⟨c, d, p, q, hmem, by simp [hlength, hbody], (hcalls c p).2.1 d q hmem⟩

end Colloquy
