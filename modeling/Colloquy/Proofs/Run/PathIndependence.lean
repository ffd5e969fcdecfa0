import Colloquy.Run.Machine

/-!
# Handlers that ignore their path

The path that a parameter is expanded at is only ever shown to handlers. If these ignore it, so does
everything that is made of them.
-/

namespace Colloquy

def Application.IgnoresPath (app : Application) : Prop :=
  ∀ f vars session path other,
    runFunction app f ⟨[vars, session, path], []⟩ = runFunction app f ⟨[vars, session, other], []⟩

/-- Whether a computation succeeds, and with what fault it fails if not. -/
private def verdict {α : Type} (x : Outcome α) : Outcome Unit := x.map fun _ => ()

private theorem verdict_bind {α β γ : Type} {x : Outcome α} {y : Outcome β} {f : α → Outcome γ}
    {g : β → Outcome γ} (h : verdict x = verdict y) (hfg : ∀ a b, verdict (f a) = verdict (g b)) :
    verdict (x >>= f) = verdict (y >>= g) := by
  cases x with
  | error e =>
    cases y with
    | error e' => 
      cases h
      rfl
    | ok b => cases h
  | ok a =>
    cases y with
    | error e' => cases h
    | ok b => exact hfg a b

private theorem verdict_mapM {α β : Type} {f g : α → Outcome β} (h : ∀ a, verdict (f a) = verdict (g a))
    (list : List α) : verdict (list.mapM f) = verdict (list.mapM g) := by
  induction list with
  | nil => rfl
  | cons a rest ih =>
    rw [List.mapM_cons, List.mapM_cons]
    exact verdict_bind (h a) fun _ _ => verdict_bind ih fun _ _ => rfl

private theorem verdict_bindOne (f : Function) (p : Parameter) {values others : List Value}
    {named : List (String × Value)} (hlength : values.length = others.length) :
    verdict (f.bindOne ⟨values, named⟩ p) = verdict (f.bindOne ⟨others, named⟩ p) := by
  unfold Function.bindOne
  cases p.kind with
  | rest | otherNamed => rfl
  | named => rfl
  | positional =>
    dsimp only
    by_cases hi : f.positionals.findIdx (·.name == p.name) < values.length
    · rw [List.getElem?_eq_getElem hi, List.getElem?_eq_getElem (hlength ▸ hi)]
      cases named.lookup p.name <;> rfl
    · rw [List.getElem?_eq_none (by omega), List.getElem?_eq_none (by omega)]

private theorem verdict_bind_length (f : Function) {values others : List Value} {named : List (String × Value)}
    (hlength : values.length = others.length) :
    verdict (f.bind ⟨values, named⟩) = verdict (f.bind ⟨others, named⟩) := by
  have hparam (p : Parameter) : verdict (do return (p.name, ← f.bindOne ⟨values, named⟩ p)) =
      verdict (do return (p.name, ← f.bindOne ⟨others, named⟩ p)) :=
    verdict_bind (verdict_bindOne f p hlength) fun _ _ => rfl
  unfold Function.bind
  dsimp only
  rw [hlength]
  split
  · rfl
  · split
    · rfl
    · exact verdict_bind (verdict_mapM hparam f.params) fun _ _ => rfl

theorem Application.IgnoresPath.of_const (result : Function → Run Value) :
    Application.IgnoresPath ⟨fun f _ => result f⟩ := by
  intro f vars session path other
  have hverdict (args : Arguments) : (Run.ofOutcome (f.bind args) >>= fun _ => result f) =
      Run.ofOutcome (verdict (f.bind args)) >>= fun _ => result f := by
    cases f.bind args <;> rfl
  unfold runFunction
  refine bind_congr fun _ => ?_
  have hlength : [vars, session, path].length = [vars, session, other].length := rfl
  rw [hverdict, hverdict, verdict_bind_length f hlength]

private theorem callFunction_congr {app : Application} {f : Function} {args others : Arguments}
    (h : runFunction app f args = runFunction app f others) :
    (callFunction app f args >>= awaited app) = callFunction app f others >>= awaited app := by
  unfold callFunction
  split
  · rw [pure_bind, pure_bind]
    exact h
  · rw [h]

theorem callHandler_path {app : Application} (happ : app.IgnoresPath) (fn vars session path other : Value) :
    callHandler app fn vars session path = callHandler app fn vars session other := by
  cases fn with
  | function f =>
    have hwhole := callFunction_congr (happ f vars session path other)
    unfold callHandler positionalArity
    dsimp only
    cases f.takesRest with
    | true => exact hwhole
    | false =>
      match f.positionals.length with
      | 0 | 1 | 2 => rfl
      | n + 3 => simpa [callValue] using hwhole
  | _ => rfl

namespace Expander

variable {x : Expander} (path : Value)

private theorem resume_path (v : Value) (after : List Expansion) :
    Expander.resume { x with path } v after = x.resume v after := by
  induction after generalizing v with
  | nil => rfl
  | cons expansion rest ih =>
    cases expansion with
    | negate => exact bind_congr fun _ => ih _
    | execute name => exact bind_congr fun _ => bind_congr fun _ => ih _

private theorem ended_path (after : List Expansion) (r : Run Value) :
    Expander.ended { x with path } after r = x.ended after r := by
  unfold ended
  simp only [resume_path]

private theorem gather_path (c : Collection) (after : List Expansion) (params : List Value) :
    Expander.gather { x with path } c after params = x.gather c after params := by
  unfold gather
  rw [ended_path]

private theorem finish_path (c : Collection) (after : List Expansion) (settled : Except Error Unit)
    (elements : List Task) :
    Expander.finish { x with path } c after settled elements = x.finish c after settled elements := by
  unfold finish
  simp only [ended_path]

variable (happ : x.app.IgnoresPath)
include happ

private theorem begin_path (fuel : Nat) (after : List Expansion) (param : Value) :
    Expander.begin { x with path } fuel after param = x.begin fuel after param := by
  induction fuel generalizing after param with
  | zero => rfl
  | succ fuel ih =>
    unfold begin
    simp only [ih, gather_path, ended_path, callHandler_path happ _ x.vars x.session path x.path]
    rfl

private theorem start_path (param : Value) : Expander.start { x with path } param = x.start param :=
  bind_congr fun _ => begin_path path happ _ _ _

omit happ

mutual

private theorem round_path (happ : x.app.IgnoresPath) (t : Task) : Expander.round { x with path } t = x.round t := by
  match t with
  | .fresh param =>
    rw [round, round]
    exact start_path path happ param
  | .group c after none elements =>
    rw [round, round, roundAll_path happ elements]
  | .group c after (some settled) elements =>
    rw [round, round, roundAll_path happ elements]
    exact bind_congr fun _ => finish_path path _ _ _ _
  | .ended result heard orphans =>
    rw [round, round, roundAll_path happ orphans]

private theorem roundAll_path (happ : x.app.IgnoresPath) (ts : List Task) : Expander.roundAll
    { x with path } ts = x.roundAll ts := by
  match ts with
  | [] => rfl
  | t :: rest =>
    rw [roundAll, roundAll, round_path happ t, roundAll_path happ rest]

end

include happ

private theorem complete_path (fuel : Nat) (t : Task) : Expander.complete
    { x with path } fuel t = x.complete fuel t := by
  induction fuel generalizing t with
  | zero => rfl
  | succ fuel ih =>
    unfold complete
    simp only [roundAll_path path happ, round_path path happ, ih]

private theorem expand_path (param : Value) : Expander.expand { x with path } param = x.expand param := by
  unfold expand
  simp only [complete_path path happ, start_path path happ]

private theorem expandAll_path (params : List Value) :
    Expander.expandAll { x with path } params = x.expandAll params := by
  unfold expandAll
  simp only [complete_path path happ, gather_path path]

private theorem exec_path (param : Value) : Expander.exec { x with path } param = x.exec param := by
  unfold exec
  simp only [expand_path path happ]

private theorem expandSet_path (param : Value) : Expander.expandSet { x with path } param = x.expandSet param := by
  unfold expandSet
  simp only [expandAll_path path happ]

end Expander

namespace Machine

variable {m : Machine} (happ : m.app.IgnoresPath) (path other : FlowPath) (vars : Value)
include happ

theorem expand_path (param : Value) :
    (m.expander vars path).expand param = (m.expander vars other).expand param :=
  Expander.expand_path (x := m.expander vars other) path.toValue happ param

theorem holds_path (condition : Value) : m.holds path condition vars = m.holds other condition vars := by
  unfold holds
  rw [expand_path happ path other]

theorem setVariables_path (values : Fields) : m.setVariables path values vars = m.setVariables other values vars := by
  have hset := Expander.expandSet_path (x := m.expander vars other) path.toValue happ (.record values)
  exact congrArg (· >>= _) hset

theorem assign_path (values : Fields) : m.assign path values vars = m.assign other values vars := by
  unfold assign
  rw [setVariables_path happ path other]

theorem handler_path (fn : Value) : m.runStep path vars (.handler fn) = m.runStep other vars (.handler fn) := by
  unfold runStep
  dsimp only
  rw [callHandler_path happ fn vars sessionValue path.toValue other.toValue]

theorem start_path (own : FlowPath) (target args : Value) (tag : Option String) :
    m.runStep own vars (.start path target args tag) = m.runStep own vars (.start other target args tag) := by
  simp only [runStep, Expander.expandGiven, expand_path happ path other]

theorem finish_path (own : FlowPath) (result : Value) :
    m.runStep own vars (.finish path result) = m.runStep own vars (.finish other result) := by
  simp only [runStep, expand_path happ path other]

theorem exec_path (own : FlowPath) (target args : Value) :
    m.runStep own vars (.exec path target args) = m.runStep own vars (.exec other target args) := by
  have hexec := Expander.exec_path (x := m.expander vars other) path.toValue happ
    (.record ([("exec", target)] ++ (if args.isNone then [] else [("args", args)])))
  exact congrArg (· >>= _) hexec

theorem wait_path (own : FlowPath) (seconds : Value) :
    m.runStep own vars (.wait path seconds) = m.runStep own vars (.wait other seconds) := by
  simp only [runStep, expand_path happ path other]

private theorem expandActions_path (next : Option FlowPath) (plan : ActionPlan) :
    m.expandActions (m.expander vars path) next plan = m.expandActions (m.expander vars other) next plan := by
  cases plan with
  | absent => rfl
  | fixed actions =>
    unfold expandActions
    dsimp only
    rw [expand_path happ path other]
  | computed handler =>
    unfold expandActions
    dsimp only
    rw [expand_path happ path other]

private theorem expandItems_path (next : Option FlowPath) (plan : ItemPlan) :
    m.expandItems (m.expander vars path) next plan = m.expandItems (m.expander vars other) next plan := by
  have hitem : m.expandItem (m.expander vars path) next = m.expandItem (m.expander vars other) next := by
    funext item
    unfold expandItem
    rw [expand_path happ path other, expandActions_path happ path other]
  cases plan with
  | absent => rfl
  | fixed items =>
    unfold expandItems
    dsimp only
    rw [hitem]
  | computed handler =>
    unfold expandItems
    dsimp only
    rw [expand_path happ path other]

theorem deliver_path (plan : MessagePlan) : m.deliver { plan with path } vars = m.deliver plan vars := by
  unfold deliver
  dsimp only
  rw [expand_path happ path plan.path, expandActions_path happ path plan.path, expandItems_path happ path plan.path]

end Machine

/-! ## What computes nothing -/

def ActionPlan.isComputed : ActionPlan → Bool
  | .computed _ => true
  | _ => false

/-- Whether something of the items is computed when their message is sent. -/
def ItemPlan.isComputed : ItemPlan → Bool
  | .absent => false
  | .fixed items => items.any (·.2.isComputed)
  | .computed _ => true

namespace Machine

variable (m : Machine) (x : Expander) (next other : Option FlowPath)

private theorem expandActions_next {plan : ActionPlan} (hplan : plan.isComputed = false) :
    m.expandActions x next plan = m.expandActions x other plan := by
  cases plan with
  | computed handler => cases hplan
  | _ => rfl

private theorem expandFixedItems_next {items : List (Entries × ActionPlan)}
    (hitems : ∀ item ∈ items, item.2.isComputed = false) :
    items.mapM (m.expandItem x next) = items.mapM (m.expandItem x other) := by
  induction items with
  | nil => rfl
  | cons item rest ih =>
    have hitem : m.expandItem x next item = m.expandItem x other item := by
      unfold expandItem
      rw [m.expandActions_next x next other (hitems item List.mem_cons_self)]
    rw [List.mapM_cons, List.mapM_cons, hitem, ih fun i hi => hitems i (List.mem_cons_of_mem _ hi)]

private theorem expandItems_next {plan : ItemPlan} (hplan : plan.isComputed = false) :
    m.expandItems x next plan = m.expandItems x other plan := by
  cases plan with
  | absent => rfl
  | computed handler => cases hplan
  | fixed items =>
    have hitems (item : Entries × ActionPlan) (hitem : item ∈ items) : item.2.isComputed = false := by
      simpa using List.any_eq_false.mp hplan item hitem
    unfold expandItems
    dsimp only
    rw [m.expandFixedItems_next x next other hitems]

theorem deliver_next (plan : MessagePlan) (hactions : plan.actions.isComputed = false)
    (hitems : plan.items.isComputed = false) (vars : Value) :
    m.deliver { plan with next } vars = m.deliver plan vars := by
  unfold deliver
  dsimp only
  rw [m.expandActions_next _ next plan.next hactions, m.expandItems_next _ next plan.next hitems]

end Machine

end Colloquy
