import Colloquy.Proofs.Run.Steps

/-!
# Paths that run alike

Two machines with the same application may run different programs. A path of the one runs like a path of
the other if both do the same, with any variables and in every world, however many jumps they may make. A jump to
paths that run alike for some number of jumps makes the paths that it comes from run alike for one more, so
whatever is said here counts the jumps that are left.
-/

namespace Colloquy

def Targets.onSignal (targets : Targets) : Signal → Option FlowPath
  | .break => targets.breakTo
  | .continue => targets.continueTo

namespace Machine

/-! ## Machines that run another program -/

def running (m : Machine) (q : Program) : Machine := { m with program := q }

section Running

variable {m : Machine} {q : Program} (hname : q.dialog.name = m.program.dialog.name)
include hname

private theorem computedAction_running : (m.running q).computedAction = m.computedAction := by
  have hkey : q.key = m.program.key := by
    unfold Program.key
    rw [hname]
  have hpathKey : q.pathKey = m.program.pathKey := by
    unfold Program.pathKey
    rw [hname]
  funext next a
  unfold computedAction running
  rw [hkey, hpathKey]

private theorem expandActions_running : (m.running q).expandActions = m.expandActions := by
  funext x next plan
  cases plan with
  | absent | fixed => rfl
  | computed handler => simp only [expandActions, computedAction_running hname]

private theorem expandItems_running : (m.running q).expandItems = m.expandItems := by
  have hfixed : (m.running q).expandItem = m.expandItem := by
    funext x next item
    unfold expandItem
    rw [expandActions_running hname]
  have hcomputed : (m.running q).computedItem = m.computedItem := by
    funext next item
    unfold computedItem
    rw [computedAction_running hname]
  funext x next plan
  cases plan with
  | absent => rfl
  | fixed items => simp only [expandItems, hfixed]
  | computed handler => simp only [expandItems, hcomputed]

private theorem deliver_running : (m.running q).deliver = m.deliver := by
  funext plan vars
  unfold deliver
  rw [expandActions_running hname, expandItems_running hname]
  rfl

theorem runStep_running (hsettings : q.settings = m.program.settings) (path : FlowPath) (vars : Value) (step : Step) :
    (m.running q).runStep path vars step = m.runStep path vars step := by
  cases step with
  | message plan =>
    simp only [runStep, sendMessage, deliver_running hname]
  | wait at_ seconds =>
    have hwait : (m.running q).wait = m.wait := by
      funext v
      unfold wait running
      rw [hsettings]
    simp only [runStep, hwait]
    rfl
  | _ => rfl

end Running

/-! ## Running out -/

variable {m m' : Machine} {k j : Nat}

/-- Makes a jump, if there is one, and all those that it leads to; at most `k` of them. -/
def goOn (m : Machine) (k : Nat) : Option (Value × Value) → Run Unit
  | some (path, vars) => m.invoke k path vars
  | none => pure ()

private theorem invoke_succ (m : Machine) (k : Nat) (path vars : Value) :
    m.invoke (k + 1) path vars = m.hop path vars >>= m.goOn k := by
  unfold invoke
  rw [follow, bind_assoc]
  refine bind_congr fun jump => ?_
  cases jump with
  | none => cases k <;> rfl
  | some jump => rfl

/-- Runs the steps of a sequence and all that they lead to. -/
def runOut (m : Machine) (k : Nat) (key : String) (path : FlowPath) (targets : Targets) (vars : Value)
    (steps : List Step) : Run Unit := do
  m.goOn k (← m.landing path.toValue (← m.runSteps key path targets vars steps))

/-- How a sequence runs out after one of its steps, `rest` being the run of the steps that are left. -/
def runOutFrom (m : Machine) (k : Nat) (key : String) (targets : Targets) (vars : Value) (rest : Value → Run Unit) :
    StepResult → Run Unit
  | .done => rest vars
  | .update values => do rest (← overlay vars values)
  | .jump target vars => m.invoke k target vars
  | .signal s =>
    match targets.onSignal s with
    | some target => m.invoke k target.toValue vars
    | none => throw (.escapedSequence s key)

theorem runOut_nil (m : Machine) (k : Nat) (key : String) (path : FlowPath) (targets : Targets) (vars : Value) :
    m.runOut k key path targets vars [] = pure () := rfl

private theorem runOut_cons (m : Machine) (k : Nat) (key : String) (path : FlowPath) (targets : Targets) (vars : Value)
    (step : Step) (steps : List Step) : m.runOut k key path targets vars (step :: steps) = (do
      m.runOutFrom k key targets vars (fun vars => m.runOut k key path targets vars steps)
        (← m.runStep path vars step)) := by
  unfold runOut
  rw [runSteps_cons, bind_assoc]
  refine bind_congr fun result => ?_
  cases result with
  | done => rfl
  | update values => simp only [proceed, runOutFrom, bind_assoc]
  | jump target vars => rfl
  | signal s =>
    have hleads (t : Option FlowPath) :
        ((match t with
          | some target => pure (.jump target.toValue vars)
          | none => throw (.escapedSequence s key) : Run StepResult) >>= fun r =>
            m.landing path.toValue r >>= m.goOn k) =
          match t with
          | some target => m.invoke k target.toValue vars
          | none => throw (.escapedSequence s key) := by cases t <;> rfl
    cases s <;> exact hleads _

/-! ## Running alike -/

/-- Running the one path is running the other, as long as no more than `k` jumps are made. -/
def Alike (m m' : Machine) (k : Nat) (path path' : FlowPath) : Prop :=
  ∀ j ≤ k, ∀ vars, m.invoke j path.toValue vars = m'.invoke j path'.toValue vars

variable {path path' : FlowPath}

theorem Alike.mono (h : m.Alike m' k path path') (hj : j ≤ k) : m.Alike m' j path path' :=
  fun i hi => h i (Nat.le_trans hi hj)

theorem alike_zero : m.Alike m' 0 path path' := by
  intro j hj vars
  obtain rfl := Nat.le_zero.mp hj
  rfl

private theorem alike_succ (h : ∀ j ≤ k, ∀ vars,
    (m.hop path.toValue vars >>= m.goOn j) = m'.hop path'.toValue vars >>= m'.goOn j) :
    m.Alike m' (k + 1) path path' := by
  intro j hj vars
  cases j with
  | zero => rfl
  | succ j =>
    rw [invoke_succ, invoke_succ]
    exact h j (Nat.le_of_succ_le_succ hj) vars

theorem alike_sequence {key key' : String} {steps steps' : List Step} {targets targets' : Targets}
    (hfind : m.program.find path.toValue = .ok (.sequence key path steps targets))
    (hfind' : m'.program.find path'.toValue = .ok (.sequence key' path' steps' targets'))
    (h : ∀ j ≤ k, ∀ vars,
      m.runOut j key path targets vars steps = m'.runOut j key' path' targets' vars steps') :
    m.Alike m' (k + 1) path path' := by
  refine alike_succ fun j hj vars => ?_
  unfold hop
  rw [hfind, hfind']
  simp only [Run.ofExcept, pure_bind, bind_assoc]
  exact h j hj vars

theorem alike_loop {id id' : String} {condition condition' : Value} {body body' exit exit' : FlowPath}
    (hfind : m.program.find path.toValue = .ok (.loop id path condition body exit))
    (hfind' : m'.program.find path'.toValue = .ok (.loop id' path' condition' body' exit'))
    (hholds : ∀ vars, m.holds path condition vars = m'.holds path' condition' vars)
    (hbody : m.Alike m' k body body') (hexit : m.Alike m' k exit exit') : m.Alike m' (k + 1) path path' := by
  refine alike_succ fun j hj vars => ?_
  unfold hop
  rw [hfind, hfind']
  simp only [Run.ofExcept, runHandler, pure_bind, bind_assoc, hholds]
  refine bind_congr fun passed => ?_
  cases passed with
  | true => exact hbody j hj vars
  | false => exact hexit j hj vars

/-! ## Steps that lead to paths that run alike -/

variable {targets targets' : Targets}

/-- What steps of two sequences lead to is the same, but for paths, which run alike. -/
inductive ResultAlike (m m' : Machine) (k : Nat) (targets targets' : Targets) : StepResult → StepResult → Prop
  | done : ResultAlike m m' k targets targets' .done .done
  | update (values : Entries) : ResultAlike m m' k targets targets' (.update values) (.update values)
  | jump {path path' : FlowPath} (h : m.Alike m' k path path') (vars : Value) :
    ResultAlike m m' k targets targets' (.jump path.toValue vars) (.jump path'.toValue vars)
  | signal {s : Signal} {path path' : FlowPath} (ht : targets.onSignal s = some path)
    (ht' : targets'.onSignal s = some path') (h : m.Alike m' k path path') :
    ResultAlike m m' k targets targets' (.signal s) (.signal s)

/-- Two steps do the same, whatever is done with their results, as long as it is the same with results that are
alike. -/
def StepAlike (m m' : Machine) (k : Nat) (targets targets' : Targets) (x x' : Run StepResult) : Prop :=
  ∀ f f' : StepResult → Run Unit, (∀ r r', m.ResultAlike m' k targets targets' r r' → f r = f' r') →
    (x >>= f) = x' >>= f'

theorem StepAlike.pure {r r' : StepResult} (h : m.ResultAlike m' k targets targets' r r') :
    m.StepAlike m' k targets targets' (Pure.pure r) (Pure.pure r') := by
  intro f f' hf
  rw [pure_bind, pure_bind]
  exact hf r r' h

theorem StepAlike.throw (e : Error) :
    m.StepAlike m' k targets targets' (MonadExcept.throw e) (MonadExcept.throw e) := fun _ _ _ => rfl

theorem StepAlike.bind {α : Type} {x : Run α} {f f' : α → Run StepResult}
    (h : ∀ a, m.StepAlike m' k targets targets' (f a) (f' a)) :
    m.StepAlike m' k targets targets' (x >>= f) (x >>= f') := by
  intro g g' hg
  rw [bind_assoc, bind_assoc]
  exact bind_congr fun a => h a g g' hg

theorem StepAlike.runOut {own own' : Targets} {path path' : FlowPath} {vars : Value} {step step' : Step}
    {steps steps' : List Step} {key key' : String}
    (h : m.StepAlike m' k targets targets' (m.runStep path vars step) (m'.runStep path' vars step'))
    (hown : own.onSignal = targets.onSignal) (hown' : own'.onSignal = targets'.onSignal)
    (hrest : ∀ vars, m.runOut k key path own vars steps = m'.runOut k key' path' own' vars steps') :
    m.runOut k key path own vars (step :: steps) = m'.runOut k key' path' own' vars (step' :: steps') := by
  rw [runOut_cons, runOut_cons]
  apply h
  intro r r' hr
  cases hr with
  | done => exact hrest vars
  | update values => exact bind_congr hrest
  | jump h vars => exact h k (Nat.le_refl k) vars
  | signal ht ht' h =>
    simp only [runOutFrom, hown, hown', ht, ht']
    exact h k (Nat.le_refl k) vars

end Machine

end Colloquy
