import Mathlib.Logic.Relation
import Colloquy.Proofs.Run.Steps

/-!
# Points of a run

A run can be seen as a walk from point to point: one move runs one step, enters a flow, or puts values that were set
on top of the variables. Every run that is made by following jumps is such a walk, however it ends.
-/

namespace Colloquy

open Run

structure Sequence where
  key : String
  path : FlowPath
  targets : Targets

inductive Point where
  /-- A flow is to be run. -/
  | flow (path vars : Value)
  /-- The steps of a sequence that are left are to be run. -/
  | steps (sequence : Sequence) (vars : Value) (steps : List Step)
  /-- Values were set and are to be put on top of the variables before the sequence goes on. -/
  | assigned (values : Entries) (sequence : Sequence) (vars : Value) (steps : List Step)

namespace Point

def vars : Point → Value
  | .flow _ vars | .steps _ vars _ | .assigned _ _ vars _ => vars

/-- Values that were set and are still to be put on top of the variables. -/
def pending : Point → Entries
  | .assigned values _ _ _ => values
  | _ => []

end Point

def Sequence.after (sequence : Sequence) (vars : Value) (rest : List Step) : StepResult → Run (Option Point)
  | .done => return some (.steps sequence vars rest)
  | .update values => return some (.assigned values sequence vars rest)
  | .jump target vars => return some (.flow target vars)
  | .signal s =>
    match (match s with | .break => sequence.targets.breakTo | .continue => sequence.targets.continueTo) with
    | some target => return some (.flow target.toValue vars)
    | none => throw (.escapedSequence s sequence.key)

def Point.ofJump (jump : Value × Value) : Point := .flow jump.1 jump.2

def StepResult.point : StepResult → Option Point
  | .jump target vars => some (.flow target vars)
  | _ => none

namespace Machine

/-- Moves on from a point; gives the next one, or none at the end of the run. -/
def move (m : Machine) : Point → Run (Option Point)
  | .flow path vars => do
    match ← Run.ofExcept (m.program.find path) with
    | .sequence key own steps targets => return some (.steps ⟨key, own, targets⟩ vars steps)
    | .loop _ at_ condition body exit => do
      let passed ← m.holds at_ condition vars
      return some (.flow (if passed then body else exit).toValue vars)
    | .external fn => do
      return (← m.landing path (← m.runHandler path vars (.external fn))).map Point.ofJump
  | .steps _ _ [] => pure none
  | .steps sequence vars (.iteration (some (at_, values)) loop :: rest) => do
    return some (.assigned (← m.setVariables at_ values vars) sequence vars (.jump loop :: rest))
  | .steps sequence vars (step :: rest) => do
    sequence.after vars rest (← m.runStep sequence.path vars step)
  | .assigned values sequence vars steps => do
    return some (.steps sequence (← overlay vars values) steps)

/-- One move leads from the first point to the second one. -/
def Moves (m : Machine) (q q' : World × Point) : Prop := m.move q.2 q.1 = .ok (some q'.2) q'.1

/-- A run that is at the first point may come to the second one. -/
def Reaches (m : Machine) : World × Point → World × Point → Prop := Relation.ReflTransGen m.Moves

def ComesTo (m : Machine) (q : World × Point) (result : EStateM.Result Error World (Option Point)) : Prop :=
  ∃ q', m.Reaches q q' ∧ m.move q'.2 q'.1 = result

variable {m : Machine} {w w' : World} {point point' : Point} {result : EStateM.Result Error World (Option Point)}

private theorem ComesTo.now (h : m.move point w = result) : m.ComesTo (w, point) result := ⟨_, .refl, h⟩

private theorem ComesTo.later (hmove : m.move point w = .ok (some point') w') (h : m.ComesTo (w', point') result) :
    m.ComesTo (w, point) result := by
  obtain ⟨q, hreaches, hq⟩ := h
  have hmoves : m.Moves (w, point) (w', point') := hmove
  exact ⟨q, .head hmoves hreaches, hq⟩

private theorem ComesTo.trans {q : World × Point} (h : m.ComesTo q (.ok (some point) w))
    (h' : m.ComesTo (w, point) result) :
    m.ComesTo q result := by
  obtain ⟨q', hreaches, hmove⟩ := h
  obtain ⟨q'', hreaches', hmove'⟩ := h'
  have hmoves : m.Moves q' (w, point) := hmove
  exact ⟨q'', (hreaches.tail hmoves).trans hreaches', hmove'⟩

theorem forall_reaches_of_move {P : World × Point → Prop} (hmove : m.move point w = .ok (some point') w')
    (hfirst : P (w, point)) (hlater : ∀ q, m.Reaches (w', point') q → P q) : ∀ q, m.Reaches (w, point) q → P q := by
  intro q hq
  obtain rfl | ⟨⟨w₁, point₁⟩, hmoves, hreaches⟩ := Relation.ReflTransGen.cases_head hq
  · exact hfirst
  · have hmoves : m.move point w = .ok (some point₁) w₁ := hmoves
    obtain ⟨rfl, rfl⟩ : point' = point₁ ∧ w' = w₁ := by simpa using hmove.symm.trans hmoves
    exact hlater q hreaches

theorem forall_reaches_of_end {P : World × Point → Prop} (hend : m.move point w = .ok none w') (hfirst : P (w, point)) :
    ∀ q, m.Reaches (w, point) q → P q := by
  intro q hq
  obtain rfl | ⟨⟨w₁, point₁⟩, hmoves, -⟩ := Relation.ReflTransGen.cases_head hq
  · exact hfirst
  · have hmoves : m.move point w = .ok (some point₁) w₁ := hmoves
    cases hend.symm.trans hmoves

private theorem ComesTo.of_overlay {values : Entries} {sequence : Sequence} {vars : Value} {steps : List Step}
    {rest : Value → Run (Option Point)}
    (h : ∀ vars w, m.ComesTo (w, .steps sequence vars steps) (rest vars w)) (w : World) :
    m.ComesTo (w, .assigned values sequence vars steps) ((do rest (← overlay vars values)) w) := by
  have hmove : m.move (.assigned values sequence vars steps) = (do
    return some (.steps sequence (← overlay vars values) steps)) := rfl
  cases hoverlay : overlay vars values w with
  | error e w' => exact .now (by rw [hmove, bind_error hoverlay, bind_error hoverlay])
  | ok vars' w' =>
    rw [bind_ok hoverlay]
    exact .later (by rw [hmove, bind_ok hoverlay]; rfl) (h vars' w')

/-! ## Sequences -/

theorem move_steps (step : Step) (hstep : ∀ entry loop, step ≠ .iteration (some entry) loop) (sequence : Sequence)
    (vars : Value) (rest : List Step) : m.move (.steps sequence vars (step :: rest)) = (do
      sequence.after vars rest (← m.runStep sequence.path vars step)) := by
  cases step with
  | iteration init loop =>
    cases init with
    | none => rfl
    | some entry => exact absurd rfl (hstep entry loop)
  | _ => rfl

private theorem comesTo_iteration (sequence : Sequence) (vars : Value) (at_ : FlowPath) (values : Fields)
    (loop : FlowPath) (rest : List Step) (w : World) :
    m.ComesTo (w, .steps sequence vars (.iteration (some (at_, values)) loop :: rest)) ((do
      let assigned ← m.setVariables at_ values vars
      let vars ← overlay vars assigned
      return some (Point.flow loop.toValue vars)) w) := by
  have hmove : m.move (.steps sequence vars (.iteration (some (at_, values)) loop :: rest)) = (do
    return some (.assigned (← m.setVariables at_ values vars) sequence vars (.jump loop :: rest))) := rfl
  cases hset : m.setVariables at_ values vars w with
  | error e w' => exact .now (by rw [hmove, bind_error hset, bind_error hset])
  | ok assigned w' =>
    rw [bind_ok hset]
    refine .later (by rw [hmove, bind_ok hset]; rfl) (.of_overlay (fun vars w => ?_) w')
    exact .now rfl

private theorem comesTo_runSteps (sequence : Sequence) (vars : Value) (steps : List Step) (w : World) :
    m.ComesTo (w, .steps sequence vars steps)
      ((do return (← m.runSteps sequence.key sequence.path sequence.targets vars steps).point) w) := by
  induction steps generalizing vars w with
  | nil => exact .now rfl
  | cons step rest ih =>
    rw [runSteps_cons, bind_assoc]
    by_cases hloop : ∃ entry loop, step = .iteration (some entry) loop
    · obtain ⟨⟨at_, values⟩, loop, rfl⟩ := hloop
      have hloop := comesTo_iteration (m := m) sequence vars at_ values loop rest w
      simpa only [runStep, assign, bind_assoc, pure_bind, proceed, StepResult.point] using hloop
    · have hmove := move_steps (m := m) step (fun entry loop h => hloop ⟨entry, loop, h⟩) sequence vars rest
      cases hstep : m.runStep sequence.path vars step w with
      | error e w' => exact .now (by rw [hmove, bind_error hstep, bind_error hstep])
      | ok result w' =>
        have hafter : m.move (.steps sequence vars (step :: rest)) w = sequence.after vars rest result w' := by
          rw [hmove, bind_ok hstep]
        rw [bind_ok hstep]
        cases result with
        | done => exact .later hafter (ih vars w')
        | update values =>
          refine .later hafter ?_
          simpa only [proceed, bind_assoc] using ComesTo.of_overlay ih w'
        | jump target vars' => exact .now hafter
        | signal s =>
          refine .now (hafter.trans ?_)
          cases s with
          | «break» =>
            dsimp only [Sequence.after, proceed]
            cases sequence.targets.breakTo <;> rfl
          | «continue» =>
            dsimp only [Sequence.after, proceed]
            cases sequence.targets.continueTo <;> rfl

/-! ## Runs -/

private theorem runSteps_lands (key : String) (path : FlowPath) (targets : Targets) (vars : Value) (steps : List Step) :
    (m.runSteps key path targets vars steps).Yields fun result =>
      result = .done ∨ ∃ target vars', result = .jump target vars' := by
  induction steps generalizing vars with
  | nil => exact .pure (.inl rfl)
  | cons step rest ih =>
    rw [runSteps_cons]
    refine .bind fun result => ?_
    cases result with
    | done => exact ih vars
    | update values => exact .bind ih
    | jump target vars' => exact .pure (.inr ⟨target, vars', rfl⟩)
    | signal s =>
      have htarget (target : Option FlowPath) : Yields (match target with
          | some target => pure (StepResult.jump target.toValue vars)
          | none => throw (.escapedSequence s key))
          fun result => result = .done ∨ ∃ target vars', result = .jump target vars' := by
        cases target with
        | some target => exact .pure (.inr ⟨_, _, rfl⟩)
        | none => exact .throw _
      cases s <;> exact htarget _

private theorem comesTo_hop (path vars : Value) (w : World) :
    m.ComesTo (w, .flow path vars) ((do return (← m.hop path vars).map Point.ofJump) w) := by
  unfold hop
  rw [bind_assoc]
  cases hfind : m.program.find path with
  | error e => exact .now (by rw [move, hfind]; rfl)
  | ok handler =>
    rw [ofExcept_ok, pure_bind, bind_assoc]
    cases handler with
    | sequence key own steps targets =>
      have hmove : m.move (.flow path vars) w = .ok (some (.steps ⟨key, own, targets⟩ vars steps)) w := by
        rw [move, hfind]
        rfl
      refine .later hmove ?_
      have hsteps := comesTo_runSteps (m := m) ⟨key, own, targets⟩ vars steps w
      dsimp only [runHandler]
      cases hrun : m.runSteps key own targets vars steps w with
      | error e w' =>
        rw [bind_error hrun] at hsteps ⊢
        exact hsteps
      | ok result w' =>
        rw [bind_ok hrun] at hsteps ⊢
        obtain rfl | ⟨target, vars', rfl⟩ := runSteps_lands key own targets vars steps w result w' hrun
        · exact hsteps
        · exact hsteps
    | loop id at_ condition body exit =>
      refine .now ?_
      rw [move, hfind, ofExcept_ok, pure_bind]
      dsimp only [runHandler]
      rw [bind_assoc]
      rfl
    | external fn =>
      refine .now ?_
      rw [move, hfind]
      rfl

private theorem comesTo_follow (fuel : Nat) (path vars : Value) (w : World) :
    (∀ w', m.follow fuel (some (path, vars)) w = .ok none w' → m.ComesTo (w, .flow path vars) (.ok none w')) ∧
      ∀ e w', m.follow fuel (some (path, vars)) w = .error e w' → m.ComesTo (w, .flow path vars) (.error e w') := by
  induction fuel generalizing path vars w with
  | zero => exact ⟨nofun, fun _ _ h => nomatch h⟩
  | succ fuel ih =>
    have hcomes := comesTo_hop (m := m) path vars w
    unfold follow
    cases hhop : m.hop path vars w with
    | error e w₁ =>
      rw [bind_error hhop] at hcomes ⊢
      refine ⟨nofun, ?_⟩
      rintro _ _ ⟨⟩
      exact hcomes
    | ok jump w₁ =>
      rw [bind_ok hhop] at hcomes ⊢
      cases jump with
      | none =>
        have hnone : m.follow fuel none = pure none := by cases fuel <;> rfl
        rw [hnone]
        refine ⟨?_, fun _ _ h => nomatch h⟩
        rintro _ ⟨⟩
        exact hcomes
      | some jump =>
        obtain ⟨hends, hfails⟩ := ih jump.1 jump.2 w₁
        exact ⟨fun w' h => hcomes.trans (hends w' h), fun e w' h => hcomes.trans (hfails e w' h)⟩

/-- A run is a walk from point to point: it ends where no move is left, or fails where a move fails, unless it makes
too many jumps. -/
theorem comesTo_invoke (fuel : Nat) (path vars : Value) (w : World) :
    (∀ w', m.invoke fuel path vars w = .ok () w' → m.ComesTo (w, .flow path vars) (.ok none w')) ∧
      ∀ e w', m.invoke fuel path vars w = .error e w' →
        e = .fault .outOfFuel ∨ m.ComesTo (w, .flow path vars) (.error e w') := by
  obtain ⟨hends, hfails⟩ := comesTo_follow (m := m) fuel path vars w
  unfold invoke
  cases hfollow : m.follow fuel (some (path, vars)) w with
  | error e w₁ =>
    rw [bind_error hfollow]
    refine ⟨nofun, ?_⟩
    rintro _ _ ⟨⟩
    exact .inr (hfails e w₁ hfollow)
  | ok jump w₁ =>
    rw [bind_ok hfollow]
    cases jump with
    | none =>
      refine ⟨?_, fun _ _ h => nomatch h⟩
      rintro _ ⟨⟩
      exact hends w₁ hfollow
    | some jump =>
      refine ⟨nofun, ?_⟩
      rintro _ _ ⟨⟩
      exact .inl rfl

/-- Where a run ends no steps are left. -/
theorem move_eq_none (hclosed : m.program.Closed) (h : m.move point w = .ok none w') :
    w = w' ∧ ∃ sequence vars, point = .steps sequence vars [] := by
  cases point with
  | flow path vars =>
    obtain ⟨handler, w₁, hfind, h⟩ := bind_eq_ok h
    cases hhandler : m.program.find path with
    | error e =>
      rw [hhandler] at hfind
      cases hfind
    | ok own =>
      rw [hhandler] at hfind
      cases hfind
      obtain ⟨key, -, hl⟩ := Program.find_eq_ok.mp hhandler
      cases handler with
      | sequence => cases h
      | loop =>
        obtain ⟨passed, w₂, -, h⟩ := bind_eq_ok h
        cases h
      | external fn => exact (hclosed key _ hl).elim
  | steps sequence vars steps =>
    cases steps with
    | nil =>
      cases h
      exact ⟨rfl, sequence, vars, rfl⟩
    | cons step rest =>
      by_cases hloop : ∃ entry loop, step = .iteration (some entry) loop
      · obtain ⟨⟨at_, values⟩, loop, rfl⟩ := hloop
        obtain ⟨assigned, w₁, -, h⟩ := bind_eq_ok h
        cases h
      · rw [move_steps step fun entry loop h => hloop ⟨entry, loop, h⟩] at h
        obtain ⟨result, w₁, -, h⟩ := bind_eq_ok h
        cases result with
        | done | update | jump => cases h
        | signal s =>
          have htarget (target : Option FlowPath) : (match target with
              | some target => pure (some (Point.flow target.toValue vars))
              | none => throw (.escapedSequence s sequence.key) : Run (Option Point)) w₁ ≠ .ok none w' := by
            cases target <;> exact fun h => nomatch h
          cases s <;> exact absurd h (htarget _)
  | assigned values sequence vars steps =>
    obtain ⟨vars', w₁, -, h⟩ := bind_eq_ok h
    cases h

end Machine

end Colloquy
