import Colloquy.Proofs.Run.Variables

/-!
# Inverted parameters

A parameter that is marked as negated is expanded like the parameter that it marks, whatever that is: nothing is
done twice, and only the value that comes out at the very end is inverted. The mark is the last thing that is still
to be done while the expansion is under way, so an expansion can be compared with the one of the marked
parameter round by round.
-/

namespace Colloquy

def negation (v : Value) : Run Value := do
  return .bool !(← Run.current v).truthy

/-- An expansion whose value is going to be inverted. -/
def Task.negated : Task → Run Task
  | .fresh param => pure (.fresh (.negated param))
  | .group c after settled elements => pure (.group c (after ++ [.negate]) settled elements)
  | .ended (.ok v) heard orphans => do return .ended (.ok (← negation v)) heard orphans
  | .ended (.error e) heard orphans => pure (.ended (.error e) heard orphans)

namespace Expander

variable (x : Expander)

private theorem resume_negate (v : Value) (after : List Expansion) :
    x.resume v (after ++ [.negate]) = x.resume v after >>= negation := by
  induction after generalizing v with
  | nil =>
    simp only [List.nil_append, resume, pure_bind]
    rfl
  | cons expansion rest ih =>
    cases expansion with
    | negate =>
      simp only [List.cons_append, resume, bind_assoc]
      exact bind_congr fun _ => ih _
    | execute name =>
      simp only [List.cons_append, resume, bind_assoc]
      exact bind_congr fun _ => bind_congr fun _ => ih _

private theorem outcome_negation (r : Run Value) :
    (do return .ended (← outcome (r >>= negation)) false []) =
      (do return .ended (← outcome r) false []) >>= Task.negated := by
  funext w
  cases hr : r w with
  | ok v w' =>
    have hinverted : outcome (r >>= negation) w = .ok (.ok (.bool !(w'.heap.current v).truthy)) w' := by
      unfold outcome
      rw [Run.bind_ok hr]
      rfl
    have hplain : outcome r w = .ok (.ok v) w' := by
      unfold outcome
      rw [hr]
    rw [bind_assoc, Run.bind_ok hinverted, Run.bind_ok hplain]
    rfl
  | error e w' =>
    have hinverted : outcome (r >>= negation) w = .ok (.error e) w' := by
      unfold outcome
      rw [Run.bind_error hr]
    have hplain : outcome r w = .ok (.error e) w' := by
      unfold outcome
      rw [hr]
    rw [bind_assoc, Run.bind_ok hinverted, Run.bind_ok hplain]
    rfl

private theorem ended_negate (after : List Expansion) (r : Run Value) :
    x.ended (after ++ [.negate]) r = x.ended after r >>= Task.negated := by
  have hresume : (do x.resume (← r) (after ++ [.negate])) = (do x.resume (← r) after) >>= negation := by
    rw [bind_assoc]
    exact bind_congr fun v => x.resume_negate v after
  unfold ended
  rw [hresume]
  exact outcome_negation _

private theorem gather_negate (c : Collection) (after : List Expansion) (params : List Value) :
    x.gather c (after ++ [.negate]) params = x.gather c after params >>= Task.negated := by
  unfold gather
  split
  · exact x.ended_negate after _
  · rfl

private theorem begin_negate (fuel : Nat) (after : List Expansion) (param : Value) :
    x.begin fuel (after ++ [.negate]) param = x.begin fuel after param >>= Task.negated := by
  induction fuel generalizing after param with
  | zero => rfl
  | succ fuel ih =>
    unfold begin
    dsimp only
    split
    · exact ih (.negate :: after) _
    · exact x.gather_negate _ after _
    · exact x.gather_negate _ after _
    · split
      · split
        · exact x.ended_negate after _
        · split
          · exact x.ended_negate after _
          · exact ih (.execute _ :: after) _
      · exact x.gather_negate _ after _
    · split
      · exact x.ended_negate after _
      · split
        · exact x.ended_negate after _
        · exact x.ended_negate after _

private theorem current_negated (param : Value) :
    Run.current (.negated param) = (do return .negated (← Run.current param)) := by
  funext w
  change EStateM.Result.ok (w.heap.current (.negated param)) w = .ok (.negated (w.heap.current param)) w
  unfold Heap.current
  split <;> rfl

private theorem start_negated (param : Value) : x.start (.negated param) = x.start param >>= Task.negated := by
  unfold start
  rw [current_negated, bind_assoc, bind_assoc]
  refine bind_congr fun param => ?_
  rw [pure_bind, Value.size, Nat.add_comm 1 param.size]
  exact x.begin_negate (param.size + 1) [] param

/-- One round of an expansion that is going to be inverted. An expansion that has ended makes no more
rounds of its own. -/
theorem round_negated {t : Task} (ht : ∀ v heard orphans, t ≠ .ended (.ok v) heard orphans) :
    (t.negated >>= x.round) = x.round t >>= Task.negated := by
  cases t with
  | fresh param =>
    simp only [Task.negated, pure_bind, round]
    exact x.start_negated param
  | group c after settled elements =>
    cases settled with
    | none =>
      simp only [Task.negated, pure_bind, round, bind_assoc]
    | some settled =>
      simp only [Task.negated, pure_bind, round, bind_assoc]
      refine bind_congr fun elements => ?_
      cases settled with
      | ok => exact x.ended_negate after _
      | error e => rfl
  | ended result heard orphans =>
    cases result with
    | ok v => exact absurd rfl (ht v heard orphans)
    | error e => simp only [Task.negated, pure_bind, round, bind_assoc]

private theorem complete_negated (fuel : Nat) (t : Task) :
    (t.negated >>= x.complete fuel) = x.complete fuel t >>= negation := by
  induction fuel generalizing t with
  | zero =>
    cases t with
    | ended result heard orphans => cases result <;> rfl
    | _ => rfl
  | succ fuel ih =>
    have hgoes {t : Task} (ht : ∀ v heard orphans, t ≠ .ended (.ok v) heard orphans) :
        (t.negated >>= fun t => x.round t >>= x.complete fuel) =
          (x.round t >>= x.complete fuel) >>= negation := by
      rw [← bind_assoc, x.round_negated ht, bind_assoc, bind_assoc]
      exact bind_congr ih
    -- only an expansion that has ended with a value is inverted at once
    cases t with
    | fresh param => exact hgoes (t := .fresh param) (by simp)
    | group c after settled elements => exact hgoes (t := .group c after settled elements) (by simp)
    | ended result heard orphans =>
      cases result with
      | ok v => rfl
      | error e =>
        simp only [Task.negated, pure_bind, complete, bind_assoc]
        rfl

private theorem expand_negated (param : Value) : x.expand (.negated param) = x.expand param >>= negation := by
  unfold expand
  rw [current_negated, bind_assoc, bind_assoc]
  refine bind_congr fun current => ?_
  rw [pure_bind, start_negated, bind_assoc, bind_assoc]
  exact bind_congr fun t => x.complete_negated _ t

end Expander

namespace Machine

theorem holds_negated (m : Machine) (path : FlowPath) (param vars : Value) :
    m.holds path (.negated param) vars = (do return !(← m.holds path param vars)) := by
  unfold holds
  simp only [Expander.expand_negated, bind_assoc, pure_bind]
  refine bind_congr fun v => ?_
  funext w
  change EStateM.Result.ok (w.heap.current (.bool _)).truthy w = _
  rw [Heap.current_of_refresh fun _ => rfl]
  rfl

end Machine

end Colloquy
