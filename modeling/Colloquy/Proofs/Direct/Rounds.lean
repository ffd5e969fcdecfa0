import Colloquy.Proofs.Direct.Interpreter
import Colloquy.Proofs.Run.Contract

/-!
# Loops that may go round more often

The interpreter bounds the rounds of a loop. A run that was not cut off does the same with any larger bound, so a
flow that comes to its end does one thing only, and the bound can be left out of what is said of it.
-/

namespace Colloquy.Direct

open Run

variable {m : Machine}

/-- Wherever the first run is not cut off, the second one does the same. -/
def Prolongs (x y : Run Ending) : Prop := ∀ w, (∀ w', x w ≠ .ok .cut w') → y w = x w

namespace Prolongs

private theorem refl (x : Run Ending) : Prolongs x x := fun _ _ => rfl

private theorem trans {x y z : Run Ending} (h : Prolongs x y) (h' : Prolongs y z) : Prolongs x z := by
  intro w hw
  rw [h' w (h w hw ▸ hw), h w hw]

private theorem bind {α : Type} {a : Run α} {f g : α → Run Ending} (h : ∀ v, Prolongs (f v) (g v)) :
    Prolongs (a >>= f) (a >>= g) := by
  intro w hw
  cases ha : a w with
  | ok v w' =>
    rw [bind_ok ha] at hw ⊢
    rw [bind_ok ha]
    exact h v w' hw
  | error e w' => rw [bind_error ha, bind_error ha]

private theorem seq {x y : Run Ending} {f g : Ending → Run Ending} (hxy : Prolongs x y)
    (h : ∀ ending, Prolongs (f ending) (g ending)) (hf : f .cut = pure .cut) : Prolongs (x >>= f) (y >>= g) := by
  intro w hw
  have hx : ∀ w', x w ≠ .ok .cut w' := by
    intro w' hcut
    rw [bind_ok hcut, hf] at hw
    exact hw w' rfl
  have hy := hxy w hx
  cases hr : x w with
  | ok ending w' =>
    rw [bind_ok hr] at hw ⊢
    rw [bind_ok (hy.trans hr)]
    exact h ending w' hw
  | error e w' => rw [bind_error hr, bind_error (hy.trans hr)]

end Prolongs

private theorem prolongs_iterate (condition : Value → Run Bool) {body : Nat → Value → Run Ending}
    (hbody : ∀ n vars, Prolongs (body n vars) (body (n + 1) vars)) (increment again : Value → Run Value) (n : Nat)
    (vars : Value) :
    Prolongs (iterate condition body increment again n vars) (iterate condition body increment again (n + 1) vars) := by
  induction n generalizing vars with
  | zero => exact fun w hw => absurd rfl (hw w)
  | succ n ih =>
    rw [iterate, iterate]
    refine .bind fun passed => ?_
    cases passed with
    | false => exact .refl _
    | true =>
      refine .seq (hbody n vars) ?_ rfl
      intro ending
      cases ending with
      | normal vars => exact .bind ih
      | «continue» vars => exact .bind ih
      | _ => exact .refl _

mutual

theorem prolongs_element (e : Element) (l : Labels) (n : Nat) (vars : Value) :
    Prolongs (runElement m e l n vars) (runElement m e l (n + 1) vars) := by
  match e with
  | .command c => exact prolongs_command c l n vars
  | .handler h => exact .refl _
  | .deferred _ inner => exact prolongs_element inner l n vars
  | .invalid _ _ => exact .refl _
termination_by structural e

theorem prolongs_command (c : Command) (l : Labels) (n : Nat) (vars : Value) :
    Prolongs (runCommand m c l n vars) (runCommand m c l (n + 1) vars) := by
  match c with
  | .conditional id test yes no =>
    rw [runCommand, runCommand]
    refine .bind fun passed => ?_
    cases passed with
    | true => exact prolongs_flow yes _ n vars
    | false => exact prolongs_flow no _ n vars
  | .switch id value cases default =>
    rw [runCommand, runCommand]
    refine .bind fun value => .bind fun value => .bind fun skipped => ?_
    refine .seq (prolongs_cases cases skipped _ n vars) ?_ rfl
    intro ending
    cases ending with
    | normal vars => exact .seq (prolongs_default default _ n vars) (fun ending => .refl _) rfl
    | _ => exact .refl _
  | .iteration id init condition increment body =>
    rw [runCommand, runCommand]
    have hrounds (vars : Value) := prolongs_iterate (m.holds l.own.path condition)
      (fun n vars => prolongs_flow body (l.sub 0) n vars) (increase m (l.sub 2).own.path increment)
      (increase m (l.sub 3).own.path increment) n vars
    dsimp only
    split
    · exact .bind hrounds
    · exact .bind hrounds
  | .flow id body => exact prolongs_flow body _ n vars
  | .message .. | .start .. | .finish .. | .set .. | .exec .. | .wait .. | .break _ | .continue _ => exact .refl _
termination_by structural c

private theorem prolongs_flow (flow : List Element) (l : Labels) (n : Nat) (vars : Value) :
    Prolongs (runFlow m flow l n vars) (runFlow m flow l (n + 1) vars) := by
  match flow with
  | [] => exact .refl _
  | e :: rest =>
    rw [runFlow, runFlow]
    refine .seq (prolongs_element e _ n vars) ?_ rfl
    intro ending
    cases ending with
    | normal vars => exact prolongs_flow rest _ n vars
    | _ => exact .refl _
termination_by structural flow

theorem prolongs_cases (cases : List Case) (skipped : Nat) (l : Labels) (n : Nat) (vars : Value) :
    Prolongs (runCases m cases skipped l n vars) (runCases m cases skipped l (n + 1) vars) := by
  match cases, skipped with
  | [], _ => exact .refl _
  | .mk id value body :: rest, 0 =>
    rw [runCases, runCases]
    refine .seq (prolongs_flow body _ n vars) ?_ rfl
    intro ending
    cases ending with
    | normal vars => exact prolongs_cases rest 0 _ n vars
    | _ => exact .refl _
  | .mk id value body :: rest, skipped + 1 => exact prolongs_cases rest skipped _ n vars
termination_by structural cases

theorem prolongs_default (default : Option (List Element)) (l : Labels) (n : Nat) (vars : Value) :
    Prolongs (runDefault m default l n vars) (runDefault m default l (n + 1) vars) := by
  match default with
  | none => exact .refl _
  | some body => exact prolongs_flow body l n vars
termination_by structural default

end

private theorem prolongs_of_le (flow : Flow) (l : Labels) {n k : Nat} (h : n ≤ k) (vars : Value) :
    Prolongs (runFlow m flow l n vars) (runFlow m flow l k vars) := by
  induction h with
  | refl => exact .refl _
  | step h ih => exact ih.trans (prolongs_flow flow l _ vars)

/-- A flow runs to an end, if its loops may go round often enough. -/
def RunsTo (m : Machine) (flow : Flow) (l : Labels) (w : World) (vars : Value) (ending : Ending) (w' : World) : Prop :=
  ending ≠ .cut ∧ ∃ n, runFlow m flow l n vars w = .ok ending w'

theorem RunsTo.eventually {flow : Flow} {l : Labels} {w w' : World} {vars : Value} {ending : Ending}
    (h : RunsTo m flow l w vars ending w') : ∃ n, ∀ k, n ≤ k → runFlow m flow l k vars w = .ok ending w' := by
  obtain ⟨hcut, n, hn⟩ := h
  refine ⟨n, fun k hk => ?_⟩
  rw [← hn]
  refine prolongs_of_le flow l hk vars w fun w'' hw => hcut ?_
  cases hn.symm.trans hw
  rfl

end Colloquy.Direct
