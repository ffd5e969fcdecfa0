import Colloquy.Proofs.Direct.Simulation

/-!
# Laws of the interpreter

A flow can be cut in two anywhere, an explicit flow can be replaced by its body, and what stands after
a command that ends its sequence does not matter.
-/

namespace Colloquy.Direct

open Machine (before)

variable {m : Machine} {n : Nat} {vars : Value}

@[simp] theorem runFlow_nil (l : Labels) : runFlow m [] l n vars = pure (.normal vars) := rfl

private theorem runElement_meaning (e : Element) (l : Labels) :
    runElement m e l n vars = runElement m e.meaning l n vars := by
  fun_induction Element.meaning e with
  | case1 source e ih => simpa only [runElement] using ih
  | case2 => rfl

theorem runElement_of_command? {e : Element} {c : Command} (h : e.command? = some c) (l : Labels) :
    runElement m e l n vars = runCommand m c l n vars := by
  rw [runElement_meaning]
  unfold Element.command? at h
  split at h
  · rename_i heq
    cases h
    rw [heq, runElement]
  · cases h

private theorem runElement_of_subFlow? {e : Element} {id : String} {body : Flow}
    (h : e.subFlow? = some (id, body)) (l : Labels) :
    runElement m e l n vars = runFlow m body (l.sub 0) n vars := by
  rw [runElement_meaning]
  unfold Element.subFlow? at h
  split at h
  · rename_i heq
    cases h
    rw [heq, runElement, runCommand]
  · cases h

theorem runElement_handler {e : Element} (h : e.command? = none) (hf : e.fault? = none) (l : Labels) :
    runElement m e l n vars = effect m l.own.path vars (.handler e.meaning.toValue) (.normal vars) := by
  rw [runElement_meaning]
  unfold Element.command? at h
  unfold Element.fault? at hf
  cases he : e.meaning with
  | command c => simp [he] at h
  | handler fn => rw [runElement, Element.toValue]
  | deferred source inner => exact absurd he (meaning_ne_deferred e source inner)
  | invalid source cause => simp [he] at hf
where
  meaning_ne_deferred (e : Element) (source : Value) (inner : Element) :
      e.meaning ≠ .deferred source inner := by
    fun_induction Element.meaning e with
    | case1 _ _ ih => exact ih
    | case2 e he => exact he source inner

theorem runCommand_switch_bind (id : String) (value : Value) (cases : List Case) (default : Option Flow)
    (l : Labels) (after : Ending → Run Ending) :
    (runCommand m (.switch id value cases default) l n vars >>= after) = (do
      let value ← (m.expander vars l.own.path).expand value
      let value ← Run.current value
      let skipped ← Run.ofOutcome (choice value (cases.map Case.matchValue))
      runCases m cases skipped (l.sub 0) n vars >>=
        before (runDefault m default (l.sub 1) n) fun ending => after (leaveSwitch ending)) := by
  simp only [runCommand, bind_assoc]
  refine bind_congr fun value => bind_congr fun value => bind_congr fun skipped => bind_congr fun ending => ?_
  cases ending <;> simp [before]

theorem runFlow_cons_bind (e : Element) (rest : Flow) (l : Labels) (after : Ending → Run Ending) :
    (runFlow m (e :: rest) l n vars >>= after) =
      runElement m e (l.sub 0) n vars >>= before (runFlow m rest l.tail n) after := by
  rw [runFlow, bind_assoc]
  congr 1
  funext ending
  cases ending <;> simp [before]

theorem runFlow_append_bind (first second : Flow) (l : Labels) (after : Ending → Run Ending) :
    (runFlow m (first ++ second) l n vars >>= after) =
      runFlow m first l n vars >>= before (runFlow m second (l.drop first.length) n) after := by
  induction first generalizing l vars with
  | nil => rw [runFlow_nil, pure_bind]; rfl
  | cons e rest ih =>
    rw [List.cons_append, runFlow_cons_bind, runFlow_cons_bind]
    congr 1
    funext ending
    cases ending with
    | normal vars => exact ih l.tail
    | _ => rfl

theorem runFlow_splice {e : Element} {id : String} {body : Flow} (h : e.subFlow? = some (id, body))
    (tail : Flow) (l : Labels) (after : Ending → Run Ending) :
    (runFlow m (e :: tail) (.cons (.node {} fun _ => l) (l.drop body.length)) n vars >>= after) =
      runFlow m (body ++ tail) l n vars >>= after := by
  rw [runFlow_cons_bind, runFlow_append_bind, runElement_of_subFlow? h]
  simp

private theorem effect_bind_congr {path : FlowPath} {step : Step} {ending : Ending}
    {f g : Ending → Run Ending} (h : f ending = g ending) :
    (effect m path vars step ending >>= f) = effect m path vars step ending >>= g := by
  simp [effect, h]

theorem runCommand_terminal_congr {c : Command} (hc : c.isTerminal = true) (l : Labels)
    {f g : Ending → Run Ending} (h : ∀ ending, (∀ vars, ending ≠ .normal vars) → f ending = g ending) :
    (runCommand m c l n vars >>= f) = runCommand m c l n vars >>= g := by
  cases c with
  | finish id result => exact effect_bind_congr (h _ (by simp))
  | «break» id => simp [runCommand, h]
  | «continue» id => simp [runCommand, h]
  | _ => cases hc

theorem runFlow_terminal_congr {flow : Flow} (hlast : flow.getLast?.elim false Element.isTerminal = true)
    (l : Labels) {f g : Ending → Run Ending}
    (h : ∀ ending, (∀ vars, ending ≠ .normal vars) → f ending = g ending) :
    (runFlow m flow l n vars >>= f) = runFlow m flow l n vars >>= g := by
  induction flow generalizing l vars with
  | nil => cases hlast
  | cons e rest ih =>
    rw [runFlow_cons_bind, runFlow_cons_bind]
    cases rest with
    | nil =>
      obtain ⟨c, he, hc⟩ : ∃ c, e.command? = some c ∧ c.isTerminal = true := by
        simp only [List.getLast?_singleton, Option.elim_some] at hlast
        unfold Element.isTerminal at hlast
        unfold Element.command?
        split at hlast
        · exact ⟨_, rfl, hlast⟩
        · cases hlast
      rw [runElement_of_command? he]
      apply runCommand_terminal_congr hc
      intro ending hne
      cases ending with
      | normal vars => exact absurd rfl (hne vars)
      | _ => exact h _ hne
    | cons next more =>
      congr 1
      funext ending
      cases ending with
      | normal vars => exact ih (by simpa using hlast) l.tail
      | _ => exact h _ (by simp)

theorem runFlow_incrementFlow_bind (increment : Fields) (l : Labels) (after : Ending → Run Ending) :
    (runFlow m (incrementFlow increment) l n vars >>= after) =
      increase m (l.sub 0).own.path increment vars >>= fun vars => after (.normal vars) := by
  unfold incrementFlow increase
  split
  · simp
  · rw [runFlow_cons_bind]
    simp [runElement, runCommand, before]

theorem runFlow_loopTail_bind (body : Flow) (increment : Fields) (l : Labels)
    (after : Ending → Run Ending) :
    (runFlow m (body ++ loopTail body increment) l n vars >>= after) =
      runFlow m body l n vars >>=
        before (runIncrement m ((l.drop body.length).sub 0).own.path increment) after := by
  rw [runFlow_append_bind]
  unfold loopTail
  split
  · rename_i hlast
    apply runFlow_terminal_congr hlast
    intro ending hne
    cases ending with
    | normal vars => exact absurd rfl (hne vars)
    | _ => rfl
  · congr 1
    funext ending
    cases ending with
    | normal vars => simp [before, runIncrement, runFlow_incrementFlow_bind]
    | _ => rfl

end Colloquy.Direct
