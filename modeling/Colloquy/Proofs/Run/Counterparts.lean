import Mathlib.Data.List.Forall2
import Colloquy.Proofs.Run.Alike
import Colloquy.Proofs.Run.Exchange
import Colloquy.Proofs.Run.Negation

/-!
# Flows with exchanged branches run alike

Two flows of which the second is the first with some branches exchanged are compiled side by side. Wherever a part of
the first was compiled, its counterpart was compiled too, and if the flow goes on alike after both of them, they run
alike. The proof goes along the derivation of the first flow, one lemma for each rule; the counterpart
was compiled by the same rule.
-/

namespace Colloquy

/-! ## What an element was compiled to -/

namespace Compiles

variable {e : Element} {c : Command} {rest : Flow} {path : FlowPath} {targets : Targets} {index : Nat}
  {steps : List Step} {p r : Program}

private theorem of_handler (he : e.command? = none)
    (h : Compiles (.elements (e :: rest) path targets index steps) p r) :
    ∃ later, steps = .handler e.meaning.toValue :: later ∧ Compiles (.elements rest path targets index later) p r := by
  cases h with
  | handler _ later => exact ⟨_, rfl, later⟩
  | plain hc | last hc | terminal hc | broken hc => simp [he] at hc

private theorem of_plain (he : e.command? = some c) (hb : c.breaksFlow = false)
    (h : Compiles (.elements (e :: rest) path targets index steps) p r) :
    ∃ step later q, steps = step :: later ∧ Compiles (.command c path targets step) p q ∧
      Compiles (.elements rest path targets index later) q r := by
  cases h with
  | plain hc _ first later =>
    cases he.symm.trans hc
    exact ⟨_, _, _, rfl, first, later⟩
  | handler hc => simp [he] at hc
  | last hc hb' | terminal hc hb' | broken hc hb' =>
    cases he.symm.trans hc
    simp [hb] at hb'

private theorem of_last (he : e.command? = some c) (hb : c.breaksFlow = true)
    (h : Compiles (.elements [e] path targets index steps) p r) :
    ∃ step, steps = [step] ∧ Compiles (.command c path targets step) p r := by
  cases h with
  | last hc _ first =>
    cases he.symm.trans hc
    exact ⟨_, rfl, first⟩
  | handler hc => simp [he] at hc
  | plain hc hb' =>
    cases he.symm.trans hc
    simp [hb] at hb'
  | terminal _ _ hrest => exact absurd rfl hrest
  | broken _ _ _ later => cases later

private theorem of_terminal (he : e.command? = some c) (hb : c.breaksFlow = true) (hrest : rest ≠ [])
    (ht : c.isTerminal = true) (h : Compiles (.elements (e :: rest) path targets index steps) p r) :
    ∃ step q, steps = [step] ∧ Compiles (.command c path targets step) q r := by
  cases h with
  | terminal hc _ _ _ _ first =>
    cases he.symm.trans hc
    exact ⟨_, _, rfl, first⟩
  | handler hc => simp [he] at hc
  | plain hc hb' =>
    cases he.symm.trans hc
    simp [hb] at hb'
  | last => exact absurd rfl hrest
  | broken hc _ ht' =>
    cases he.symm.trans hc
    simp [ht] at ht'

private theorem of_broken (he : e.command? = some c) (hb : c.breaksFlow = true) (hrest : rest ≠ [])
    (ht : c.isTerminal = false) (h : Compiles (.elements (e :: rest) path targets index steps) p r) :
    ∃ next step q, steps = [step] ∧ Compiles (.continuation rest path targets (index + 1) next) p q ∧
      Compiles (.command c path { targets with next := some next } step) q r := by
  cases h with
  | broken hc _ _ later first =>
    cases he.symm.trans hc
    exact ⟨_, _, _, rfl, later, first⟩
  | handler hc => simp [he] at hc
  | plain hc hb' =>
    cases he.symm.trans hc
    simp [hb] at hb'
  | last => exact absurd rfl hrest
  | terminal hc _ _ ht' =>
    cases he.symm.trans hc
    simp [ht] at ht'

end Compiles

/-! ## Counterparts -/

/-- Where a part of a flow and its counterpart were compiled: the flow goes on alike after them, and they stand to
each other as a placement says. -/
structure Machine.Beside (m m' : Machine) (s : Placement) (k : Nat) (path path' : FlowPath)
    (targets targets' : Targets) : Prop where
  place : s = .here → path' = path ∧ targets' = targets
  onward : s = .aside → targets'.next = targets.next
  next : Option.Rel (m.Alike m' k) targets.next targets'.next
  breakTo : Option.Rel (m.Alike m' k) targets.breakTo targets'.breakTo
  continueTo : Option.Rel (m.Alike m' k) targets.continueTo targets'.continueTo

namespace Machine.Beside

variable {m m' : Machine} {s : Placement} {k j : Nat} {path path' own own' : FlowPath} {targets targets' : Targets}

private theorem rel_mono {t t' : Option FlowPath} (hj : j ≤ k) (h : Option.Rel (m.Alike m' k) t t') :
    Option.Rel (m.Alike m' j) t t' := by
  cases h with
  | none => exact .none
  | some h => exact .some (h.mono hj)

private theorem mono (h : m.Beside m' s k path path' targets targets') (hj : j ≤ k) :
    m.Beside m' s j path path' targets targets' where
  place := h.place
  onward := h.onward
  next := rel_mono hj h.next
  breakTo := rel_mono hj h.breakTo
  continueTo := rel_mono hj h.continueTo

private theorem append (h : m.Beside m' s k path path' targets targets') {id : String}
    (hown : FlowPath.append path id = .ok own) (hown' : FlowPath.append path' id = .ok own') :
    s = .here → own' = own := by
  intro hs
  rw [(h.place hs).1, hown] at hown'
  exact (Except.ok.inj hown').symm

private theorem at_ (h : m.Beside m' s k path path' targets targets') (hown : s = .here → own' = own) :
    m.Beside m' s k own own' targets targets' :=
  { h with place := fun hs => ⟨hown hs, (h.place hs).2⟩ }

private theorem moved (h : m.Beside m' s k path path' targets targets') (own own' : FlowPath) :
    m.Beside m' s.moved k own own' targets targets' :=
  { h with
    place := fun hs => absurd hs Placement.moved_ne_here
    onward := fun hs => by
      cases s with
      | here => rw [(h.place rfl).2]
      | aside => exact h.onward rfl
      | away => cases hs }

private theorem inner (h : m.Beside m' s k path path' targets targets') (hown : s = .here → own' = own)
    {next next' : FlowPath} (hsame : s = .here → next' = next) (hnext : m.Alike m' k next next') :
    m.Beside m' s.inner k own own' { targets with next := some next } { targets' with next := some next' } :=
  { h with
    place := fun hs => by
      have hs := Placement.inner_eq_here.mp hs
      rw [hsame hs, (h.place hs).2]
      exact ⟨hown hs, rfl⟩
    onward := fun hs => absurd hs Placement.inner_ne_aside
    next := .some hnext }

private theorem breaking (h : m.Beside m' s k path path' targets targets') {exit exit' : FlowPath}
    (hsame : s = .here → exit' = exit) (hexit : m.Alike m' k exit exit') :
    m.Beside m' s k path path' { targets with breakTo := some exit } { targets' with breakTo := some exit' } :=
  { h with
    place := fun hs => by
      rw [hsame hs, (h.place hs).2]
      exact ⟨(h.place hs).1, rfl⟩
    breakTo := .some hexit }

private theorem before (h : m.Beside m' s k path path' targets targets') (rest : Flow) :
    m.Beside m' (s.before rest) k path path' targets targets' := by
  cases rest with
  | nil => exact h
  | cons e rest =>
    exact { h with
      place := fun hs => h.place (Placement.inner_eq_here.mp hs)
      onward := fun hs => absurd hs Placement.inner_ne_aside }

end Machine.Beside

def Machine.CaseAlike (m m' : Machine) (k : Nat) (entry entry' : Value × FlowPath) : Prop :=
  entry'.1 = entry.1 ∧ m.Alike m' k entry.2 entry'.2

/-- Whatever the counterpart of a part of a flow is and wherever it was compiled, the two run alike. -/
def Machine.RunsAlike (m : Machine) (q : Program) : Job → Prop
  | .flow flow path targets index => ∀ ⦃s k flow' path' targets' r r'⦄,
    Exchanged m s (.flow flow) (.flow flow') → m.Beside (m.running q) s k path path' targets targets' →
    Compiles (.flow flow' path' targets' index) r r' → r'.Extends q →
      m.Alike (m.running q) (k + 1) path path'
  | .elements flow path targets index steps => ∀ ⦃s k flow' path' targets' steps' r r'⦄,
    Exchanged m s (.flow flow) (.flow flow') → m.Beside (m.running q) s k path path' targets targets' →
    Compiles (.elements flow' path' targets' index steps') r r' → r'.Extends q → ∀ key key' vars,
      m.runOut k key path targets vars steps = (m.running q).runOut k key' path' targets' vars steps'
  | .continuation rest path targets index next => ∀ ⦃s k rest' path' targets' next' r r'⦄,
    Exchanged m s (.flow rest) (.flow rest') → m.Beside (m.running q) s k path path' targets targets' →
    Compiles (.continuation rest' path' targets' index next') r r' → r'.Extends q →
      (s = .here → next' = next) ∧ m.Alike (m.running q) (k + 1) next next'
  | .command c path targets step => ∀ ⦃s k c' path' targets' step' r r'⦄,
    Exchanged m s (.command c) (.command c') → m.Beside (m.running q) s k path path' targets targets' →
    Compiles (.command c' path' targets' step') r r' → r'.Extends q → ∀ vars,
      m.StepAlike (m.running q) k targets targets' (m.runStep path vars step) (m.runStep path' vars step')
  | .fallback default root targets exit fallback => ∀ ⦃s k default' root' targets' exit' fallback' r r'⦄,
    Exchanged m s (.fallback default) (.fallback default') →
    m.Beside (m.running q) s k root root' { targets with next := some exit } { targets' with next := some exit' } →
    Compiles (.fallback default' root' targets' exit' fallback') r r' → r'.Extends q →
      (s = .here → fallback' = fallback) ∧ m.Alike (m.running q) k fallback fallback'
  | .cases cases root targets last paths first => ∀ ⦃s k cases' root' targets' last' paths' first' r r'⦄,
    s ≠ .aside → Exchanged m s (.cases cases) (.cases cases') →
    m.Beside (m.running q) s k root root' { targets with next := some last } { targets' with next := some last' } →
    Compiles (.cases cases' root' targets' last' paths' first') r r' → r'.Extends q →
      List.Forall₂ (m.CaseAlike (m.running q) k) paths paths' ∧ (s = .here → first' = first) ∧
        m.Alike (m.running q) k first first'
  | _ => True

namespace Machine

variable {m : Machine} {q : Program}

/-- A machine does the same in a step whichever of the two programs it runs, so only what the steps lead to is
compared. -/
private theorem StepAlike.putBefore {k : Nat} {path path' : FlowPath} {targets targets' own own' : Targets}
    {vars : Value} {step step' : Step} {steps steps' : List Step} {key key' : String}
    (h : m.StepAlike (m.running q) k targets targets' (m.runStep path vars step) (m.runStep path' vars step'))
    (hname : q.dialog.name = m.program.dialog.name) (hsettings : q.settings = m.program.settings)
    (hown : own.onSignal = targets.onSignal) (hown' : own'.onSignal = targets'.onSignal)
    (hrest : ∀ vars, m.runOut k key path own vars steps = (m.running q).runOut k key' path' own' vars steps') :
    m.runOut k key path own vars (step :: steps) = (m.running q).runOut k key' path' own' vars (step' :: steps') := by
  refine StepAlike.runOut ?_ hown hown' hrest
  rwa [runStep_running hname hsettings]

private theorem runsOut_nil {k : Nat} {key key' : String} {path path' : FlowPath} {targets targets' : Targets}
    {vars : Value} : m.runOut k key path targets vars [] = (m.running q).runOut k key' path' targets' vars [] := by
  rw [runOut_nil, runOut_nil]

namespace RunsAlike

/-! ## Sequences -/

section Sequences

variable {rest : Flow} {path next : FlowPath} {targets : Targets} {index : Nat} {steps : List Step} {e : Element}
  {c : Command} {step : Step}

private theorem flow {flow : Flow} {key : String}
    (hfind : m.program.find path.toValue = .ok (.sequence key path steps targets))
    (h : m.RunsAlike q (.elements flow path targets index steps)) : m.RunsAlike q (.flow flow path targets index) := by
  intro s k flow' path' targets' r r' hx hb hc hext
  cases hc with
  | flow sound hown elements hkey hadd =>
    have hadded := Program.extends_of_add hadd
    have hfind' := hext.find ((Program.pathKey_congr hadded.name _).trans hkey) (Program.lookup_of_add hadd)
    exact Machine.alike_sequence hfind hfind' fun j hj vars =>
      h hx (hb.mono hj) elements (hadded.trans hext) _ _ vars

private theorem nil :
    m.RunsAlike q (.elements [] path targets index (targets.next.elim [] fun t => [.jump t])) := by
  intro s k flow' path' targets' steps' r r' hx hb hc _ key key' vars
  cases hx
  cases hc
  have hnext := hb.next
  revert hnext
  generalize targets.next = t, targets'.next = t'
  rintro (⟨h⟩ | _)
  · exact h k (Nat.le_refl k) vars
  · exact runsOut_nil

section Steps

variable (hname : q.dialog.name = m.program.dialog.name) (hsettings : q.settings = m.program.settings)
include hname hsettings

private theorem handler (he : e.command? = none) (h : m.RunsAlike q (.elements rest path targets index steps)) :
    m.RunsAlike q (.elements (e :: rest) path targets index (.handler e.meaning.toValue :: steps)) := by
  intro s k flow' path' targets' steps' r r' hx hb hc hext key key' vars
  cases hx with
  | element he' => simp [he] at he'
  | handler _ hs later =>
    obtain ⟨steps', rfl, hlater⟩ := hc.of_handler he
    have hcall := congrFun (hs.eq fun hs => (hb.place hs).1) vars
    have hstep : m.StepAlike (m.running q) k targets targets' (m.runStep path vars (.handler e.meaning.toValue))
        (m.runStep path' vars (.handler e.meaning.toValue)) := by
      simp only [runStep]
      rw [hcall]
      exact .bind fun _ => .pure .done
    exact hstep.putBefore hname hsettings rfl rfl fun vars => h later hb hlater hext key key' vars

private theorem plain (he : e.command? = some c) (hb : c.breaksFlow = false)
    (h : m.RunsAlike q (.command c path targets step))
    (h' : m.RunsAlike q (.elements rest path targets index steps)) :
    m.RunsAlike q (.elements (e :: rest) path targets index (step :: steps)) := by
  intro s k flow' path' targets' steps' r r' hx hbeside hc hext key key' vars
  obtain ⟨e', c', rest', rfl, he', first, later⟩ := hx.of_element he
  obtain ⟨step', steps', p, rfl, hfirst, hlater⟩ := hc.of_plain he' (first.breaksFlow_eq.trans hb)
  have hstep := h first (hbeside.before rest) hfirst (hlater.grows.trans hext) vars
  exact hstep.putBefore hname hsettings rfl rfl fun vars => h' later hbeside hlater hext key key' vars

private theorem last (he : e.command? = some c) (hb : c.breaksFlow = true)
    (h : m.RunsAlike q (.command c path targets step)) :
    m.RunsAlike q (.elements [e] path targets index [step]) := by
  intro s k flow' path' targets' steps' r r' hx hbeside hc hext key key' vars
  obtain ⟨e', c', rest', rfl, he', first, later⟩ := hx.of_element he
  cases later
  obtain ⟨step', rfl, hfirst⟩ := hc.of_last he' (first.breaksFlow_eq.trans hb)
  exact (h first hbeside hfirst hext vars).putBefore hname hsettings rfl rfl fun _ => runsOut_nil

private theorem terminal (he : e.command? = some c) (hb : c.breaksFlow = true) (hrest : rest ≠ [])
    (ht : c.isTerminal = true) (h : m.RunsAlike q (.command c path targets step)) :
    m.RunsAlike q (.elements (e :: rest) path targets index [step]) := by
  intro s k flow' path' targets' steps' r r' hx hbeside hc hext key key' vars
  obtain ⟨e', c', rest', rfl, he', first, later⟩ := hx.of_element he
  obtain ⟨step', p, rfl, hfirst⟩ := hc.of_terminal he' (first.breaksFlow_eq.trans hb) (later.ne_nil hrest)
    (first.isTerminal_eq.trans ht)
  exact (h first (hbeside.before rest) hfirst hext vars).putBefore hname hsettings rfl rfl fun _ => runsOut_nil

private theorem broken (he : e.command? = some c) (hb : c.breaksFlow = true) (hrest : rest ≠ [])
    (ht : c.isTerminal = false) (h : m.RunsAlike q (.continuation rest path targets (index + 1) next))
    (h' : m.RunsAlike q (.command c path { targets with next := some next } step)) :
    m.RunsAlike q (.elements (e :: rest) path targets index [step]) := by
  intro s k flow' path' targets' steps' r r' hx hbeside hc hext key key' vars
  obtain ⟨e', c', rest', rfl, he', first, later⟩ := hx.of_element he
  obtain ⟨next', step', p, rfl, hlater, hfirst⟩ := hc.of_broken he' (first.breaksFlow_eq.trans hb)
    (later.ne_nil hrest) (first.isTerminal_eq.trans ht)
  -- both commands go on with their continuations, so these have to run alike first
  obtain ⟨hsame, hnext⟩ := h later hbeside hlater (hfirst.grows.trans hext)
  have hinner := hbeside.inner (fun hs => (hbeside.place hs).1) hsame (hnext.mono (Nat.le_succ k))
  have hplacement : s.before rest = s.inner := by
    cases rest with
    | nil => exact absurd rfl hrest
    | cons => rfl
  rw [hplacement] at first
  exact (h' first hinner hfirst hext vars).putBefore hname hsettings rfl rfl fun _ => runsOut_nil

end Steps

private theorem spliced {id : String} {body : Flow} (hs : e.subFlow? = some (id, body))
    (hpath : FlowPath.append path id = .ok next) (h : m.RunsAlike q (.flow (body ++ rest) next targets index)) :
    m.RunsAlike q (.continuation (e :: rest) path targets index next) := by
  intro s k flow' path' targets' next' r r' hx hbeside hc hext
  cases hx with
  | handler hnone => simp [Element.subFlow?_eq, hnone] at hs
  | element he he' first later =>
    obtain ⟨body', hs', hbody⟩ := first.subFlow?_eq_some he he' hs
    cases hc with
    | unspliced hnone => simp [hs'] at hnone
    | spliced hs'' hpath' inner =>
      obtain ⟨rfl, rfl⟩ := Prod.mk.inj (Option.some.inj (hs'.symm.trans hs''))
      have hsame := hbeside.append hpath hpath'
      exact ⟨hsame, h (hbody.append later) (hbeside.at_ hsame) inner hext⟩

private theorem unspliced (hs : e.subFlow? = none)
    (hpath : FlowPath.append path ("flow" ++ toString index) = .ok next)
    (h : m.RunsAlike q (.flow (e :: rest) next targets index)) :
    m.RunsAlike q (.continuation (e :: rest) path targets index next) := by
  intro s k flow' path' targets' next' r r' hx hbeside hc hext
  have hgo {e' : Element} {rest' : Flow} (hs' : e'.subFlow? = none)
      (hx : Exchanged m s (.flow (e :: rest)) (.flow (e' :: rest')))
      (hc : Compiles (.continuation (e' :: rest') path' targets' index next') r r') :
      (s = .here → next' = next) ∧ m.Alike (m.running q) (k + 1) next next' := by
    cases hc with
    | spliced hsome => simp [hs'] at hsome
    | unspliced _ hpath' inner =>
      have hsame := hbeside.append hpath hpath'
      exact ⟨hsame, h hx (hbeside.at_ hsame) inner hext⟩
  cases hx with
  | handler he hp later => exact hgo hs (.handler he hp later) hc
  | element he he' first later =>
    exact hgo (first.subFlow?_eq_none he he' hs) (.element he he' first later) hc

end Sequences

/-! ## Commands -/

section Commands

variable {id : String} {path own root exit : FlowPath} {targets : Targets}

private theorem stepAlike_refl {k : Nat} {targets' : Targets} {x : Run StepResult}
    (h : x.Yields fun r => m.ResultAlike (m.running q) k targets targets' r r) :
    m.StepAlike (m.running q) k targets targets' x x := by
  intro f f' hf
  funext w
  cases hx : x w with
  | ok r w' =>
    rw [Run.bind_ok hx, Run.bind_ok hx, hf r r (h w r w' hx)]
  | error e w' => rw [Run.bind_error hx, Run.bind_error hx]

private theorem stepAlike_send {k : Nat} {plan plan' : MessagePlan} {targets' : Targets}
    (hsent : ∀ vars, m.deliver plan vars = m.deliver plan' vars) (hdynamic : plan'.dynamic = plan.dynamic)
    (hnext : Option.Rel (m.Alike (m.running q) k) plan.next plan'.next) (vars : Value) :
    m.StepAlike (m.running q) k targets targets' (m.sendMessage plan vars) (m.sendMessage plan' vars) := by
  unfold sendMessage
  rw [hsent, hdynamic]
  refine .bind fun message => ?_
  revert hnext
  generalize plan.next = t, plan'.next = t'
  rintro (⟨h⟩ | _)
  · cases plan.dynamic with
    | false => exact .pure .done
    | true =>
      refine .bind fun offered => ?_
      cases offered with
      | true => exact .pure .done
      | false => exact .pure (.jump h vars)
  · cases plan.dynamic <;> exact .pure .done

private theorem message (hname : q.dialog.name = m.program.dialog.name)
    {kind : MessageKind} {body : MessageBody} {actions : Actions} {items : Items} {actionPlan : ActionPlan}
    {itemPlan : ItemPlan} {p p' r : Program} (hown : FlowPath.append path id = .ok own)
    (ha : Compiles (.actions actions path targets actionPlan) p p')
    (hi : Compiles (.items items path targets itemPlan) p' r) (hext : r.Extends m.program) :
    m.RunsAlike q (.command (.message kind id body actions items) path targets
      (.message ⟨own, body.params kind, actionPlan, itemPlan, targets.next, isDynamic actions items⟩)) := by
  intro s k c' path' targets' step' o o' hx hbeside hc hext' vars
  cases hx with
  | message hs =>
    cases hc with
    | @message _ _ _ _ _ _ _ own' actionPlan' itemPlan' _ _ _ hown' ha' hi' =>
      simp only [runStep]
      -- at the same place the plans are the same; elsewhere they are idle, and differ in what is not shown
      have hsame : (s = .here → own' = own ∧ actionPlan' = actionPlan ∧ itemPlan' = itemPlan ∧
          targets'.next = targets.next) := by
        rintro rfl
        obtain ⟨rfl, rfl⟩ := hbeside.place rfl
        have hnames := (hi'.grows.trans hext').name.symm.trans (hname.trans (hi.grows.trans hext).name)
        have hfirst := ha'.grows.name.symm.trans (hnames.trans ha.grows.name)
        exact ⟨hbeside.append hown hown' rfl, ha.actions_unique hfirst ha', hi.items_unique hnames hi', rfl⟩
      refine stepAlike_send ?_ ?_ ?_ vars
      · intro vars
        rcases hs with hs | hs
        · obtain ⟨rfl, rfl, rfl, hnext⟩ := hsame hs
          rw [hnext]
        · rw [ha.actions_idle hs.actionsIdle, ha'.actions_idle hs.actionsIdle, hi.items_idle hs.itemsIdle,
            hi'.items_idle hs.itemsIdle]
          have hsome : targets.next.isSome = targets'.next.isSome := by
            have hnext := hbeside.next
            revert hnext
            generalize targets.next = t, targets'.next = t'
            rintro (_ | _) <;> rfl
          exact hs.sent own own' targets.next targets'.next vars hsome fun haside => (hbeside.onward haside).symm
      · rfl
      · exact hbeside.next

private theorem conditional {test : Value} {yes no : Flow} {yesPath noPath : FlowPath}
    (hroot : FlowPath.append path id = .ok root) (hyes : FlowPath.append root "then" = .ok yesPath)
    (hno : FlowPath.append root "else" = .ok noPath) (hy : m.RunsAlike q (.flow yes yesPath targets 0))
    (hn : m.RunsAlike q (.flow no noPath targets 0)) :
    m.RunsAlike q (.command (.conditional id test yes no) path targets (.conditional root test yesPath noPath)) := by
  intro s k c' path' targets' step' r r' hx hbeside hc hext vars
  cases hx with
  | conditional hs first second =>
    cases hc with
    | conditional hroot' hyes' hno' hfirst hsecond =>
      have hbelow := hbeside.at_ (hbeside.append hroot hroot')
      have hyesAlike := hy first (hbelow.at_ (hbelow.append hyes hyes')) hfirst (hsecond.grows.trans hext)
      have hnoAlike := hn second (hbelow.at_ (hbelow.append hno hno')) hsecond hext
      simp only [runStep]
      rw [hs.eq (hbeside.append hroot hroot')]
      refine .bind fun passed => .pure ?_
      cases passed with
      | true => exact .jump (hyesAlike.mono (Nat.le_succ k)) vars
      | false => exact .jump (hnoAlike.mono (Nat.le_succ k)) vars
  | exchange hs first second =>
    cases hc with
    | conditional hroot' hyes' hno' hfirst hsecond =>
      -- what was compiled as the first branch of the one is the second branch of the other
      have hyesAlike := hy first (hbeside.moved _ _) hsecond hext
      have hnoAlike := hn second (hbeside.moved _ _) hfirst (hsecond.grows.trans hext)
      simp only [runStep]
      rw [holds_negated, hs.eq (hbeside.append hroot hroot'), bind_assoc]
      refine .bind fun passed => ?_
      rw [pure_bind]
      refine .pure ?_
      cases passed with
      | true => exact .jump (hnoAlike.mono (Nat.le_succ k)) vars
      | false => exact .jump (hyesAlike.mono (Nat.le_succ k)) vars

private theorem stepAlike_choose {k : Nat} {targets' : Targets} {fallback fallback' : FlowPath}
    {paths paths' : List (Value × FlowPath)} (value : Value) (hfalls : m.Alike (m.running q) k fallback fallback')
    (hcases : List.Forall₂ (m.CaseAlike (m.running q) k) paths paths') (vars : Value) :
    m.StepAlike (m.running q) k targets targets'
      (do return .jump (← Run.ofOutcome (chooseCase value fallback paths)).toValue vars)
      (do return .jump (← Run.ofOutcome (chooseCase value fallback' paths')).toValue vars) := by
  induction hcases with
  | nil =>
    unfold chooseCase
    cases value.repr? with
    | error e => exact .throw _
    | ok shown => exact .pure (.jump hfalls vars)
  | @cons entry entry' rest rest' hentry later ih =>
    obtain ⟨case, target⟩ := entry
    obtain ⟨case', target'⟩ := entry'
    obtain ⟨rfl, htarget⟩ := hentry
    unfold chooseCase selectCase
    cases matchesCase value case' with
    | error e => exact .throw _
    | ok matched =>
      cases matched with
      | true =>
        cases value.repr? with
        | error e => exact .throw _
        | ok shown => exact .pure (.jump htarget vars)
      | false => exact ih

private theorem switch {value : Value} {cases : List Case} {default : Option Flow} {fallback entry : FlowPath}
    {paths : List (Value × FlowPath)} (hroot : FlowPath.append path id = .ok root)
    (hend : FlowPath.append root "end" = .ok exit) (hexit : m.RunsAlike q (.flow [] exit targets 0))
    (hfalls : m.RunsAlike q (.fallback default root (targets.ofSwitch exit) exit fallback))
    (hcases : m.RunsAlike q (.cases cases root (targets.ofSwitch exit) fallback paths entry)) :
    m.RunsAlike q (.command (.switch id value cases default) path targets (.switch root value paths fallback)) := by
  intro s k c' path' targets' step' r r' hx hbeside hc hext vars
  cases hx with
  | switch hs falls selects =>
    cases hc with
    | @switch _ _ _ _ _ _ root' exit' fallback' _ _ _ _ _ _ hroot' hend' exits' falls' selects' =>
      have hext' := selects'.grows.trans hext
      have hsame := hbeside.append hroot hroot'
      have hbelow := hbeside.at_ hsame
      have hsameExit := hbelow.append hend hend'
      have hexitAlike := hexit .nil (hbelow.at_ hsameExit) exits' (falls'.grows.trans hext') |>.mono (Nat.le_succ k)
      have hswitch : m.Beside (m.running q) s.inner k root root'
          { targets.ofSwitch exit with next := some exit } { targets'.ofSwitch exit' with next := some exit' } :=
        (hbelow.inner hsame hsameExit hexitAlike).breaking (fun hs => hsameExit (Placement.inner_eq_here.mp hs)) hexitAlike
      obtain ⟨hsameFalls, hfallsAlike⟩ := hfalls falls hswitch falls' hext'
      have hlast : m.Beside (m.running q) s.inner k root root'
          { targets.ofSwitch exit with next := some fallback } { targets'.ofSwitch exit' with next := some fallback' } := by
        simpa using hswitch.inner (fun hs => (hswitch.place hs).1) hsameFalls hfallsAlike
      obtain ⟨hpaths, -⟩ := hcases Placement.inner_ne_aside selects hlast selects' hext
      simp only [runStep]
      rw [show (m.expander vars root).expand value = (m.expander vars root').expand value from
        (congrFun (hs.eq hsame) vars).symm]
      exact .bind fun v => .bind fun v => stepAlike_choose v hfallsAlike hpaths vars

section Loop

variable {init : Fields} {condition : Value} {increment : Fields} {body : Flow} {name : String}
  {head bodyPath again : FlowPath}

/-- The heads of two loops run alike, by induction on the jumps that may be made: the body of each leads back to its
head with one jump less. -/
private theorem alike_head {s : Placement} {k : Nat} {head' bodyPath' again' exit' : FlowPath} {body' : Flow}
    {name' : String} {o o₁ o₂ : Program}
    (hsame : s = .here → head' = head ∧ bodyPath' = bodyPath ∧ again' = again ∧ exit' = exit)
    (hs : s.Spares fun path => m.holds path condition)
    (hincrement : s.Spares fun path => m.setVariables path (incrementValues increment))
    (hbody : m.RunsAlike q (.flow (body ++ loopTail body increment) bodyPath (.ofLoop head exit again) 0))
    (hagain : m.RunsAlike q (.flow (incrementFlow increment) again { next := some head } 0))
    (hfind : m.program.find head.toValue = .ok (.loop name head condition bodyPath exit))
    (hfind' : q.find head'.toValue = .ok (.loop name' head' condition bodyPath' exit'))
    (repeats : Exchanged m s.inner (.flow body) (.flow body'))
    (hrepeats : Compiles (.flow (body' ++ loopTail body' increment) bodyPath' (.ofLoop head' exit' again') 0) o o₁)
    (hcontinues : Compiles (.flow (incrementFlow increment) again' { next := some head' } 0) o₁ o₂)
    (hext : o₂.Extends q) (hexit : m.Alike (m.running q) k exit exit') : m.Alike (m.running q) k head head' := by
  induction k with
  | zero => exact alike_zero
  | succ k ih =>
    have hexit := hexit.mono (Nat.le_succ k)
    have hhead := ih hexit
    have hblank : m.Beside (m.running q) s.inner k again again' { next := some head } { next := some head' } :=
      { place := fun hs => by
          obtain ⟨rfl, -, rfl, -⟩ := hsame (Placement.inner_eq_here.mp hs)
          exact ⟨rfl, rfl⟩
        onward := fun hs => absurd hs Placement.inner_ne_aside
        next := .some hhead
        breakTo := .none
        continueTo := .none }
    have hagainAlike := hagain (.incrementFlow hincrement.inner) hblank hcontinues hext |>.mono (Nat.le_succ k)
    have hround : m.Beside (m.running q) s.inner k bodyPath bodyPath' (.ofLoop head exit again)
        (.ofLoop head' exit' again') :=
      { place := fun hs => by
          obtain ⟨rfl, rfl, rfl, rfl⟩ := hsame (Placement.inner_eq_here.mp hs)
          exact ⟨rfl, rfl⟩
        onward := fun hs => absurd hs Placement.inner_ne_aside
        next := .some hhead
        breakTo := .some hexit
        continueTo := .some hagainAlike }
    have hbodyAlike := hbody (repeats.loopBody hincrement) hround hrepeats (hcontinues.grows.trans hext)
    have hholds (vars : Value) : m.holds head condition vars = m.holds head' condition vars :=
      congrFun (hs.eq fun hs => (hsame hs).1).symm vars
    exact alike_loop hfind hfind' hholds (hbodyAlike.mono (Nat.le_succ k)) hexit

private theorem iteration (hroot : FlowPath.append path id = .ok root) (hhead : FlowPath.append root "loop" = .ok head)
    (hdo : FlowPath.append root "do" = .ok bodyPath) (hcontinue : FlowPath.append root "continue" = .ok again)
    (hend : FlowPath.append root "end" = .ok exit)
    (hinit : init.isEmpty = false → FlowPath.append root "init" = .ok own)
    (hexit : m.RunsAlike q (.flow [] exit targets 0))
    (hbody : m.RunsAlike q (.flow (body ++ loopTail body increment) bodyPath (.ofLoop head exit again) 0))
    (hagain : m.RunsAlike q (.flow (incrementFlow increment) again { next := some head } 0))
    (hfind : m.program.find head.toValue = .ok (.loop name head condition bodyPath exit)) :
    m.RunsAlike q (.command (.iteration id init condition increment body) path targets
      (.iteration (if init.isEmpty then none else some (own, init)) head)) := by
  intro s k c' path' targets' step' r r' hx hbeside hc hext vars
  cases hx with
  | iteration hset hs hincrement repeats =>
    cases hc with
    | iteration hroot' hhead' hdo' hcontinue' hend' _ exits' repeats' continues' hkey' hadd' hinit' =>
      have hadded := Program.extends_of_add hadd'
      have hfind' := hext.find ((Program.pathKey_congr hadded.name _).trans hkey') (Program.lookup_of_add hadd')
      have hcontinued := hadded.trans hext
      have hbelow := hbeside.at_ (hbeside.append hroot hroot')
      have hsameHead := hbelow.append hhead hhead'
      have hsameExit := hbelow.append hend hend'
      have hexitAlike := hexit .nil (hbelow.at_ hsameExit) exits'
        (repeats'.grows.trans (continues'.grows.trans hcontinued)) |>.mono (Nat.le_succ k)
      have hheadAlike := alike_head
        (fun hs => ⟨hsameHead hs, hbelow.append hdo hdo' hs, hbelow.append hcontinue hcontinue' hs, hsameExit hs⟩)
        hs hincrement hbody hagain hfind hfind' repeats repeats' continues' hcontinued hexitAlike
      cases he : init.isEmpty with
      | true =>
        simp only [runStep, if_true]
        exact .pure (.jump hheadAlike vars)
      | false =>
        simp only [runStep, Bool.false_eq_true, if_false]
        rw [hset.eq (hbelow.append (hinit he) (hinit' he))]
        exact .bind fun vars => .pure (.jump hheadAlike vars)

end Loop

private theorem start {target args : Value} {resume : Option Flow} {tag : Option String} {p p' : Program}
    (hname : q.dialog.name = m.program.dialog.name)
    (hcompiled : Compiles (.command (.start id target args resume) path targets (.start own target args tag)) p p')
    (hext : p'.Extends m.program) :
    m.RunsAlike q (.command (.start id target args resume) path targets (.start own target args tag)) := by
  intro s k c' path' targets' step' r r' hx hbeside hc hext' vars
  cases hx with
  | start =>
    obtain ⟨rfl, rfl⟩ := hbeside.place rfl
    -- a start never moves, so it has the same tag
    have hsame : step' = .start own target args tag := by
      cases hcompiled with
      | startLast hcheck hown hnext =>
        cases hc with
        | startLast _ hown' => rw [Except.ok.inj (hown'.symm.trans hown)]
        | start _ _ hresume => simp [hnext] at hresume
      | start hcheck hown hresume resumes htag =>
        cases hc with
        | startLast _ _ hnext => simp [hnext] at hresume
        | start _ hown' _ resumes' htag' =>
          obtain rfl := Except.ok.inj (hown'.symm.trans hown)
          have hgrown := ((Program.extends_awaiting _ _ _ _).trans hext).name
          have hgrown' := ((Program.extends_awaiting _ _ _ _).trans hext').name
          have hnames := hgrown'.symm.trans (hname.trans hgrown)
          rw [Program.pathKey_congr hnames, htag] at htag'
          rw [Except.ok.inj htag']
    subst hsame
    refine stepAlike_refl ?_
    exact .bind fun _ => .bind fun _ => .bind fun _ => .bind fun _ => .bind fun _ => .bind fun _ => .pure .done

private theorem finish {result : Value} (hown : FlowPath.append path id = .ok own) :
    m.RunsAlike q (.command (.finish id result) path targets (.finish own result)) := by
  intro s k c' path' targets' step' r r' hx hbeside hc hext vars
  cases hx with
  | finish hs =>
    cases hc with
    | finish hown' =>
      simp only [runStep]
      rw [congrFun (hs.eq (hbeside.append hown hown')) vars]
      exact .bind fun _ => .bind fun _ => .bind fun _ => .pure .done

private theorem set {values : Fields} (hown : FlowPath.append path id = .ok own) :
    m.RunsAlike q (.command (.set id values) path targets (.set own values)) := by
  intro s k c' path' targets' step' r r' hx hbeside hc hext vars
  cases hx with
  | set hs =>
    cases hc with
    | set hown' =>
      simp only [runStep]
      rw [hs.eq (hbeside.append hown hown')]
      exact .bind fun _ => .pure (.update _)

private theorem exec {target args : Value} (hown : FlowPath.append path id = .ok own) :
    m.RunsAlike q (.command (.exec id target args) path targets (.exec own target args)) := by
  intro s k c' path' targets' step' r r' hx hbeside hc hext vars
  cases hx with
  | exec hs =>
    cases hc with
    | exec hown' =>
      have hsame := congrFun (hs.eq (hbeside.append hown hown')) vars
      simp only [runStep] at hsame ⊢
      rw [hsame]
      exact .bind fun _ => .pure .done

private theorem wait {seconds : Value} (hown : FlowPath.append path id = .ok own) :
    m.RunsAlike q (.command (.wait id seconds) path targets (.wait own seconds)) := by
  intro s k c' path' targets' step' r r' hx hbeside hc hext vars
  cases hx with
  | wait hs =>
    cases hc with
    | wait hown' =>
      simp only [runStep]
      rw [congrFun (hs.eq (hbeside.append hown hown')) vars]
      exact .bind fun _ => .bind fun _ => .bind fun _ => .pure .done

private theorem stepAlike_signal {s : Placement} {k : Nat} {path' : FlowPath} {targets' : Targets}
    (signal : Signal) {target : FlowPath} (hbeside : m.Beside (m.running q) s k path path' targets targets')
    (ht : targets.onSignal signal = some target) (vars : Value) :
    m.StepAlike (m.running q) k targets targets' (m.runStep path vars (.signal signal))
      (m.runStep path' vars (.signal signal)) := by
  have hrel : Option.Rel (m.Alike (m.running q) k) (targets.onSignal signal) (targets'.onSignal signal) := by
    cases signal with
    | «break» => exact hbeside.breakTo
    | «continue» => exact hbeside.continueTo
  rw [ht] at hrel
  generalize ht' : targets'.onSignal signal = t' at hrel
  cases hrel with
  | some h => exact .pure (.signal ht ht' h)

private theorem «break» {target : FlowPath} (ht : targets.breakTo = some target) :
    m.RunsAlike q (.command (.break id) path targets (.signal .break)) := by
  intro s k c' path' targets' step' r r' hx hbeside hc hext vars
  cases hx
  cases hc
  exact stepAlike_signal .break hbeside ht vars

private theorem «continue» {target : FlowPath} (ht : targets.continueTo = some target) :
    m.RunsAlike q (.command (.continue id) path targets (.signal .continue)) := by
  intro s k c' path' targets' step' r r' hx hbeside hc hext vars
  cases hx
  cases hc
  exact stepAlike_signal .continue hbeside ht vars

private theorem subFlow {body : Flow} (hown : FlowPath.append path id = .ok own)
    (h : m.RunsAlike q (.flow body own targets 0)) :
    m.RunsAlike q (.command (.flow id body) path targets (.jump own)) := by
  intro s k c' path' targets' step' r r' hx hbeside hc hext vars
  cases hx with
  | subFlow inner =>
    cases hc with
    | subFlow hown' hinner =>
      have hsame := hbeside.append hown hown'
      exact .pure (.jump ((h inner (hbeside.at_ hsame) hinner hext).mono (Nat.le_succ k)) vars)

/-! ### Cases and defaults -/

private theorem noDefault : m.RunsAlike q (.fallback none root targets exit exit) := by
  intro s k default' root' targets' exit' fallback' r r' hx hbeside hc hext
  cases hx
  cases hc
  refine ⟨fun hs => ?_, ?_⟩
  · exact Option.some.inj (congrArg Targets.next (hbeside.place hs).2)
  · cases hbeside.next with
    | some h => exact h

private theorem default {body : Flow} (hown : FlowPath.append root "default" = .ok own)
    (h : m.RunsAlike q (.flow body own { targets with next := some exit } 0)) :
    m.RunsAlike q (.fallback (some body) root targets exit own) := by
  intro s k default' root' targets' exit' fallback' r r' hx hbeside hc hext
  cases hx with
  | default inner =>
    cases hc with
    | default hown' hinner =>
      have hsame := hbeside.append hown hown'
      exact ⟨hsame, (h inner (hbeside.at_ hsame) hinner hext).mono (Nat.le_succ k)⟩

private theorem noCase {last : FlowPath} : m.RunsAlike q (.cases [] root targets last [] last) := by
  intro s k cases' root' targets' last' paths' first' r r' haside hx hbeside hc hext
  cases hx
  cases hc
  refine ⟨.nil, fun hs => ?_, ?_⟩
  · exact Option.some.inj (congrArg Targets.next (hbeside.place hs).2)
  · cases hbeside.next with
    | some h => exact h

private theorem case {value : Value} {body : Flow} {rest : List Case} {last next : FlowPath}
    {paths : List (Value × FlowPath)} (hown : FlowPath.append root id = .ok own)
    (h : m.RunsAlike q (.cases rest root targets last paths next))
    (h' : m.RunsAlike q (.flow body own { targets with next := some next } 0)) :
    m.RunsAlike q (.cases (.mk id value body :: rest) root targets last
      (((Case.mk id value body).matchValue, own) :: paths) own) := by
  intro s k cases' root' targets' last' paths' first' r r' haside hx hbeside hc hext
  cases hx with
  | case inner later =>
    cases hc with
    | @case _ _ _ _ _ _ _ paths' next' own' _ _ _ later' hown' hinner =>
      obtain ⟨hpaths, hsameNext, hnext⟩ := h haside later hbeside later' (hinner.grows.trans hext)
      have hsame := hbeside.append hown hown'
      have hbody : m.Beside (m.running q) s k own first' { targets with next := some next }
          { targets' with next := some next' } := by
        simpa [Placement.inner_of_ne haside] using hbeside.inner hsame hsameNext hnext
      have halike := (h' inner hbody hinner hext).mono (Nat.le_succ k)
      exact ⟨.cons ⟨rfl, halike⟩ hpaths, hsame, halike⟩

end Commands

end RunsAlike

/-! ## The derivation as a whole -/

/-- Everything that was compiled runs like its counterparts, in a machine that runs the compiled program or an extension
of it. -/
theorem runsAlike_of_compiles (hname : q.dialog.name = m.program.dialog.name)
    (hsettings : q.settings = m.program.settings)
    {job : Job} {p r : Program} (h : Compiles job p r) (hext : r.Extends m.program) : m.RunsAlike q job := by
  induction h with
  | flow sound hown elements hkey hadd ih =>
    have hadded := Program.extends_of_add hadd
    have hfind := hext.find ((Program.pathKey_congr hadded.name _).trans hkey) (Program.lookup_of_add hadd)
    exact .flow hfind (ih (hadded.trans hext))
  | nil => exact .nil
  | handler he later ih => exact .handler hname hsettings he (ih hext)
  | plain he hb first later ih ih' => exact .plain hname hsettings he hb (ih (later.grows.trans hext)) (ih' hext)
  | last he hb first ih => exact .last hname hsettings he hb (ih hext)
  | terminal he hb hrest ht hkey first ih => exact .terminal hname hsettings he hb hrest ht (ih hext)
  | broken he hb ht later first ih ih' =>
    refine .broken hname hsettings he hb ?_ ht (ih (first.grows.trans hext)) (ih' hext)
    rintro rfl
    cases later
  | spliced hs hpath rest ih => exact .spliced hs hpath (ih hext)
  | unspliced hs hpath rest ih => exact .unspliced hs hpath (ih hext)
  | message hpath first later ih ih' => exact .message hname hpath first later hext
  | conditional hroot hyes hno first second ih ih' =>
    exact .conditional hroot hyes hno (ih (second.grows.trans hext)) (ih' hext)
  | switch hroot hexit exits falls selects ih ih' ih'' =>
    have hfalls := selects.grows.trans hext
    exact .switch hroot hexit (ih (falls.grows.trans hfalls)) (ih' hfalls) (ih'' hext)
  | iteration hroot hloop hbody hagain hexit _ exits repeats continues hkey hadd hinit ih ih' ih'' =>
    have hadded := Program.extends_of_add hadd
    have hcontinues := hadded.trans hext
    have hrepeats := continues.grows.trans hcontinues
    have hfind := hext.find ((Program.pathKey_congr hadded.name _).trans hkey) (Program.lookup_of_add hadd)
    exact .iteration hroot hloop hbody hagain hexit hinit (ih (repeats.grows.trans hrepeats)) (ih' hrepeats)
      (ih'' hcontinues) hfind
  | startLast hcheck hpath hnext => exact .start hname (.startLast hcheck hpath hnext) hext
  | start hcheck hpath hresume resumes htag ih => exact .start hname (.start hcheck hpath hresume resumes htag) hext
  | finish hpath => exact .finish hpath
  | set hpath => exact .set hpath
  | exec hpath => exact .exec hpath
  | wait hpath => exact .wait hpath
  | «break» ht => exact .break ht
  | «continue» ht => exact .continue ht
  | subFlow hpath inner ih => exact .subFlow hpath (ih hext)
  | noDefault => exact .noDefault
  | default hpath inner ih => exact .default hpath (ih hext)
  | noCase => exact .noCase
  | case later hpath inner ih ih' => exact .case hpath (ih (inner.grows.trans hext)) (ih' hext)
  | _ => trivial

end Machine

end Colloquy
