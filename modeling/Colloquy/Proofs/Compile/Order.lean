import Colloquy.Proofs.Compile.Closed
import Colloquy.Proofs.Flow.Parts

/-!
# The order of compiled flows

Where a flow goes on is compiled before the flow itself is registered: its continuation, the branches and cases, what
a sub-flow is made of. Only a loop is told to its body before it is there. So without loops the order in which flows
are registered is one of their jumps as well: each flow jumps to flows that were registered before it.
-/

namespace Colloquy

/-! ## Registered paths -/

section Knows

variable {p q : Program} {targets : Targets}

private theorem Targets.Known.of_knows (h : targets.Known p) (hknows : ∀ path, p.Knows path → q.Knows path) :
    targets.Known q where
  next path hp := hknows path (h.next path hp)
  breakTo path hp := hknows path (h.breakTo path hp)
  continueTo path hp := hknows path (h.continueTo path hp)

private theorem Step.Closed.of_knows {step : Step} (h : step.Closed targets p)
    (hknows : ∀ path, p.Knows path → q.Knows path) : step.Closed targets q := by
  cases step with
  | message plan => exact fun path hp => hknows path (h path hp)
  | conditional at_ test yes no => exact ⟨hknows yes h.1, hknows no h.2⟩
  | switch at_ value cases fallback => exact ⟨fun path hp => hknows path (h.1 path hp), hknows fallback h.2⟩
  | iteration init loop => exact hknows loop h
  | signal s => cases s <;> exact h
  | jump target => exact hknows target h
  | _ => trivial

private theorem FlowHandler.Closed.of_knows {handler : FlowHandler} (h : handler.Closed p)
    (hknows : ∀ path, p.Knows path → q.Knows path) : handler.Closed q := by
  cases handler with
  | sequence key path steps targets =>
    exact ⟨fun step hstep => (h.1 step hstep).of_knows hknows, h.2.of_knows hknows⟩
  | loop id at_ condition body exit => exact ⟨hknows body h.1, hknows exit h.2⟩
  | external fn => exact h

private theorem Job.Ready.of_extends {job : Job} (h : job.Ready p) (hext : p.Extends q) : job.Ready q := by
  have hknows (path : FlowPath) (hp : p.Knows path) : q.Knows path := hp.of_extends hext
  cases job with
  | fallback default root targets exit fallback => exact ⟨h.1.of_knows hknows, hknows exit h.2⟩
  | cases cases root targets last paths first => exact ⟨h.1.of_knows hknows, hknows last h.2⟩
  | _ => exact Targets.Known.of_knows h hknows

end Knows

/-! ## Flows without loops -/

def Job.parts : Job → List FlowPart
  | .flow body _ _ _ | .elements body _ _ _ _ | .continuation body _ _ _ _ => flowParts body
  | .command c _ _ _ => c.parts
  | .fallback body _ _ _ _ => optionParts body
  | .cases list _ _ _ _ _ => casesParts list
  | .actions own _ _ _ => own.parts
  | .actionList list _ _ _ => actionsParts list
  | .action a _ _ _ => a.parts
  | .items own _ _ _ => own.parts
  | .itemList list _ _ _ => itemsParts list

namespace Program

variable {p q : Program} {flows : List (String × FlowHandler)}

inductive Descends (p : Program) : List (String × FlowHandler) → Prop where
  | nil : Descends p []
  | snoc {flows key handler} (before : Descends p flows) (h : handler.Closed { p with flows := flows }) :
      Descends p (flows ++ [(key, handler)])

private theorem Descends.of_name (h : p.Descends flows) (hname : q.dialog.name = p.dialog.name) : q.Descends flows := by
  induction h with
  | nil => exact .nil
  | @snoc flows key handler before h ih =>
    refine ih.snoc (h.of_knows fun path ⟨own, hown, hl⟩ => ⟨own, ?_, hl⟩)
    rw [← hown]
    exact pathKey_congr hname path

/-- The flows of a program jump only to flows that were registered before them. -/
def Ordered (p : Program) : Prop := p.Descends p.flows

theorem Ordered.of_same (h : p.Ordered) (hname : q.dialog.name = p.dialog.name) (hflows : q.flows = p.flows) :
    q.Ordered := by
  unfold Ordered
  rw [hflows]
  exact Descends.of_name h hname

private theorem Ordered.add (h : p.Ordered) {key : String} {handler : FlowHandler} (hadd : p.add key handler = .ok q)
    (hclosed : handler.Closed p) : q.Ordered := by
  obtain ⟨-, rfl⟩ := add_eq_ok.mp hadd
  exact Descends.snoc (Descends.of_name h rfl) hclosed

theorem Descends.lookup (h : p.Descends flows) {key : String} {handler : FlowHandler}
    (hl : flows.lookup key = some handler) : ∃ before after, flows = before ++ (key, handler) :: after ∧
      key ∉ before.map (·.1) ∧ handler.Closed { p with flows := before } := by
  induction h with
  | nil => cases hl
  | @snoc flows own last before hclosed ih =>
    rw [List.lookup_append] at hl
    cases hfound : flows.lookup key with
    | some found =>
      rw [hfound, Option.some_or] at hl
      obtain ⟨first, after, rfl, hnot, hbefore⟩ := ih (hfound.trans hl)
      exact ⟨first, after ++ [(own, last)], by simp, hnot, hbefore⟩
    | none =>
      rw [hfound, Option.none_or, List.lookup_cons, List.lookup_nil] at hl
      split at hl
      · rename_i hown
        obtain rfl := eq_of_beq hown
        obtain rfl := Option.some.inj hl
        exact ⟨flows, [], rfl, fun hmem => lookup_ne_none_iff.mpr hmem hfound, hclosed⟩
      · cases hl

end Program

open Program

theorem Compiles.ordered {job : Job} {p q : Program} (h : Compiles job p q)
    (hfree : ∀ part ∈ job.parts, part.isLoop = false)
    (hready : job.Ready p) (hp : p.Ordered) : q.Ordered := by
  induction h with
  | flow sound hown elements hkey hadd ih =>
    have hafter := hready.of_extends elements.grows
    obtain ⟨hsteps, -⟩ := elements.closed (.refl _) hafter
    exact (ih hfree hready hp).add hadd ⟨hsteps, hafter⟩
  | nil | startLast | finish | set | exec | wait | «break» | «continue» | noDefault | noCase | noActions
  | computedActions | actionNil | inert | postback | noItems | computedItems | itemNil => exact hp
  | reference => exact hp.of_same rfl rfl
  | handler he later ih => exact ih (List.forall_mem_append.mp hfree).2 hready hp
  | plain he hb first later ih ih' =>
    obtain ⟨hfirst, hlater⟩ := List.forall_mem_append.mp hfree
    rw [Element.parts_of_command? he] at hfirst
    exact ih' hlater (hready.of_extends first.grows) (ih hfirst hready hp)
  | last he hb first ih =>
    obtain ⟨hfirst, -⟩ := List.forall_mem_append.mp hfree
    rw [Element.parts_of_command? he] at hfirst
    exact ih hfirst hready hp
  | terminal he hb hrest ht hkey first ih =>
    obtain ⟨hfirst, -⟩ := List.forall_mem_append.mp hfree
    rw [Element.parts_of_command? he] at hfirst
    exact ih hfirst (hready.of_extends (extends_warned _ _)) (hp.of_same rfl rfl)
  | broken he hb ht later first ih ih' =>
    obtain ⟨hfirst, hlater⟩ := List.forall_mem_append.mp hfree
    rw [Element.parts_of_command? he] at hfirst
    have hafter := hready.of_extends later.grows
    exact ih' hfirst (hafter.with_next (later.closed (.refl _) hafter).1) (ih hlater hready hp)
  | spliced hs hpath rest ih =>
    refine ih ?_ hready hp
    obtain ⟨hfirst, htail⟩ := List.forall_mem_append.mp hfree
    rw [Element.parts_of_subFlow? hs] at hfirst
    change ∀ part ∈ flowParts (_ ++ _), _
    rw [flowParts_append]
    exact List.forall_mem_append.mpr ⟨(List.forall_mem_cons.mp hfirst).2, htail⟩
  | unspliced hs hpath rest ih => exact ih hfree hready hp
  | message hpath first later ih ih' =>
    obtain ⟨hactions, hitems⟩ := List.forall_mem_append.mp (List.forall_mem_cons.mp hfree).2
    exact ih' hitems (hready.of_extends first.grows) (ih hactions hready hp)
  | conditional hroot hyes hno first second ih ih' =>
    obtain ⟨hthen, helse⟩ := List.forall_mem_append.mp (List.forall_mem_cons.mp hfree).2
    exact ih' helse (hready.of_extends first.grows) (ih hthen hready hp)
  | switch hroot hexit exits falls selects ih ih' ih'' =>
    obtain ⟨hcases, hdefault⟩ := List.forall_mem_append.mp (List.forall_mem_cons.mp hfree).2
    have hexits := hready.of_extends exits.grows
    have hknown := (exits.closed (.refl _) hexits).1
    have hswitch := Targets.Known.ofSwitch hexits hknown
    have hafter := hswitch.of_knows fun _ h => h.of_extends falls.grows
    have hfallback := (falls.closed (.refl _) ⟨hafter, hknown.of_extends falls.grows⟩).1
    exact ih'' hcases ⟨hafter, hfallback⟩ (ih' hdefault ⟨hswitch, hknown⟩ (ih nofun hready hp))
  | iteration => exact absurd (hfree _ List.mem_cons_self) (by simp [FlowPart.isLoop])
  | start hcheck hpath hresume resumes htag ih =>
    refine (ih ?_ hready hp).of_same rfl rfl
    change ∀ part ∈ flowParts (Option.getD _ _), _
    rw [flowParts_getD]
    exact (List.forall_mem_cons.mp hfree).2
  | subFlow hpath inner ih => exact ih (List.forall_mem_cons.mp hfree).2 hready hp
  | default hpath inner ih => exact ih hfree (hready.1.with_next hready.2) hp
  | case later hpath inner ih ih' =>
    obtain ⟨hbody, hlater⟩ := List.forall_mem_append.mp hfree
    have hafter := hready.of_extends later.grows
    have hnext := (later.closed (.refl _) hafter).1.1
    exact ih' (List.forall_mem_cons.mp hbody).2 (hafter.1.with_next hnext) (ih hlater hready hp)
  | fixedActions inner ih | fixedItems inner ih => exact ih hfree hready hp
  | actionCons first later ih ih' =>
    obtain ⟨hfirst, hlater⟩ := List.forall_mem_append.mp hfree
    exact ih' hlater (hready.of_extends first.grows) (ih hfirst hready hp)
  | itemCons hpath first later ih ih' =>
    obtain ⟨hfirst, hlater⟩ := List.forall_mem_append.mp hfree
    exact ih' hlater (hready.of_extends first.grows) (ih (List.forall_mem_cons.mp hfirst).2 hready hp)
  | button hk ht hb hid hpath inner hkey ih =>
    have hinner := ih ?_ (hready.ofAction _) hp
    · unfold offering
      split <;> exact hinner.of_same rfl rfl
    · change ∀ part ∈ flowParts (Option.getD _ _), _
      rw [flowParts_getD]
      exact (List.forall_mem_cons.mp hfree).2

end Colloquy
