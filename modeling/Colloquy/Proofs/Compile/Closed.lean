import Colloquy.Proofs.Compile.Growth

/-!
# Compiled flows jump to registered flows

A place to go on is told to a flow before anything is registered there: the head of a loop, the case that
a case falls through to, the end of a switch. Once everything is compiled, each of these places is taken:
every jump of a registered flow leads to a registered flow, and every signal has somewhere to go.
-/

namespace Colloquy

def Program.Knows (p : Program) (path : FlowPath) : Prop :=
  ∃ key, p.pathKey path = .ok key ∧ p.flows.lookup key ≠ none

structure Targets.Known (targets : Targets) (p : Program) : Prop where
  next : ∀ path, targets.next = some path → p.Knows path
  breakTo : ∀ path, targets.breakTo = some path → p.Knows path
  continueTo : ∀ path, targets.continueTo = some path → p.Knows path

/-- A step jumps to registered flows only, and it signals only what its sequence has a target for. -/
def Step.Closed (targets : Targets) (p : Program) : Step → Prop
  | .message plan => ∀ path, plan.next = some path → p.Knows path
  | .conditional _ _ yes no => p.Knows yes ∧ p.Knows no
  | .switch _ _ cases fallback => (∀ path ∈ cases.map (·.2), p.Knows path) ∧ p.Knows fallback
  | .iteration _ loop => p.Knows loop
  | .signal .break => targets.breakTo ≠ none
  | .signal .continue => targets.continueTo ≠ none
  | .jump target => p.Knows target
  | _ => True

/-- A compiled flow jumps to registered flows only. -/
def FlowHandler.Closed (p : Program) : FlowHandler → Prop
  | .sequence _ _ steps targets => (∀ step ∈ steps, step.Closed targets p) ∧ targets.Known p
  | .loop _ _ _ body exit => p.Knows body ∧ p.Knows exit
  | .external _ => False

/-- All flows of a program are compiled and jump to flows of the program only. -/
def Program.Closed (p : Program) : Prop :=
  ∀ key handler, p.flows.lookup key = some handler → handler.Closed p

namespace Program

variable {p q r : Program} {path : FlowPath}

theorem Knows.of_extends (h : p.Knows path) (hext : p.Extends q) : q.Knows path := by
  obtain ⟨key, hkey, hl⟩ := h
  exact ⟨key, (pathKey_congr hext.name path).trans hkey, hext.registered hl⟩

private theorem Knows.of_add {key : String} {handler : FlowHandler} (hkey : p.pathKey path = .ok key)
    (hadd : p.add key handler = .ok q) (hext : q.Extends r) : r.Knows path := by
  refine Knows.of_extends ⟨key, ?_, by simp [lookup_of_add hadd]⟩ hext
  exact (pathKey_congr (extends_of_add hadd).name path).trans hkey

theorem find_eq_ok {path : Value} {handler : FlowHandler} :
    p.find path = .ok handler ↔ ∃ key, p.key path = .ok key ∧ p.flows.lookup key = some handler := by
  unfold find
  cases p.key path with
  | error e => simp [bind, Except.bind]
  | ok key =>
    cases hl : p.flows.lookup key <;> simp [bind, Except.bind, hl, pure, Except.pure]

private theorem lookup_add_cases {key other : String} {own handler : FlowHandler} (hadd : p.add key own = .ok q)
    (h : q.flows.lookup other = some handler) : p.flows.lookup other = some handler ∨ handler = own := by
  obtain ⟨hfree, rfl⟩ := add_eq_ok.mp hadd
  cases hl : p.flows.lookup other with
  | some found =>
    simp only [List.lookup_append, hl, Option.some_or] at h
    exact .inl h
  | none =>
    simp only [List.lookup_append, hl, Option.none_or, List.lookup_cons, List.lookup_nil] at h
    split at h
    · exact .inr (Option.some.inj h).symm
    · cases h

end Program

theorem Targets.Known.blank (p : Program) : ({} : Targets).Known p := ⟨nofun, nofun, nofun⟩

theorem Targets.Known.with_next {targets : Targets} {p : Program} {next : FlowPath} (h : targets.Known p)
    (hnext : p.Knows next) : ({ targets with next := some next } : Targets).Known p := by
  refine ⟨?_, h.breakTo, h.continueTo⟩
  rintro _ ⟨⟩
  exact hnext

theorem Targets.Known.ofSwitch {targets : Targets} {p : Program} {exit : FlowPath} (h : targets.Known p)
    (hexit : p.Knows exit) : (targets.ofSwitch exit).Known p := by
  refine ⟨nofun, ?_, h.continueTo⟩
  rintro _ ⟨⟩
  exact hexit

private theorem Targets.Known.ofLoop {p : Program} {loop exit again : FlowPath} (hloop : p.Knows loop)
    (hexit : p.Knows exit) (hagain : p.Knows again) : (Targets.ofLoop loop exit again).Known p := by
  refine ⟨?_, ?_, ?_⟩
  · rintro _ ⟨⟩
    exact hloop
  · rintro _ ⟨⟩
    exact hexit
  · rintro _ ⟨⟩
    exact hagain

theorem Targets.Known.ofAction {targets : Targets} {p : Program} (h : targets.Known p) (kind : ActionKind) :
    (targets.ofAction kind).Known p := by
  unfold Targets.ofAction
  split
  · exact h
  · exact .blank p

namespace Job

/-- The places that a part of a flow is told to go on with are registered. -/
def Ready (p : Program) : Job → Prop
  | .flow _ _ targets _ | .elements _ _ targets _ _ | .continuation _ _ targets _ _ | .command _ _ targets _
  | .actions _ _ targets _ | .actionList _ _ targets _ | .action _ _ targets _ | .items _ _ targets _
  | .itemList _ _ targets _ => targets.Known p
  | .fallback _ _ targets exit _ => targets.Known p ∧ p.Knows exit
  | .cases _ _ targets last _ _ => targets.Known p ∧ p.Knows last

/-- What was compiled jumps to registered flows only. -/
def Closed (p : Program) : Job → Prop
  | .flow _ path _ _ | .continuation _ _ _ _ path | .fallback _ _ _ _ path => p.Knows path
  | .elements _ _ targets _ steps => ∀ step ∈ steps, step.Closed targets p
  | .command _ _ targets step => step.Closed targets p
  | .cases _ _ _ _ paths first => p.Knows first ∧ ∀ path ∈ paths.map (·.2), p.Knows path
  | _ => True

/-- Whatever is registered after compiling was registered before, or jumps to registered flows only. -/
def Adds (p q r : Program) : Prop :=
  ∀ key handler, q.flows.lookup key = some handler → p.flows.lookup key = some handler ∨ handler.Closed r

variable {p q r s : Program}

theorem Adds.refl (p r : Program) : Adds p p r := fun _ _ h => .inl h

theorem Adds.trans (h : Adds p q s) (h' : Adds q r s) : Adds p r s := fun key handler hl =>
  (h' key handler hl).elim (h key handler) .inr

private theorem Adds.of_add (h : Adds p q s) {key : String} {handler : FlowHandler} (hadd : q.add key handler = .ok r)
    (hclosed : handler.Closed s) : Adds p r s := by
  intro other own hl
  rcases Program.lookup_add_cases hadd hl with hl | rfl
  · exact h other own hl
  · exact .inr hclosed

end Job

private theorem Step.Closed.congr {step : Step} {targets others : Targets} {p : Program}
    (h : step.Closed targets p) (hbreak : others.breakTo = targets.breakTo)
    (hcontinue : others.continueTo = targets.continueTo) : step.Closed others p := by
  cases step with
  | signal s =>
    cases s with
    | «break» => exact fun hnone => h (hbreak.symm.trans hnone)
    | «continue» => exact fun hnone => h (hcontinue.symm.trans hnone)
  | _ => exact h

/-- What was compiled jumps to registered flows only, in any program that has everything that was compiled,
if the places to go on are registered there. -/
theorem Compiles.closed {job : Job} {p q r : Program} (h : Compiles job p q) (hext : q.Extends r)
    (hready : job.Ready r) : job.Closed r ∧ Job.Adds p q r := by
  induction h with
  | flow sound hown elements hkey hadd ih =>
    obtain ⟨hsteps, hadds⟩ := ih ((Program.extends_of_add hadd).trans hext) hready
    exact ⟨.of_add hkey hadd hext, hadds.of_add hadd ⟨hsteps, hready⟩⟩
  | @nil _ targets =>
    refine ⟨?_, .refl _ _⟩
    intro step hstep
    cases ht : targets.next with
    | none => simp [ht] at hstep
    | some target =>
      obtain rfl : step = .jump target := by simpa [ht] using hstep
      exact hready.next target ht
  | handler _ _ ih =>
    obtain ⟨hsteps, hadds⟩ := ih hext hready
    exact ⟨List.forall_mem_cons.mpr ⟨trivial, hsteps⟩, hadds⟩
  | plain _ _ _ later ih ih' =>
    obtain ⟨hstep, hadds⟩ := ih (later.grows.trans hext) hready
    obtain ⟨hsteps, hmore⟩ := ih' hext hready
    exact ⟨List.forall_mem_cons.mpr ⟨hstep, hsteps⟩, hadds.trans hmore⟩
  | last _ _ _ ih =>
    obtain ⟨hstep, hadds⟩ := ih hext hready
    exact ⟨List.forall_mem_singleton.mpr hstep, hadds⟩
  | terminal _ _ _ _ _ _ ih =>
    obtain ⟨hstep, hadds⟩ := ih hext hready
    exact ⟨List.forall_mem_singleton.mpr hstep, hadds⟩
  | broken _ _ _ _ first ih ih' =>
    obtain ⟨hnext, hadds⟩ := ih (first.grows.trans hext) hready
    obtain ⟨hstep, hmore⟩ := ih' hext (Targets.Known.with_next hready hnext)
    exact ⟨List.forall_mem_singleton.mpr (Step.Closed.congr hstep rfl rfl), hadds.trans hmore⟩
  | spliced _ _ _ ih | unspliced _ _ _ ih => exact ih hext hready
  | message _ _ later ih ih' =>
    obtain ⟨-, hadds⟩ := ih (later.grows.trans hext) hready
    obtain ⟨-, hmore⟩ := ih' hext hready
    exact ⟨hready.next, hadds.trans hmore⟩
  | conditional _ _ _ _ second ih ih' =>
    obtain ⟨hyes, hadds⟩ := ih (second.grows.trans hext) hready
    obtain ⟨hno, hmore⟩ := ih' hext hready
    exact ⟨⟨hyes, hno⟩, hadds.trans hmore⟩
  | switch _ _ _ falls selects ih ih' ih'' =>
    have hfalls := selects.grows.trans hext
    obtain ⟨hexit, hadds⟩ := ih (falls.grows.trans hfalls) hready
    have hswitch := Targets.Known.ofSwitch hready hexit
    obtain ⟨hfallback, hmore⟩ := ih' hfalls ⟨hswitch, hexit⟩
    obtain ⟨⟨-, hpaths⟩, hlast⟩ := ih'' hext ⟨hswitch, hfallback⟩
    exact ⟨⟨hpaths, hfallback⟩, (hadds.trans hmore).trans hlast⟩
  | iteration _ _ _ _ _ _ _ repeats continues hkey hadd _ ih ih' ih'' =>
    have hcontinues := (Program.extends_of_add hadd).trans hext
    have hrepeats := continues.grows.trans hcontinues
    have hloop : Program.Knows _ _ := .of_add hkey hadd hext
    obtain ⟨hexit, hadds⟩ := ih (repeats.grows.trans hrepeats) hready
    obtain ⟨hagain, hlast⟩ := ih'' hcontinues ((Targets.Known.blank _).with_next hloop)
    obtain ⟨hbody, hmore⟩ := ih' hrepeats (Targets.Known.ofLoop hloop hexit hagain)
    exact ⟨hloop, ((hadds.trans hmore).trans hlast).of_add hadd ⟨hbody, hexit⟩⟩
  | startLast _ _ _ | finish _ | set _ | exec _ | wait _ => exact ⟨trivial, .refl _ _⟩
  | start _ _ _ _ _ ih =>
    obtain ⟨-, hadds⟩ := ih ((Program.extends_awaiting _ _ _ _).trans hext) hready
    exact ⟨trivial, hadds⟩
  | «break» ht | «continue» ht => exact ⟨by simp [Job.Closed, Step.Closed, ht], .refl _ _⟩
  | subFlow _ _ ih => exact ih hext hready
  | noDefault => exact ⟨hready.2, .refl _ _⟩
  | default _ _ ih => exact ih hext (hready.1.with_next hready.2)
  | noCase => exact ⟨⟨hready.2, nofun⟩, .refl _ _⟩
  | case _ _ inner ih ih' =>
    obtain ⟨⟨hnext, hpaths⟩, hadds⟩ := ih (inner.grows.trans hext) hready
    obtain ⟨hown, hmore⟩ := ih' hext (hready.1.with_next hnext)
    exact ⟨⟨hown, List.forall_mem_cons.mpr ⟨hown, hpaths⟩⟩, hadds.trans hmore⟩
  | noActions | computedActions | actionNil | noItems | computedItems | itemNil | inert _ _ | postback _ _
  | reference _ _ _ => exact ⟨trivial, fun _ _ h => .inl h⟩
  | fixedActions _ ih | fixedItems _ ih => exact ⟨trivial, (ih hext hready).2⟩
  | actionCons _ later ih ih' | itemCons _ _ later ih ih' =>
    obtain ⟨-, hadds⟩ := ih (later.grows.trans hext) hready
    exact ⟨trivial, hadds.trans (ih' hext hready).2⟩
  | button _ _ _ _ _ _ _ ih =>
    obtain ⟨-, hadds⟩ := ih ((Program.extends_offering _ _ _ _).trans hext) (Targets.Known.ofAction hready _)
    exact ⟨trivial, hadds⟩

end Colloquy
