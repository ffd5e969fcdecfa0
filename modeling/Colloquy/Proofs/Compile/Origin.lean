import Colloquy.Proofs.Compile.Growth
import Colloquy.Proofs.Flow.Extras

/-!
# Where registered flows come from

Every flow that is registered while something is compiled is a sequence that was compiled from elements,
or the head of a loop. What holds of registered sequences is therefore a matter of how elements compile,
and the extra fields in them are those of the flow that was written.
-/

namespace Colloquy

private theorem Element.Follows.meaning {r : ExtrasRule} {e : Element} (h : e.Follows r) : e.meaning.Follows r := by
  fun_induction Element.meaning e with
  | case1 source e ih => exact ih h
  | case2 => exact h

private theorem Element.Follows.command {r : ExtrasRule} {e : Element} {c : Command} (h : e.Follows r)
    (hc : e.command? = some c) : c.Follows r := by
  have hmeaning := h.meaning
  unfold Element.command? at hc
  split at hc
  · rename_i heq
    cases hc
    rw [heq] at hmeaning
    exact hmeaning
  · cases hc

private theorem Element.Follows.subFlow {r : ExtrasRule} {e : Element} {id : String} {body : Flow} (h : e.Follows r)
    (hs : e.subFlow? = some (id, body)) : FlowFollows r body := by
  have hmeaning := h.meaning
  unfold Element.subFlow? at hs
  split at hs
  · rename_i heq
    cases hs
    rw [heq] at hmeaning
    exact hmeaning
  · cases hs

private theorem flowFollows_append {r : ExtrasRule} (first second : Flow) :
    FlowFollows r (first ++ second) ↔ FlowFollows r first ∧ FlowFollows r second := by
  induction first with
  | nil => simp [FlowFollows]
  | cons e rest ih => simp [FlowFollows, ih, and_assoc]

private theorem incrementFlow_follows (r : ExtrasRule) (increment : Fields) : FlowFollows r
    (incrementFlow increment) := by
  unfold incrementFlow
  split
  · trivial
  · exact ⟨trivial, trivial⟩

private theorem loopTail_follows (r : ExtrasRule) (body : Flow) (increment : Fields) :
    FlowFollows r (loopTail body increment) := by
  unfold loopTail
  split
  · trivial
  · exact incrementFlow_follows r increment

/-- Extra fields anywhere in a part of a flow follow a rule. -/
def Job.Follows (r : ExtrasRule) : Job → Prop
  | .flow f _ _ _ | .elements f _ _ _ _ | .continuation f _ _ _ _ => FlowFollows r f
  | .command c _ _ _ => c.Follows r
  | .fallback f _ _ _ _ => OptionFollows r f
  | .cases cs _ _ _ _ _ => CasesFollow r cs
  | .actions as _ _ _ => as.Follows r
  | .actionList as _ _ _ => ActionsFollow r as
  | .action a _ _ _ => a.Follows r
  | .items is _ _ _ => is.Follows r
  | .itemList is _ _ _ => ItemsFollow r is

inductive Origin (r : ExtrasRule) (s : Program) (key : String) : FlowHandler → Prop where
  /-- It was compiled from elements that follow a rule. -/
  | sequence {flow path targets index steps p q q'} (follows : FlowFollows r flow)
      (elements : Compiles (.elements flow path targets index steps) p q) (hkey : q.pathKey path = .ok key)
      (hadd : q.add key (.sequence key path steps targets) = .ok q') (later : q'.Extends s) :
      Origin r s key (.sequence key path steps targets)
  /-- It is the head of a loop. -/
  | loop {id path condition body exit} (hkey : s.pathKey path = .ok key) :
      Origin r s key (.loop id path condition body exit)

theorem Origin.pathKey {r : ExtrasRule} {s : Program} {key : String} {handler : FlowHandler}
    (h : Origin r s key handler) : ∃ path, s.pathKey path = .ok key := by
  cases h with
  | @sequence flow path _ _ _ _ _ _ _ elements hkey hadd later =>
    have hname := ((Program.extends_of_add hadd).trans later).name
    exact ⟨path, (Program.pathKey_congr hname path).trans hkey⟩
  | @loop _ path _ _ _ hkey => exact ⟨path, hkey⟩

theorem Origin.of_extends {r : ExtrasRule} {p q : Program} {key : String} {handler : FlowHandler}
    (h : Origin r p key handler) (hext : p.Extends q) : Origin r q key handler := by
  cases h with
  | sequence follows elements hkey hadd later => exact .sequence follows elements hkey hadd (later.trans hext)
  | loop hkey => exact .loop ((Program.pathKey_congr hext.name _).trans hkey)

/-- All that is registered after something was compiled was registered before, or its origin is known. -/
def Traces (r : ExtrasRule) (s p q : Program) : Prop :=
  ∀ key handler, q.flows.lookup key = some handler → p.flows.lookup key = some handler ∨ Origin r s key handler

namespace Traces

variable {r : ExtrasRule} {s p q q' : Program}

private theorem refl (r : ExtrasRule) (s p : Program) : Traces r s p p := fun _ _ h => .inl h

private theorem of_eq (h : q.flows = p.flows) : Traces r s p q := fun _ _ hl => .inl (h ▸ hl)

private theorem trans (h : Traces r s p q) (h' : Traces r s q q') : Traces r s p q' := fun key handler hl =>
  (h' key handler hl).elim (h key handler) .inr

private theorem add {key : String} {own : FlowHandler} (hadd : q.add key own = .ok q')
    (horigin : Origin r s key own) : Traces r s q q' := by
  intro other handler hl
  obtain ⟨-, rfl⟩ := Program.add_eq_ok.mp hadd
  cases hbefore : q.flows.lookup other with
  | some found =>
    simp only [List.lookup_append, hbefore, Option.some_or] at hl
    exact .inl hl
  | none =>
    simp only [List.lookup_append, hbefore, Option.none_or, List.lookup_cons, List.lookup_nil] at hl
    split at hl
    · rename_i heq
      obtain rfl := eq_of_beq heq
      cases hl
      exact .inr horigin
    · cases hl

end Traces

private theorem Compiles.traces {r : ExtrasRule} {job : Job} {p q s : Program} (h : Compiles job p q)
    (hfollows : job.Follows r) (hext : q.Extends s) : Traces r s p q := by
  induction h with
  | flow sound hown elements hkey hadd ih =>
    have hname := elements.grows.name
    obtain rfl := Except.ok.inj ((Program.pathKey_congr hname _).symm.trans hkey |>.symm.trans hown).symm
    have hlater := (Program.extends_of_add hadd).trans hext
    exact (ih hfollows hlater).trans (.add hadd (.sequence hfollows elements hkey hadd hext))
  | nil | startLast _ _ _ | finish _ | set _ | exec _ | wait _ | «break» _ | «continue» _ | noDefault | noCase
  | noActions | computedActions | actionNil | inert _ _ | postback _ _ | noItems | computedItems | itemNil =>
    exact .refl _ _ _
  | handler _ _ ih => exact ih hfollows.2 hext
  | last he _ _ ih => exact ih (hfollows.1.command he) hext
  | spliced hs _ _ ih => exact ih ((flowFollows_append _ _).mpr ⟨hfollows.1.subFlow hs, hfollows.2⟩) hext
  | unspliced _ _ _ ih | subFlow _ _ ih | default _ _ ih | fixedActions _ ih | fixedItems _ ih =>
    exact ih hfollows hext
  | plain he _ _ later ih ih' =>
    exact (ih (hfollows.1.command he) (later.grows.trans hext)).trans (ih' hfollows.2 hext)
  | terminal he _ _ _ _ _ ih => exact ih (hfollows.1.command he) hext
  | broken he _ _ _ first ih ih' =>
    exact (ih hfollows.2 (first.grows.trans hext)).trans (ih' (hfollows.1.command he) hext)
  | message _ _ later ih ih' =>
    exact (ih hfollows.2.1 (later.grows.trans hext)).trans (ih' hfollows.2.2 hext)
  | conditional _ _ _ _ second ih ih' =>
    exact (ih hfollows.1 (second.grows.trans hext)).trans (ih' hfollows.2 hext)
  | switch _ _ _ falls selects ih ih' ih'' =>
    have hfalls := selects.grows.trans hext
    exact ((ih trivial (falls.grows.trans hfalls)).trans (ih' hfollows.2 hfalls)).trans (ih'' hfollows.1 hext)
  | iteration _ _ _ _ _ _ _ repeats continues hkey hadd _ ih ih' ih'' =>
    have hadded := Program.extends_of_add hadd
    have hcontinues := hadded.trans hext
    have hrepeats := continues.grows.trans hcontinues
    refine ((ih trivial (repeats.grows.trans hrepeats)).trans (ih' ?_ hrepeats)).trans ?_
    · exact (flowFollows_append _ _).mpr ⟨hfollows, loopTail_follows r _ _⟩
    refine (ih'' (incrementFlow_follows r _) hcontinues).trans (.add hadd (.loop ?_))
    exact (Program.pathKey_congr hcontinues.name _).trans hkey
  | @start id target args resume _ _ _ _ _ _ _ _ _ _ _ ih =>
    have hresume : FlowFollows r (resume.getD []) := by
      cases resume with
      | none => trivial
      | some body => exact hfollows
    exact (ih hresume ((Program.extends_awaiting _ _ _ _).trans hext)).trans (.of_eq rfl)
  | case _ _ inner ih ih' =>
    exact (ih hfollows.2 (inner.grows.trans hext)).trans (ih' hfollows.1 hext)
  | actionCons _ later ih ih' =>
    exact (ih hfollows.1 (later.grows.trans hext)).trans (ih' hfollows.2 hext)
  | itemCons _ _ later ih ih' =>
    exact (ih hfollows.1.2 (later.grows.trans hext)).trans (ih' hfollows.2 hext)
  | reference _ _ _ => exact .of_eq rfl
  | @button info flow _ _ _ _ _ _ q _ _ _ _ _ _ _ ih =>
    have hflow : FlowFollows r (flow.getD []) := by
      cases flow with
      | none => trivial
      | some body => exact hfollows.2
    refine (ih hflow ((Program.extends_offering _ _ _ _).trans hext)).trans (.of_eq ?_)
    unfold Program.offering
    split <;> rfl

/-- The origin of every flow of a program is known. -/
def Program.Traced (r : ExtrasRule) (p : Program) : Prop :=
  ∀ key handler, p.flows.lookup key = some handler → Origin r p key handler

theorem Program.Traced.of_compiles {r : ExtrasRule} {job : Job} {p q : Program} (h : p.Traced r)
    (hjob : Compiles job p q) (hfollows : job.Follows r) : q.Traced r := fun key handler hl =>
  (hjob.traces hfollows (.refl q) key handler hl).elim (fun hl => (h key handler hl).of_extends hjob.grows) id

/-! ## Steps of a sequence -/

/-- How the steps of a sequence were formed: every step but the last one is a handler or a command that does not
break the sequence. Everything that was compiled for them is in a later program. -/
inductive Formed (r : ExtrasRule) (s : Program) (path : FlowPath) : List Step → Prop where
  | nil : Formed r s path []
  | jump (target : FlowPath) : Formed r s path [.jump target]
  | handler {fn steps} (rest : Formed r s path steps) : Formed r s path (.handler fn :: steps)
  | plain {c targets step steps p q} (follows : c.Follows r) (hb : c.breaksFlow = false)
      (compiled : Compiles (.command c path targets step) p q) (later : q.Extends s)
      (rest : Formed r s path steps) : Formed r s path (step :: steps)
  | last {c targets step p q} (follows : c.Follows r) (hb : c.breaksFlow = true)
      (compiled : Compiles (.command c path targets step) p q) (later : q.Extends s) : Formed r s path [step]

private theorem Compiles.formed {r : ExtrasRule} {s : Program} {flow : Flow} {path : FlowPath} {targets : Targets}
    {index : Nat} {steps : List Step} {p q : Program} (h : Compiles (.elements flow path targets index steps) p q)
    (hfollows : FlowFollows r flow) (hext : q.Extends s) : Formed r s path steps := by
  induction flow generalizing steps p with
  | nil =>
    cases h with
    | nil =>
      cases targets.next with
      | none => exact .nil
      | some target => exact .jump target
  | cons e rest ih =>
    cases h with
    | handler he later => exact .handler (ih later hfollows.2)
    | plain he hb first later =>
      exact .plain (hfollows.1.command he) hb first (later.grows.trans hext) (ih later hfollows.2)
    | last he hb first => exact .last (hfollows.1.command he) hb first hext
    | terminal he hb _ _ _ first => exact .last (hfollows.1.command he) hb first hext
    | broken he hb _ _ first => exact .last (hfollows.1.command he) hb first hext

theorem Formed.step_cases {r : ExtrasRule} {s : Program} {path : FlowPath} {steps : List Step}
    (h : Formed r s path steps)
    {step : Step} (hmem : step ∈ steps) :
    (∃ fn, step = .handler fn) ∨ (∃ target, step = .jump target) ∨
      ∃ c targets p q, c.Follows r ∧ Compiles (.command c path targets step) p q ∧ q.Extends s := by
  induction h with
  | nil => cases hmem
  | jump target =>
    obtain rfl := List.mem_singleton.mp hmem
    exact .inr (.inl ⟨target, rfl⟩)
  | handler _ ih =>
    rcases List.mem_cons.mp hmem with rfl | hmem
    · exact .inl ⟨_, rfl⟩
    · exact ih hmem
  | plain follows _ compiled later _ ih =>
    rcases List.mem_cons.mp hmem with rfl | hmem
    · exact .inr (.inr ⟨_, _, _, _, follows, compiled, later⟩)
    · exact ih hmem
  | last follows _ compiled later =>
    obtain rfl := List.mem_singleton.mp hmem
    exact .inr (.inr ⟨_, _, _, _, follows, compiled, later⟩)

/-- The steps of a registered sequence were formed by compiling. -/
theorem Program.Traced.formed {r : ExtrasRule} {p : Program} (h : p.Traced r) {key own : String} {path : FlowPath}
    {steps : List Step} {targets : Targets} (hl : p.flows.lookup key = some (.sequence own path steps targets)) :
    Formed r p path steps := by
  cases h key _ hl with
  | sequence follows elements hkey hadd later =>
    exact elements.formed follows ((Program.extends_of_add hadd).trans later)

end Colloquy
