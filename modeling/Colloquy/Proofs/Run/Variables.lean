import Colloquy.Proofs.Run.Points
import Colloquy.Proofs.Session.Variables

/-!
# Variables during a run

A run has its own variables, apart from those of the session. Both are changed by the same steps, which set variables
and save them, and nothing else changes either. So at every point of a run they agree, as long as nobody changes the
mapping of variables in place.
-/

namespace Colloquy

open Run

/-- A mapping still holds what it was made with. What its values hold may have changed. -/
def Heap.Unchanged (heap : Heap) (v : Value) : Prop :=
  ∃ id entries, v = .dict id entries ∧ heap.current v = .dict id (Entries.mapValues heap.current entries)

/-- The contract of all that leaves the variables of the session alone. -/
def Contract.keepsVariables : Contract where
  holds w := w.heap.Keyed
  allows w w' := w.heap.Grows w'.heap ∧ w.session.SameVariables w'.session
  stops _ := True
  holds_of_allows h h' := (h'.1 h).1
  trans h h' := ⟨h.1.trans h'.1, h.2.trans h'.2⟩
  aside hsession hheap := ⟨hheap, hsession ▸ .refl _⟩
  ordinary _ := trivial

/-- The functions of an application do not use the session, and they change objects as objects change. -/
def Application.LeavesVariables (app : Application) : Prop :=
  ∀ f bound w, (finalState (app.behave f bound w)).session = w.session ∧
    w.heap.Grows (finalState (app.behave f bound w)).heap

/-- A result does not bring other variables than those that a step was run with. -/
def StepResult.Keeps (vars : Value) : StepResult → Prop
  | .update _ => False
  | .jump _ vars' => vars' = vars
  | .done | .signal _ => True

def Step.sets : Step → Bool
  | .set .. | .iteration (some _) _ => true
  | _ => false

/-- All steps that are left at a point stay among registered flows. -/
def Point.Closed (p : Program) : Point → Prop
  | .flow _ _ => True
  | .steps sequence _ left | .assigned _ sequence _ left => ∀ step ∈ left, step.Closed sequence.targets p

/-- Variables of a run have the same values as those that a session shows handlers, under certain names. -/
def Session.Shows (s : Session) (heap : Heap) (vars : Value) (names : String → Prop) : Prop :=
  ∃ id entries, heap.current vars = .dict id entries ∧ ∀ name, names name →
    Entries.named? entries name = (Entries.named? (s.handlerVars .none) name).map heap.current

/-- The world in which variables were saved last on the way from one point of a run to another one; that of the first
point if none were saved. Saving is the last thing that a move does. -/
inductive Machine.SavedAt (m : Machine) (start : World × Point) : World × Point → World → Prop
  | start : SavedAt m start start start.1
  | saved {q q' : World × Point} {w : World} (before : SavedAt m start q w) (move : m.Moves q q')
      (new : q'.1.session.saves ≠ q.1.session.saves) : SavedAt m start q' q'.1
  | kept {q q' : World × Point} {w : World} (before : SavedAt m start q w) (move : m.Moves q q')
      (same : q'.1.session.saves = q.1.session.saves) : SavedAt m start q' w

theorem Machine.SavedAt.reaches {m : Machine} {start q : World × Point} {w : World} (h : m.SavedAt start q w) :
    m.Reaches start q := by
  induction h with
  | start => exact .refl
  | saved _ hmove _ ih => exact ih.tail hmove
  | kept _ hmove _ ih => exact ih.tail hmove

theorem Machine.Reaches.exists_savedAt {m : Machine} {start q : World × Point} (h : m.Reaches start q) :
    ∃ w, m.SavedAt start q w := by
  induction h with
  | refl => exact ⟨_, .start⟩
  | @tail q q' _ hmove ih =>
    obtain ⟨w, hsaved⟩ := ih
    by_cases hsame : q'.1.session.saves = q.1.session.saves
    · exact ⟨w, hsaved.kept hmove hsame⟩
    · exact ⟨_, hsaved.saved hmove hsame⟩

namespace Run

variable {α : Type} {x : Run α}

private theorem meets_keepsVariables (h : ∀ w : World, w.heap.Keyed →
    Contract.keepsVariables.allows w (finalState (x w))) : Meets .keepsVariables x := by
  intro w hw
  have hallows := h w hw
  cases hr : x w with
  | ok a w' =>
    rw [hr] at hallows
    exact ⟨hallows, trivial⟩
  | error e w' =>
    rw [hr] at hallows
    exact ⟨hallows, trivial⟩

end Run

private theorem Application.LeavesVariables.meets {app : Application} (h : app.LeavesVariables) :
    app.Meets .keepsVariables := fun f bound => meets_keepsVariables fun w _ =>
  Contract.keepsVariables.aside (h f bound w).1 (h f bound w).2

private theorem meets_onSession {effect : Effect Unit} (h : ∀ s : Session, s.SameVariables (finalState (effect s))) :
    Meets .keepsVariables (Run.onSession effect) := by
  refine meets_keepsVariables fun w _ => ?_
  have hsame := h w.session
  cases hr : effect w.session with
  | ok u s =>
    rw [hr] at hsame
    rw [onSession_ok hr]
    exact ⟨.refl _, hsame⟩
  | error e s =>
    rw [hr] at hsame
    rw [onSession_error hr]
    exact ⟨.refl _, hsame⟩

namespace Machine

variable {m : Machine} {w w' : World} {before : Session}

private theorem yields_expandSet (x : Expander) (param : Value) :
    (x.expandSet param).Yields fun v => ∃ n, v.IsObject n ∧ v.Filled := by
  unfold Expander.expandSet
  refine .bind fun param => .bind fun keys => .bind fun params => .bind fun values => .bind fun assigned => ?_
  rintro w v w' ⟨⟩
  exact ⟨w.heap.next, .inr ⟨_, rfl⟩, Value.owned_adoptEntries _ _⟩

private theorem setVariables_eq_ok (happ : m.app.LeavesVariables) (hkeyed : w.heap.Keyed) {at_ : FlowPath}
    {fields : Fields} {vars : Value} {values : Entries} (h : m.setVariables at_ fields vars w = .ok values w') :
    ∃ s s₁, w.session.SameVariables s ∧ w.heap.Grows w'.heap ∧ (∀ entry ∈ values, entry.2.Owned) ∧
      Session.setAll values s = .ok () s₁ ∧ w'.session = s₁.record (.saved ⟨s₁.globals, s₁.locals⟩) := by
  obtain ⟨v, w₁, hexpand, h⟩ := bind_eq_ok h
  have hkept := Expander.meets_expandSet (x := m.expander vars at_) happ.meets (.record fields) w hkeyed
  rw [hexpand] at hkept
  obtain ⟨⟨hgrows, hsame⟩, -⟩ := hkept
  obtain ⟨n, hobject, hfilled⟩ := yields_expandSet _ _ w v w₁ hexpand
  obtain ⟨hobject, hfilled⟩ := Heap.isObject_current (hgrows hkeyed).1 hobject hfilled
  rw [bind_ok (show Run.current v w₁ = .ok (w₁.heap.current v) w₁ from rfl)] at h
  obtain ⟨u, w₂, hsave, h⟩ := bind_eq_ok h
  cases h
  cases hr : Session.save (w₁.heap.current v) w₁.session with
  | error e s =>
    rw [onSession_error hr] at hsave
    cases hsave
  | ok u s =>
    rw [onSession_ok hr] at hsave
    cases hsave
    obtain ⟨s₁, hset, rfl⟩ := Session.save_object_eq_ok hobject hr
    refine ⟨w₁.session, s₁, hsame, hgrows, ?_, hset, rfl⟩
    obtain ⟨items, heq⟩ | ⟨entries, heq⟩ := hobject
    · rw [heq]
      nofun
    · rw [heq] at hfilled ⊢
      exact hfilled

/-! ## Variables that agree -/

/-- Variables of a run agree with those of the session: under every name they have the same value, but for the name of
the value that the run was resumed with. -/
def InStep (w : World) (entries : Entries) : Prop := ∀ name, name ≠ "value" →
  (Entries.named? entries name).map w.heap.current =
    (Entries.named? (w.session.handlerVars .none) name).map w.heap.current

private theorem InStep.of_allows {entries : Entries} (h : InStep w entries) (hkeyed : w.heap.Keyed)
    (hallows : Contract.keepsVariables.allows w w') : InStep w' entries := by
  intro name hname
  have hcurrent : (fun v => w'.heap.current (w.heap.current v)) = w'.heap.current :=
    funext (hallows.1.current_current hkeyed)
  have hsame := congrArg (Option.map w'.heap.current) (h name hname)
  rw [Option.map_map, Option.map_map] at hsame
  rw [hallows.2.handlerVars, ← hcurrent]
  exact hsame

private theorem InStep.setVariables {entries : Entries} (h : InStep w entries) (happ : m.app.LeavesVariables)
    (hkeyed : w.heap.Keyed) (horderly : w.session.Orderly) {at_ : FlowPath} {fields : Fields} {vars : Value}
    {values : Entries} (hset : m.setVariables at_ fields vars w = .ok values w') :
    InStep w' (Entries.merge entries values) := by
  obtain ⟨s, s₁, hsame, hgrows, howned, hset, hsession⟩ := setVariables_eq_ok happ hkeyed hset
  intro name hname
  have hbefore : InStep { w' with session := s } entries := h.of_allows hkeyed ⟨hgrows, hsame⟩
  have hvars : w'.session.handlerVars .none = s₁.handlerVars .none := by
    rw [hsession]
    rfl
  rw [hvars, (horderly.of_entriesIn hsame.entriesIn).named?_setAll howned hset]
  exact Entries.map_named?_merge (hbefore name hname) values

private theorem overlay_eq {vars : Value} {id : Identity} {entries values : Entries}
    (hcurrent : w.heap.current vars = .dict id entries) (hentries : ∀ entry ∈ entries, entry.2.Owned)
    (hvalues : ∀ entry ∈ values, entry.2.Owned) :
    overlay vars values w = .ok (.dict (.object w.heap.next) (Entries.merge entries values))
      { w with heap := { w.heap with next := w.heap.next + 1 } } := by
  unfold overlay
  rw [bind_ok (show Run.current vars w = .ok (w.heap.current vars) w from rfl), hcurrent]
  have hstore : Run.store (.dict .anonymous (Entries.merge entries values)) w =
      .ok (.dict (.object w.heap.next) (Value.adoptEntries false (w.heap.next + 1) (Entries.merge entries values)).1)
        { w with heap := { w.heap with
          next := (Value.adoptEntries false (w.heap.next + 1) (Entries.merge entries values)).2 } } := rfl
  exact hstore.trans (by rw [Value.adoptEntries_of_owned (Entries.forall_merge hentries hvalues)])

/-! ## Points at which variables agree -/

private theorem admitsStep_of_not_sets (happ : m.app.Meets .keepsVariables) {step : Step} (h : step.sets = false) :
    Contract.keepsVariables.AdmitsStep m step := by
  cases step with
  | message plan =>
    intro vars
    rw [deliver_eq]
    refine (meets_assemble happ plan vars).bind fun message => (meets_current message).bind fun sent => ?_
    exact (meets_onSession (Session.send_sameVariables sent)).bind fun _ => .pure message
  | start => exact fun dialog tag locals => meets_onSession (Session.start_sameVariables dialog tag locals)
  | finish => exact fun result => meets_onSession (Session.finish_sameVariables result)
  | wait =>
    intro seconds
    exact meets_keepsVariables fun w _ =>
      ⟨.refl _, Session.sameVariables_record (.waited seconds) nofun w.session⟩
  | set => cases h
  | iteration init loop =>
    cases init with
    | none => trivial
    | some => cases h
  | _ => trivial

private theorem yields_runStep {step : Step} (h : step.sets = false) (path : FlowPath) (vars : Value) :
    (m.runStep path vars step).Yields (StepResult.Keeps vars) := by
  cases step with
  | handler fn => exact .bind fun _ => .pure trivial
  | message plan =>
    refine .bind fun message => ?_
    split
    · refine .bind fun offers => ?_
      cases offers with
      | true => exact .pure trivial
      | false => exact .pure rfl
    · exact .pure trivial
  | conditional => exact .bind fun _ => .pure rfl
  | switch => exact .bind fun _ => .bind fun _ => .bind fun _ => .pure rfl
  | iteration init loop =>
    cases init with
    | none => exact .pure rfl
    | some => cases h
  | start => exact .bind fun _ => .bind fun _ => .bind fun _ => .bind fun _ => .bind fun _ => .bind fun _ => .pure trivial
  | finish => exact .bind fun _ => .bind fun _ => .bind fun _ => .pure trivial
  | set => cases h
  | exec => exact .bind fun _ => .pure trivial
  | wait => exact .bind fun _ => .bind fun _ => .bind fun _ => .pure trivial
  | signal s => exact .pure trivial
  | jump target => exact .pure rfl

/-- A point of a run at which its variables agree with those of the session, and the session has been saved since the
run began if anything was set. -/
structure Consistent (m : Machine) (before : Session) (w : World) (point : Point) : Prop where
  keyed : w.heap.Keyed
  orderly : w.session.Orderly
  persisted : before.Persisted w.session
  closed : point.Closed m.program
  pending : ∀ entry ∈ point.pending, entry.2.Owned
  bindings : ∃ n entries, point.vars = .dict (.object n) entries ∧ (∀ entry ∈ entries, entry.2.Owned) ∧
    InStep w (Entries.merge entries point.pending)

/-- At a consistent point the session shows the variables, once all values that were set are on top of them. -/
theorem Consistent.shows {point : Point} (h : m.Consistent before w point) (hunchanged : w.heap.Unchanged point.vars)
    (hpending : point.pending = []) : w.session.Shows w.heap point.vars (· ≠ "value") := by
  obtain ⟨n, entries, hentries, -, hinStep⟩ := h.bindings
  obtain ⟨id, own, hown, hcurrent⟩ := hunchanged
  obtain ⟨rfl, rfl⟩ : Identity.object n = id ∧ entries = own := by
    simpa using hentries.symm.trans hown
  rw [hpending] at hinStep
  refine ⟨_, _, hcurrent, fun name hname => ?_⟩
  rw [Entries.named?_mapValues]
  exact hinStep name hname

private theorem Consistent.of_allows {point point' : Point} (h : m.Consistent before w point)
    (hallows : Contract.keepsVariables.allows w w') (hvars : point'.vars = point.vars)
    (hpending : point'.pending = point.pending) (hclosed : point'.Closed m.program) :
    m.Consistent before w' point' := by
  obtain ⟨n, entries, hentries, howned, hinStep⟩ := h.bindings
  exact {
    keyed := (hallows.1 h.keyed).1
    orderly := h.orderly.of_entriesIn hallows.2.entriesIn
    persisted := h.persisted.keep hallows.2.saves (hallows.2.entriesIn .globals) (hallows.2.entriesIn .locals)
    closed := hclosed
    pending := hpending ▸ h.pending
    bindings := ⟨n, entries, hvars.trans hentries, howned, hpending ▸ hinStep.of_allows h.keyed hallows⟩ }

private theorem Consistent.assigned {sequence : Sequence} {vars : Value} {steps rest : List Step}
    (h : m.Consistent before w (.steps sequence vars steps)) (happ : m.app.LeavesVariables) {at_ : FlowPath}
    {fields : Fields} {values : Entries} (hset : m.setVariables at_ fields vars w = .ok values w')
    (hrest : ∀ step ∈ rest, step.Closed sequence.targets m.program) :
    m.Consistent before w' (.assigned values sequence vars rest) := by
  obtain ⟨n, entries, hentries, howned, hinStep⟩ := h.bindings
  obtain ⟨s, s₁, hsame, hgrows, hvalues, hsetAll, hsession⟩ := setVariables_eq_ok happ h.keyed hset
  have horderly := (h.orderly.of_entriesIn hsame.entriesIn).after_setAll hvalues
  have hquiet := s.assigns_setAll values
  rw [hsetAll] at horderly hquiet
  have hsaves : s₁.saves = w.session.saves := by
    rw [← hsame.saves, Session.saves, Session.saves, hquiet.history]
  exact {
    keyed := (hgrows h.keyed).1
    orderly := hsession ▸ horderly.of_entriesIn (Session.entriesIn_record s₁ _)
    persisted := hsession ▸ .saved (hsaves ▸ h.persisted.saves)
    closed := hrest
    pending := hvalues
    bindings := ⟨n, entries, hentries, howned, hinStep.setVariables happ h.keyed h.orderly hset⟩ }

private theorem Consistent.overlaid {sequence : Sequence} {vars vars' : Value} {steps : List Step} {values : Entries}
    (h : m.Consistent before w (.assigned values sequence vars steps)) (hunchanged : w.heap.Unchanged vars)
    (hoverlay : overlay vars values w = .ok vars' w') : m.Consistent before w' (.steps sequence vars' steps) := by
  obtain ⟨n, entries, hentries, howned, hinStep⟩ := h.bindings
  obtain ⟨id, own, hown, hcurrent⟩ := hunchanged
  obtain ⟨rfl, rfl⟩ : Identity.object n = id ∧ entries = own := by
    simpa using hentries.symm.trans hown
  -- what is read of a mapping holds objects that are there already, so none of them is stored once more
  have howned' : ∀ entry ∈ Entries.mapValues w.heap.current entries, entry.2.Owned := by
    intro entry hentry
    obtain ⟨entry, hmem, rfl⟩ := List.mem_map.mp hentry
    exact Heap.owned_current h.keyed (howned entry hmem)
  have hvalues : ∀ entry ∈ values, entry.2.Owned := h.pending
  rw [overlay_eq hcurrent howned' hvalues] at hoverlay
  cases hoverlay
  have hallows : Contract.keepsVariables.allows w { w with heap := { w.heap with next := w.heap.next + 1 } } :=
    ⟨.of_contents rfl, .refl _⟩
  exact {
    keyed := (hallows.1 h.keyed).1
    orderly := h.orderly
    persisted := h.persisted
    closed := h.closed
    pending := nofun
    bindings := by
      refine ⟨_, _, rfl, Entries.forall_merge howned' h.pending, fun name hname => ?_⟩
      rw [← hinStep.of_allows h.keyed hallows name hname]
      refine Entries.map_named?_merge ?_ values
      rw [Entries.named?_mapValues, Option.map_map]
      exact congrArg (fun f => Option.map f _) (funext (hallows.1.current_current h.keyed)) }

private theorem after_eq_ok {sequence : Sequence} {vars : Value} {rest : List Step} {result : StepResult}
    {point : Point} {p : Program} (hkeeps : result.Keeps vars) (hrest : ∀ step ∈ rest, step.Closed sequence.targets p)
    (h : sequence.after vars rest result w = .ok (some point) w') :
    w = w' ∧ point.vars = vars ∧ point.pending = [] ∧ point.Closed p := by
  cases result with
  | done =>
    cases h
    exact ⟨rfl, rfl, rfl, hrest⟩
  | update => exact hkeeps.elim
  | jump target vars' =>
    cases h
    exact ⟨rfl, hkeeps, rfl, trivial⟩
  | signal s =>
    obtain ⟨target, htarget⟩ : ∃ target : Option FlowPath, sequence.after vars rest (.signal s) =
        target.elim (throw (.escapedSequence s sequence.key)) fun own => pure (some (.flow own.toValue vars)) := by
      unfold Sequence.after
      cases s with
      | «break» => exact ⟨sequence.targets.breakTo, by cases sequence.targets.breakTo <;> rfl⟩
      | «continue» => exact ⟨sequence.targets.continueTo, by cases sequence.targets.continueTo <;> rfl⟩
    rw [htarget] at h
    cases target <;> cases h
    exact ⟨rfl, rfl, rfl, trivial⟩

section Moves

variable {point : Point} (happ : m.app.LeavesVariables)
include happ

private theorem Consistent.move_flow (hclosed : m.program.Closed) {path vars : Value}
    (h : m.Consistent before w (.flow path vars))
    (hmove : m.move (.flow path vars) w = .ok (some point) w') : m.Consistent before w' point := by
  obtain ⟨handler, w₁, hfind, hmove⟩ := bind_eq_ok hmove
  cases hhandler : m.program.find path with
  | error e =>
    rw [hhandler] at hfind
    cases hfind
  | ok own =>
    rw [hhandler] at hfind
    cases hfind
    obtain ⟨key, -, hl⟩ := Program.find_eq_ok.mp hhandler
    have hown := hclosed key handler hl
    cases handler with
    | sequence key own steps targets =>
      cases hmove
      exact h.of_allows (Contract.keepsVariables.refl w) rfl rfl hown.1
    | loop id at_ condition body exit =>
      obtain ⟨passed, w₂, hholds, hmove⟩ := bind_eq_ok hmove
      cases hmove
      have hkept := meets_holds happ.meets at_ condition vars w h.keyed
      rw [hholds] at hkept
      exact h.of_allows hkept.1 rfl rfl trivial
    | external fn => exact hown.elim

private theorem Consistent.move_step {sequence : Sequence} {vars : Value} {step : Step} {rest : List Step}
    (h : m.Consistent before w (.steps sequence vars (step :: rest)))
    (hmove : m.move (.steps sequence vars (step :: rest)) w = .ok (some point) w') : m.Consistent before w' point := by
  obtain ⟨hstep, hrest⟩ := List.forall_mem_cons.mp h.closed
  cases hsets : step.sets with
  | false =>
    -- the session keeps its variables and nothing is left to be put on top of those of the run
    have hinit (entry : FlowPath × Fields) (loop : FlowPath) : step ≠ .iteration (some entry) loop := by
      rintro rfl
      cases hsets
    rw [move_steps step hinit] at hmove
    obtain ⟨result, w₁, hrun, hmove⟩ := bind_eq_ok hmove
    have hkept := ensures_runStep happ.meets (admitsStep_of_not_sets happ.meets hsets) hstep sequence.path vars w h.keyed
    rw [hrun] at hkept
    obtain ⟨rfl, hvars, hpending, hclosed⟩ :=
      after_eq_ok (yields_runStep hsets sequence.path vars w result w₁ hrun) hrest hmove
    exact h.of_allows hkept.1 hvars hpending hclosed
  | true =>
    cases step with
    | set at_ fields =>
      obtain ⟨result, w₁, hrun, hmove⟩ := bind_eq_ok hmove
      obtain ⟨values, w₂, hset, hresult⟩ := bind_eq_ok hrun
      cases hresult
      cases hmove
      exact h.assigned happ hset hrest
    | iteration init loop =>
      cases init with
      | none => cases hsets
      | some entry =>
        obtain ⟨values, w₁, hset, hmove⟩ := bind_eq_ok hmove
        cases hmove
        exact h.assigned happ hset (List.forall_mem_cons.mpr ⟨hstep, hrest⟩)
    | _ => cases hsets

private theorem Consistent.move {point' : Point} (hclosed : m.program.Closed) (h : m.Consistent before w point)
    (hunchanged : w.heap.Unchanged point.vars) (hmove : m.move point w = .ok (some point') w') :
    m.Consistent before w' point' := by
  cases point with
  | flow path vars => exact h.move_flow happ hclosed hmove
  | steps sequence vars steps =>
    cases steps with
    | nil => cases hmove
    | cons step rest => exact h.move_step happ hmove
  | assigned values sequence vars steps =>
    obtain ⟨vars', w₁, hoverlay, hmove⟩ := bind_eq_ok hmove
    cases hmove
    exact h.overlaid hunchanged hoverlay

/-- Variables agree all along a run on which they remain unchanged. -/
theorem Consistent.reaches {q q' : World × Point} (hclosed : m.program.Closed) (h : m.Consistent before q.1 q.2)
    (hreaches : m.Reaches q q') (hunchanged : ∀ r, m.Reaches q r → r.1.heap.Unchanged r.2.vars) :
    m.Consistent before q'.1 q'.2 := by
  induction hreaches with
  | refl => exact h
  | tail hreaches hmoves ih => exact ih.move happ hclosed (hunchanged _ hreaches) hmoves

end Moves

theorem consistent_enter (hkeyed : w.heap.Keyed) (horderly : w.session.Orderly) (path : Value) {value vars : Value}
    (henter : enter value w = .ok vars w') : m.Consistent w.session w' (.flow path vars) := by
  obtain ⟨w₀, w₁, hget, hstore⟩ := bind_eq_ok henter
  cases hget
  have hstored : Run.store (.dict .anonymous (w.session.handlerVars value)) w =
      .ok (.dict (.object w.heap.next)
          (Value.adoptEntries false (w.heap.next + 1) (w.session.handlerVars value)).1)
        { w with heap := { w.heap with
          next := (Value.adoptEntries false (w.heap.next + 1) (w.session.handlerVars value)).2 } } := rfl
  rw [hstored] at hstore
  cases hstore
  -- the variables are a copy of what the session shows, in which objects of the session stay what they are
  refine ⟨hkeyed, horderly, .refl _, trivial, nofun, _, _, rfl, Value.owned_adoptEntries _ _, fun name hname => ?_⟩
  have hvalue := Session.named?_handlerVars_of_ne w.session hname value
  have howned (v : Value) (hv : Entries.named? (w.session.handlerVars value) name = some v) : v.Owned := by
    obtain ⟨k, hmem⟩ := Entries.mem_of_named? (hvalue ▸ hv)
    exact horderly.owned_handlerVars _ hmem
  have hadopt := Value.named?_adoptEntries howned (w.heap.next + 1)
  exact congrArg (Option.map _) (hadopt.trans hvalue)

end Machine

end Colloquy
