import Colloquy.Proofs.Compile.Regions

/-!
# Flows with default ids

Each command that has flows inside compiles them under its own id, and each continuation has a number. So if all
such ids are the default ones, no two flows are compiled at the same path, however deeply they are nested and
however long the sequences are.
-/

namespace Colloquy

/-- Whether a fixed action among actions may run a flow. -/
def Actions.offersFlow : Actions → Bool
  | .fixed actions => actions.any (·.info.kind.carriesFlow)
  | _ => false

def caseIds : List Case → List String
  | [] => []
  | .mk id _ _ :: rest => id :: caseIds rest

/-- Ids under which a switch compiles flows of its own, not those of cases. -/
def switchIds : List String := ["end", "default"]

mutual

/-- All commands in an element that compile flows have their default ids; there are no explicit flows, and no
fixed replies or postbacks. Ids of other commands do not matter, as nothing is compiled under them. -/
def Element.TakesDefaultIds : Element → Prop
  | .command c => c.TakesDefaultIds
  | .handler _ => True
  | .deferred _ meaning => meaning.TakesDefaultIds
  | .invalid .. => False

/-- A command that compiles flows has its default id, and so have those inside. -/
def Command.TakesDefaultIds : Command → Prop
  | .message _ _ _ actions items =>
    actions.offersFlow = false ∧ ∀ item ∈ items.list, item.actions.offersFlow = false
  | .conditional id _ yes no => id = "if" ∧ FlowTakesDefaultIds yes ∧ FlowTakesDefaultIds no
  | .switch id _ cases default =>
    id = "switch" ∧ (caseIds cases).Nodup ∧ (∀ id ∈ caseIds cases, id ∉ switchIds ∧ FlowPath.isAbsolute id = false) ∧
      CasesTakeDefaultIds cases ∧ OptionTakesDefaultIds default
  | .iteration id _ _ _ body => id = "loop" ∧ FlowTakesDefaultIds body
  | .start id _ _ resume => id = "start" ∧ OptionTakesDefaultIds resume
  | .finish .. | .set .. | .exec .. | .wait .. | .break _ | .continue _ => True
  | .flow .. => False

def FlowTakesDefaultIds : List Element → Prop
  | [] => True
  | e :: rest => e.TakesDefaultIds ∧ FlowTakesDefaultIds rest

/-- All commands of a flow that may be missing have their default ids. -/
def OptionTakesDefaultIds : Option (List Element) → Prop
  | none => True
  | some flow => FlowTakesDefaultIds flow

def CasesTakeDefaultIds : List Case → Prop
  | [] => True
  | .mk _ _ body :: rest => FlowTakesDefaultIds body ∧ CasesTakeDefaultIds rest

end

/-- Default ids of the commands that compile flows under their ids. -/
def branchIds : List String := ["if", "switch", "loop", "start"]

def continuationId (index : Nat) : String := "flow" ++ toString index

theorem continuationId_relative (index : Nat) : FlowPath.isAbsolute (continuationId index) = false := by
  simp [continuationId, FlowPath.isAbsolute, String.toList_append]

private theorem continuationId_not_branch (index : Nat) : continuationId index ∉ branchIds := by
  intro hmem
  have hhead : (continuationId index).toList.head? = some 'f' := by simp [continuationId, String.toList_append]
  have hothers : ∀ id ∈ branchIds, id.toList.head? ≠ some 'f' := by decide
  exact hothers _ hmem hhead

section Trees

variable {e : Element} {flow first second : Flow}

private theorem Element.TakesDefaultIds.meaning (h : e.TakesDefaultIds) : e.meaning.TakesDefaultIds := by
  fun_induction Element.meaning e with
  | case1 source e ih => exact ih h
  | case2 => exact h

private theorem Element.TakesDefaultIds.command {c : Command} (h : e.TakesDefaultIds) (hc : e.command? = some c) :
    c.TakesDefaultIds := by
  have hmeaning := h.meaning
  unfold Element.command? at hc
  split at hc
  · rename_i heq
    cases hc
    rw [heq] at hmeaning
    exact hmeaning
  · cases hc

private theorem Element.TakesDefaultIds.subFlow (h : e.TakesDefaultIds) : e.subFlow? = none := by
  have hmeaning := h.meaning
  unfold Element.subFlow?
  split
  · rename_i heq
    rw [heq] at hmeaning
    exact hmeaning.elim
  · rfl

private theorem Element.TakesDefaultIds.fault (h : e.TakesDefaultIds) : e.fault? = none := by
  have hmeaning := h.meaning
  unfold Element.fault?
  split
  · rename_i heq
    rw [heq] at hmeaning
    exact hmeaning.elim
  · rfl

private theorem flowTakesDefaultIds_append :
    FlowTakesDefaultIds (first ++ second) ↔ FlowTakesDefaultIds first ∧ FlowTakesDefaultIds second := by
  induction first with
  | nil => simp [FlowTakesDefaultIds]
  | cons e rest ih => simp [FlowTakesDefaultIds, ih, and_assoc]

private theorem incrementFlow_takesDefaultIds (increment : Fields) : FlowTakesDefaultIds (incrementFlow increment) := by
  unfold incrementFlow
  split
  · trivial
  · exact ⟨trivial, trivial⟩

private theorem loopTail_takesDefaultIds (body : Flow) (increment : Fields) : FlowTakesDefaultIds
    (loopTail body increment) := by
  unfold loopTail
  split
  · trivial
  · exact incrementFlow_takesDefaultIds increment

private theorem findSome?_fault (h : FlowTakesDefaultIds flow) : flow.findSome? Element.fault? = none := by
  induction flow with
  | nil => rfl
  | cons e rest ih => rw [List.findSome?_cons, h.1.fault, ih h.2]

end Trees

open Compile

private theorem quiet_checkFlow {flow : Flow} (h : FlowTakesDefaultIds flow) : Quiet (checkFlow flow) := by
  unfold checkFlow
  rw [findSome?_fault h]
  exact .pure ()

/-! ## Messages -/

private theorem quiet_compileAction {a : Action} (h : a.info.kind.carriesFlow = false) (path : FlowPath)
    (targets : Targets) :
    Quiet (compileAction a path targets) := by
  obtain ⟨info, flow⟩ := a
  rw [compileAction.eq_def]
  simp only [show info.kind.carriesFlow = false from h, Bool.not_false, if_true]
  split
  · exact .throw fun _ h => by cases h
  · exact .pure _

private theorem quiet_compileActionList {actions : List Action} (h : ∀ a ∈ actions, a.info.kind.carriesFlow = false)
    (path : FlowPath) (targets : Targets) : Quiet (compileActionList actions path targets) := by
  induction actions with
  | nil =>
    rw [compileActionList]
    exact .pure _
  | cons a rest ih =>
    rw [compileActionList]
    refine (quiet_compileAction (h a List.mem_cons_self) path targets).before fun params => ?_
    exact (ih fun a ha => h a (List.mem_cons_of_mem _ ha)).before fun more => .pure _

private theorem quiet_compileActions {actions : Actions} (h : actions.offersFlow = false) (path : FlowPath)
    (targets : Targets) : Quiet (compileActions actions path targets) := by
  cases actions with
  | absent | computed =>
    rw [compileActions]
    exact .pure _
  | fixed list =>
    rw [compileActions]
    refine (quiet_compileActionList (fun a ha => ?_) path targets).before fun _ => .pure _
    simpa using List.any_eq_false.mp h a ha

private theorem quiet_compileItems {items : List Item} (h : ∀ item ∈ items, item.actions.offersFlow = false)
    (path : FlowPath) (targets : Targets) : Quiet (compileItems items path targets) := by
  induction items with
  | nil =>
    rw [compileItems]
    exact .pure _
  | cons item rest ih =>
    obtain ⟨info, actions⟩ := item
    rw [compileItems]
    refine Quiet.before (.ofExcept (info.misnames_actionRoot actions path).ordinary) fun root => ?_
    refine (quiet_compileActions (h _ List.mem_cons_self) root targets).before fun plan => ?_
    exact (ih fun item hitem => h item (List.mem_cons_of_mem _ hitem)).before fun plans => .pure _

/-! ## Commands and flows -/

private theorem quiet_compileCommand {c : Command} (h : c.TakesDefaultIds) (hb : c.breaksFlow = false) (path : FlowPath)
    (targets : Targets) : Quiet (compileCommand c path targets) := by
  cases c with
  | set | exec | wait =>
    rw [compileCommand.eq_def]
    exact (quiet_append path _).before fun _ => .pure _
  | message kind id body actions items =>
    rw [compileCommand.eq_def]
    refine (quiet_append path id).before fun own => (quiet_compileActions h.1 path targets).before fun plan => ?_
    cases items with
    | absent | computed => exact .pure _
    | fixed list => exact (quiet_compileItems h.2 path targets).before fun _ => .pure _
  | _ => cases hb

mutual

theorem within_compileFlow {flow : Flow} (h : FlowTakesDefaultIds flow) {path : FlowPath} (hpath : path.Plain)
    (targets : Targets) (index : Nat) : Within path.Under (compileFlow flow path targets index) := by
  rw [compileFlow]
  have helements := within_compileElements h hpath targets index
  refine (quiet_checkFlow h).before fun _ => (quiet_key path).before fun key => ?_
  refine (helements.bind (fun steps => within_register hpath _) ?_).mono fun other hin => ?_
  · rintro other hin rfl
    exact FlowPath.not_beneath_self hin
  · exact hin.elim FlowPath.Beneath.under FlowPath.under_of_eq
termination_by (flowWeight flow, 2)

/-- The elements of a sequence are compiled under the ids of branches and continuations. -/
theorem within_compileElements {flow : Flow} (h : FlowTakesDefaultIds flow) {path : FlowPath} (hpath : path.Plain)
    (targets : Targets) (index : Nat) :
    Within (path.Beneath fun _ => True) (compileElements flow path targets index) := by
  match flow with
  | [] =>
    rw [compileElements]
    exact .pure _
  | e :: rest =>
    have hpos := e.weight_pos
    cases he : e.command? with
    | none =>
      rw [compileElements_handler he]
      exact (within_compileElements h.2 hpath targets index).before fun _ => .pure _
    | some c =>
      have hc := h.1.command he
      have hle := Element.weight_le_of_command? he
      have hcommand (targets : Targets) : Within (path.Beneath (· ∈ branchIds)) (compileCommand c path targets) :=
        within_compileCommand hc hpath targets
      cases hb : c.breaksFlow with
      | false =>
        rw [compileElements_plain he hb]
        refine (quiet_compileCommand hc hb path targets).before fun step => ?_
        exact (within_compileElements h.2 hpath targets index).before fun _ => .pure _
      | true =>
        match rest with
        | [] =>
          rw [compileElements_last he hb]
          refine ((hcommand targets).before fun step => .pure _).mono fun _ hin => hin.mono fun _ _ => trivial
        | next :: rest =>
          cases ht : c.isTerminal with
          | true =>
            rw [compileElements_terminal he hb ht]
            have hwarn (message : String) : Quiet (warn message) := .modify (fun _ => rfl) fun _ => rfl
            refine (quiet_key path).before fun key => (hwarn _).before fun _ => ?_
            exact ((hcommand targets).before fun step => .pure _).mono fun _ hin => hin.mono fun _ _ => trivial
          | false =>
            rw [compileElements_broken he hb ht]
            have hrest := within_compileContinuation h.2 hpath targets (index + 1)
            refine (hrest.beside (fun own => (hcommand _).before fun step => .pure _) ?_).mono
              fun _ hin => hin.mono fun _ _ => trivial
            rintro _ rfl
            exact continuationId_not_branch _
termination_by (flowWeight flow, 1)
decreasing_by
  all_goals
    simp only [flowWeight, Prod.lex_def]
    omega

/-- The rest of a sequence is compiled under the id of its continuation. -/
theorem within_compileContinuation {rest : Flow} (h : FlowTakesDefaultIds rest) {path : FlowPath}
    (hpath : path.Plain) (targets : Targets) (index : Nat) :
    Within (path.Beneath (· = continuationId index)) (compileContinuation rest path targets index) := by
  match rest with
  | [] =>
    rw [compileContinuation]
    exact .pure _
  | first :: tail =>
    rw [compileContinuation_unspliced h.1.subFlow]
    refine .append hpath (continuationId_relative index) fun hown => ?_
    exact (within_compileFlow h hown targets index).beneath.before fun _ => .pure _
termination_by (flowWeight rest, 3)
decreasing_by
  exact Prod.Lex.right _ (by omega)

theorem within_compileCommand {c : Command} (h : c.TakesDefaultIds) {path : FlowPath} (hpath : path.Plain)
    (targets : Targets) : Within (path.Beneath (· ∈ branchIds)) (compileCommand c path targets) := by
  match c with
  | .message kind id body actions items =>
    rw [compileCommand.eq_def]
    refine Quiet.within ?_
    refine (quiet_append path id).before fun own => (quiet_compileActions h.1 path targets).before fun plan => ?_
    cases items with
    | absent | computed => exact .pure _
    | fixed list => exact (quiet_compileItems h.2 path targets).before fun _ => .pure _
  | .conditional id test yes no =>
    obtain ⟨rfl, hyes, hno⟩ := h
    rw [compileCommand.eq_def]
    refine .append hpath rfl fun hroot => .append hroot rfl fun hthen => .append hroot rfl fun helse => ?_
    have hfirst := (within_compileFlow hyes hthen targets 0).beneath
    have hsecond := (within_compileFlow hno helse targets 0).beneath
    refine Within.descend (hfirst.beside (fun _ => hsecond.before fun _ => .pure _) ?_) (by decide)
    rintro _ rfl
    decide
  | .switch id value cases default =>
    obtain ⟨rfl, hdistinct, hids, hcases, hdefault⟩ := h
    rw [compileCommand.eq_def]
    refine .append hpath rfl fun hroot => .append hroot rfl fun hexit => ?_
    have hempty := (within_compileFlow (show FlowTakesDefaultIds [] from trivial) hexit targets 0).beneath
    have hselects (targets : Targets) (next : FlowPath) :=
      within_compileCases hcases hdistinct (fun id hid => (hids id hid).2) hroot targets next
    have hapart (id : String) (hid : id ∈ switchIds) : id ∉ caseIds cases := fun hmem => (hids id hmem).1 hid
    refine Within.descend (hempty.beside (T := fun id => id = "default" ∨ id ∈ caseIds cases) (fun _ => ?_) ?_)
      (by decide)
    · cases hsome : default with
      | none =>
        exact ((hselects _ _).before fun _ => .pure _).mono fun _ hin => hin.mono fun _ => .inr
      | some body =>
        have hweight : flowWeight body = optionWeight default := by rw [hsome, optionWeight]
        rw [hsome] at hdefault
        refine .append hroot rfl fun hown => ?_
        refine (within_compileFlow hdefault hown _ 0).beneath.beside (fun _ => ?_) ?_
        · exact (hselects _ _).before fun _ => .pure _
        · rintro _ rfl
          exact hapart _ (by decide)
    · rintro _ rfl
      exact not_or.mpr ⟨by decide, hapart _ (by decide)⟩
  | .iteration id init condition increment body =>
    obtain ⟨rfl, hbody⟩ := h
    have htail := flowWeight_loopTail_le body increment
    have hincrement := flowWeight_incrementFlow_le increment
    rw [compileCommand.eq_def]
    refine .append hpath rfl fun hroot => .append hroot rfl fun hloop => .append hroot rfl fun hdo => ?_
    refine .append hroot rfl fun hagain => .append hroot rfl fun hexit => ?_
    refine Quiet.before (.ofExcept (unkeyed_incrementValues? increment).ordinary) fun _ => ?_
    refine (quiet_checkFlow hbody).before fun _ => ?_
    have hempty := (within_compileFlow (show FlowTakesDefaultIds [] from trivial) hexit targets 0).beneath
    have hrepeats (targets : Targets) := (within_compileFlow
      (flowTakesDefaultIds_append.mpr ⟨hbody, loopTail_takesDefaultIds body increment⟩) hdo targets 0).beneath
    have hcontinues (targets : Targets) :=
      (within_compileFlow (incrementFlow_takesDefaultIds increment) hagain targets 0).beneath
    have hhead (handler : FlowHandler) :=
      ((within_register hloop handler).mono fun _ => FlowPath.under_of_eq).beneath
    refine Within.descend (hempty.beside (fun _ => (hrepeats _).beside (fun _ => (hcontinues _).beside
      (fun _ => (hhead _).before fun _ => ?_) ?_) ?_) ?_) (by decide)
    · split
      · exact .pure _
      · exact (quiet_append _ _).before fun _ => .pure _
    · rintro _ rfl
      decide
    · rintro _ rfl
      decide
    · rintro _ rfl
      decide
  | .start id target args resume =>
    obtain ⟨rfl, hresume⟩ := h
    have hweight := flowWeight_getD resume
    have hcheck : Quiet (Compile.ofExcept (StartParam.check target)) := by
      refine .ofExcept ?_
      unfold StartParam.check
      exact .ite (fun _ => trivial) fun _ => rfl
    cases hlast : resume.isNone && targets.next.isNone with
    | true =>
      obtain ⟨hnone, hnext⟩ := Bool.and_eq_true_iff.mp hlast
      obtain rfl := Option.isNone_iff_eq_none.mp hnone
      rw [compileCommand_startLast _ _ _ _ (Option.isNone_iff_eq_none.mp hnext)]
      exact Quiet.within (hcheck.before fun _ => (quiet_append path _).before fun _ => .pure _)
    | false =>
      rw [compileCommand_start _ _ _ _ hlast]
      have hflow : FlowTakesDefaultIds (resume.getD []) := by
        cases resume with
        | none => trivial
        | some body => exact hresume
      refine hcheck.before fun _ => ?_
      refine .append hpath (show FlowPath.isAbsolute "start" = false from rfl) fun hown => ?_
      have hresumes := (within_compileFlow hflow hown targets 0).beneath
      have hawaits (tag : String) (own : FlowPath) : Quiet (modify fun p => p.awaiting target tag own) :=
        .modify (fun _ => rfl) fun _ => rfl
      refine (hresumes.before fun _ => (quiet_key _).before fun tag => ?_).mono fun _ hin => hin.mono ?_
      · exact (hawaits tag _).before fun _ => .pure _
      · rintro _ rfl
        decide
  | .finish id result | .set id values | .exec id target args | .wait id seconds =>
    rw [compileCommand.eq_def]
    exact Quiet.within ((quiet_append path id).before fun _ => .pure _)
  | .break id | .continue id =>
    rw [compileCommand.eq_def]
    refine Quiet.within ?_
    dsimp only
    split
    · exact (quiet_key path).before fun key => .throw fun _ h => by cases h
    · exact .pure _
  | .flow id body => exact h.elim
termination_by (c.weight, 0)
decreasing_by
  all_goals
    simp only [Command.weight, flowWeight, flowWeight_append, Prod.lex_def]
    omega

/-- Each case of a switch is compiled under its own id. -/
theorem within_compileCases {cases : List Case} (h : CasesTakeDefaultIds cases) (hdistinct : (caseIds cases).Nodup)
    (hrelative : ∀ id ∈ caseIds cases, FlowPath.isAbsolute id = false) {root : FlowPath} (hroot : root.Plain)
    (targets : Targets) (next : FlowPath) :
    Within (root.Beneath (· ∈ caseIds cases)) (compileCases cases root targets next) := by
  match cases with
  | [] =>
    rw [compileCases]
    exact .pure _
  | .mk id value body :: rest =>
    obtain ⟨hfresh, hdistinct⟩ := List.nodup_cons.mp hdistinct
    obtain ⟨hid, hrelative⟩ := List.forall_mem_cons.mp hrelative
    rw [compileCases]
    have hlater := within_compileCases h.2 hdistinct hrelative hroot targets next
    refine (hlater.beside (T := (· = id)) (fun later => ?_) ?_).mono fun _ hin => hin.mono fun other hother => ?_
    · refine .append hroot hid fun hown => ?_
      exact (within_compileFlow h.1 hown _ 0).beneath.before fun _ => .pure _
    · rintro _ hmem rfl
      exact hfresh hmem
    · exact List.mem_cons.mpr hother.symm
termination_by (casesWeight cases, 0)
decreasing_by
  all_goals
    simp only [casesWeight, Case.weight, Prod.lex_def]
    omega

end

end Colloquy
