import Colloquy.Proofs.Dialog.Build
import Colloquy.Proofs.Direct.Soundness
import Colloquy.Proofs.Flow.Key

/-!
# Resuming a dialog

What a later request does when the user picks a reply or a started dialog hands in its result: it goes on
where a direct run would have gone on. A reply that was computed leads to what comes after its message by
the key alone, and the key is read back only if the name of the dialog has no colon.
-/

namespace Colloquy

namespace Machine

variable {m : Machine}

private theorem hop_of_key {a b : Value} {key : String} (hclosed : m.program.Closed) (ha : m.program.key a = .ok key)
    (hb : m.program.key b = .ok key) (vars : Value) : m.hop a vars = m.hop b vars := by
  have hfind : m.program.find a = m.program.find b := by
    unfold Program.find
    rw [ha, hb]
  have hlanding : m.landing a = m.landing b := by
    funext r
    unfold landing
    rw [ha, hb]
  unfold hop
  rw [hfind, hlanding]
  cases hh : m.program.find b with
  | error e => rfl
  | ok handler =>
    obtain ⟨own, -, hl⟩ := Program.find_eq_ok.mp hh
    cases handler with
    | sequence own path steps targets => rfl
    | loop name path condition body exit => rfl
    | external fn => exact absurd (hclosed own _ hl) id

private theorem Leads.of_key {a b vars : Value} {key : String} {n : Nat} {r : Run Ending} (hclosed : m.program.Closed)
    (ha : m.program.key a = .ok key) (hb : m.program.key b = .ok key)
    (h : m.Leads n (pure (some (a, vars))) r) : m.Leads n (pure (some (b, vars))) r := by
  intro w
  obtain ⟨k, hk, hfits⟩ := h w
  refine ⟨k, hk, ?_⟩
  rw [pure_bind] at hfits ⊢
  cases k with
  | zero =>
    -- no jump is made, so it does not matter which one
    rw [follow_zero] at hfits ⊢
    generalize r w = s at hfits
    cases hfits
    exact .cut
  | succ k =>
    rw [follow_succ] at hfits ⊢
    rwa [← hop_of_key hclosed ha hb]

end Machine

namespace Direct

variable {m : Machine}

/-- Handling an event does what a direct run does with the variables that a flow is resumed with. -/
def Handles (m : Machine) (handler : EventHandler) (direct : Nat → Value → Run Ending) : Prop :=
  ∃ path, handler = .resume path ∧ ∀ value,
    m.Does id (do return (path, ← Machine.enter value)) fun n => do direct n (← Machine.enter value)

private theorem Handles.of_agrees {path : FlowPath} {other : Value} {key : String} {direct : Nat → Value → Run Ending}
    (hclosed : m.program.Closed) (hkey : m.program.pathKey path = .ok key) (hother : m.program.key other = .ok key)
    (h : ∀ n vars, m.Agrees n path vars (direct n vars)) : Handles m (.resume other) direct := by
  refine ⟨other, rfl, fun value => .of_leads fun n => ?_⟩
  rw [bind_assoc]
  refine .bind fun vars => ?_
  rw [pure_bind]
  have hkey : m.program.key path.toValue = .ok key := hkey
  exact (h n vars).of_key hclosed hkey hother

/-- A reply is answered by what handles its payload: its flow, then all that comes after its message. -/
def Answered (m : Machine) (after : After) (a : Action) (l : Labels) : Prop :=
  ∃ key handler, l.own.key = some key ∧ m.program.dialog.payloads.get? (.str key) = some handler ∧
    Handles m handler fun n vars => do after n (← runFlow m (a.flow.getD []) (l.sub 0) n vars)

/-- Whether a computed action leads to what comes after its message: it is a reply, and it has neither a
payload nor a flow of its own. -/
def leadsOn (a : Action) : Bool :=
  a.info.kind == .reply && a.flow.isNone && a.info.thenFlow.isNone && !Entries.hasName a.info.params "payload"

/-- A computed reply carries a key by which it is answered with what comes after its message, provided that
the name of the dialog has no colon; otherwise nothing answers it. -/
def ComputedAnswered (m : Machine) (after : After) (target : FlowPath) : Prop :=
  ∃ key : String,
    (∀ a, leadsOn a = true → m.computedAction (some target) a =
      pure (.dict .anonymous (Entries.put a.info.params "payload" (.str key)))) ∧
    (':' ∉ m.program.dialog.name.toList → ∃ handler, m.program.payloadHandler? (.str key) = some handler ∧
      Handles m handler fun n vars => after n (.normal vars)) ∧
    (':' ∈ m.program.dialog.name.toList → m.program.payloadHandler? (.str key) = none)

/-- The result of a started dialog is handled by the flow that the start brings along and all that comes after
the start. Without a tag there is nothing to come. -/
def ResultHandled (m : Machine) (s : Spot) (target : Value) (resume : Option Flow) : Prop :=
  match s.labels.own.key with
  | some tag => ∃ handler,
    m.program.dialog.results.get? (Dialog.resultKey (.str (m.program.resultName target)) (.str tag)) =
      some handler ∧
    Handles m handler fun n vars => do s.after n (← runFlow m (resume.getD []) (s.labels.sub 0) n vars)
  | none => resume = none ∧ ∀ n vars w, ∃ ending, s.after n (.normal vars) w = .ok ending w

/-- Where a command suspends a flow, a later request goes on as a direct run would. -/
def Resumed (m : Machine) (s : Spot) : Prop :=
  match s.command with
  | .message _ _ _ actions items =>
    (∀ a l, (a, l) ∈ messageActions s.labels actions items → a.info.kind = .reply →
      a.info.thenFlow.isNone = true → Answered m s.after a l) ∧
    (isDynamic actions items = true → ∀ target, s.labels.own.next = some target →
      ComputedAnswered m s.after target)
  | .start _ target _ resume => ResultHandled m s target resume
  | _ => True

private theorem Answers.answered {after : After} {a : Action} {l : Labels} (hwired : m.program.Wired)
    (hclosed : m.program.Closed) (h : Answers m after true a l) : Answered m after a l := by
  obtain ⟨key, hown⟩ := Option.ne_none_iff_exists'.mp (h.offered rfl)
  obtain ⟨hkey, hpayload⟩ := h.registered key hown
  obtain ⟨handler, hhandler⟩ := Option.ne_none_iff_exists'.mp hpayload
  obtain ⟨path, rfl, hpath⟩ := hwired.payloads key handler hhandler
  exact ⟨key, _, hown, hhandler, .of_agrees hclosed hkey hpath (h.resumes key hown)⟩

private theorem computedAction_eq {target : FlowPath} {key : String} (hkey : m.program.pathKey target = .ok key)
    {a : Action} (h : leadsOn a = true) : m.computedAction (some target) a =
      pure (.dict .anonymous (Entries.put a.info.params "payload" (.str key))) := by
  simp only [leadsOn, Bool.and_eq_true, Bool.not_eq_true', beq_iff_eq] at h
  obtain ⟨⟨⟨hreply, hflow⟩, hthen⟩, hpayload⟩ := h
  unfold Machine.computedAction
  simp [hreply, hthen, hpayload, hkey, Option.isNone_iff_eq_none.mp hflow]

private theorem payloadHandler?_of_continuation {target : FlowPath} {key : String}
    (hkey : m.program.pathKey target = .ok key) (hl : m.program.flows.lookup key ≠ none)
    (hpayload : m.program.dialog.payloads.get? (.str key) = none) :
    m.program.payloadHandler? (.str key) =
      if ':' ∈ m.program.dialog.name.toList then none else some (.resume (.str key)) := by
  have hcontains : m.program.contains (.str key) = !decide (':' ∈ m.program.dialog.name.toList) := by
    have hany : m.program.flows.any (·.1 == key) = true := by
      rw [Program.any_eq_isSome_lookup]
      exact Option.isSome_iff_ne_none.mpr hl
    unfold Program.contains
    by_cases hcolon : ':' ∈ m.program.dialog.name.toList
    · have hread : m.program.key (.str key) = .error _ := FlowKey.ofText_of_colon hcolon hkey
      simp [hread, hcolon]
    · have hread : m.program.key (.str key) = .ok key := FlowKey.ofText_of_ofIds hcolon hkey
      simp [hread, hcolon, hany]
  unfold Program.payloadHandler? Program.flowHandler?
  rw [hpayload, hcontains]
  by_cases hcolon : ':' ∈ m.program.dialog.name.toList
  · simp [hcolon]
  · simp [hcolon]

private theorem computedAnswered_of_continuation {after : After} {target : FlowPath} (hclosed : m.program.Closed)
    (htarget : m.program.Continuation target)
    (h : ∀ n vars, m.Agrees n target vars (after n (.normal vars))) : ComputedAnswered m after target := by
  obtain ⟨key, hkey, hl, hpayload⟩ := htarget
  have hhandler := payloadHandler?_of_continuation hkey hl hpayload
  refine ⟨key, fun a ha => computedAction_eq hkey ha, ?_, ?_⟩
  · intro hcolon
    rw [if_neg hcolon] at hhandler
    refine ⟨_, hhandler, .of_agrees hclosed hkey ?_ h⟩
    exact FlowKey.ofText_of_ofIds hcolon hkey
  · intro hcolon
    rwa [if_pos hcolon] at hhandler

private theorem Resumes.resumed {s : Spot} (hwired : m.program.Wired) (hclosed : m.program.Closed)
    (h : Resumes m m.program.Continuation s) (hlive : s.live = true) : Resumed m s := by
  obtain ⟨c, l, after, live⟩ := s
  obtain rfl : live = true := hlive
  cases c with
  | message kind id body actions items =>
    obtain ⟨hreplies, hcomputed⟩ := h
    refine ⟨?_, ?_⟩
    · intro a l hmem hreply hthen
      exact (hreplies a l hmem hreply hthen).answered hwired hclosed
    · intro hdynamic target htarget
      obtain ⟨hcontinuation, hagrees⟩ := hcomputed hdynamic target htarget
      exact computedAnswered_of_continuation hclosed hcontinuation hagrees
  | start id target args resume =>
    obtain ⟨htagged, huntagged⟩ := h
    unfold Resumed ResultHandled
    dsimp only
    cases htag : l.own.key with
    | some tag =>
      obtain ⟨hkey, hresult, hagrees⟩ := htagged tag htag
      obtain ⟨handler, hhandler⟩ := Option.ne_none_iff_exists'.mp hresult
      obtain ⟨path, rfl, hpath⟩ := hwired.results _ tag handler hhandler
      exact ⟨_, hhandler, .of_agrees hclosed hkey hpath hagrees⟩
    | none =>
      obtain ⟨hnone, hleads⟩ := huntagged rfl htag
      refine ⟨hnone, fun n vars w => ?_⟩
      obtain ⟨k, -, hfits⟩ := hleads n vars w
      rw [pure_bind, Machine.follow_none] at hfits
      exact hfits.exists_ending
  | _ => trivial

/-- In a dialog that was built of flows, every entry point runs as a direct run does, and wherever the flow of
an entry point is suspended, however deep, a later request goes on as a direct run would: picking a reply
runs its flow and then all that comes after the message; the result of a started dialog runs the flow that
the start brings along and then all that comes after the start; a computed reply leads to what comes after
the message if and only if the name of the dialog has no colon. -/
theorem suspended_flows_resume {name source modelName : Value} {settings : Settings}
    {entries : List (String × FlowPath)}
    (hbuild : Program.build name source modelName settings = .ok (m.program, entries)) :
    ∃ flows, Normal.described source = .ok flows ∧ ∀ entry path, (entry, path) ∈ entries →
      ∃ flow l, (entry, flow) ∈ flows ∧
        (∀ vars, m.Does id (pure (path.toValue, vars)) fun n => runFlow m flow l n vars) ∧
        ∀ s, Occurs m (.flow flow l) (fun _ => pure) true s → s.live = true → Resumed m s := by
  obtain ⟨hwired, hclosed, flows, hdescribed, hentries⟩ := build_eq_ok hbuild
  refine ⟨flows, hdescribed, fun entry path hmem => ?_⟩
  obtain ⟨flow, p, q, hflow, hp, hcompile, hlater⟩ := hentries entry path hmem
  obtain ⟨l, hrun, hres⟩ := means_of_compiles (K := m.program.Continuation) (compiles_of_compileFlow hcompile)
    hlater.grows fun t ht => hlater.keeps t (ht hp).1
  refine ⟨flow, l, hflow, fun vars => .of_leads fun n => ?_, fun s hs => ?_⟩
  · have hagrees := hrun n pure .blank vars
    rwa [bind_pure] at hagrees
  · have hblank : Realizable m m.program.Continuation {} fun _ => pure := ⟨fun _ => .blank, nofun⟩
    exact (hres _ true hblank s hs).resumed hwired hclosed

/-- The reply of a question is answered. -/
theorem question_resumes : ∃ (m : Machine) (l : Labels) (after : After),
    Program.build (.str "Trial") question .none {} = .ok (m.program, [("onStart", [.name "onStart"])]) ∧
      Answered m after (.mk { id := some "Yes", kind := .reply, text := .str "Yes" }
        (some [.command (.message .text "text" { text := .str "Right" } .absent .absent)])) l := by
  obtain ⟨p, hbuild, -⟩ := build_question
  let m : Machine := ⟨⟨fun _ _ => pure .none⟩, [], p⟩
  obtain ⟨flows, hflows, hentries⟩ := suspended_flows_resume (m := m) hbuild
  obtain ⟨flow, l, hflow, -, hresumed⟩ := hentries "onStart" _ List.mem_cons_self
  obtain rfl := Except.ok.inj (hflows.symm.trans described_question)
  obtain rfl : flow = questionFlow := by simpa using hflow
  obtain ⟨hreplies, -⟩ := hresumed _ (.head rfl .self) rfl
  exact ⟨m, _, _, hbuild, hreplies _ _ List.mem_cons_self rfl rfl⟩

end Direct

end Colloquy
