import Colloquy.Dialog.Flows
import Colloquy.Proofs.Compile.Closed
import Colloquy.Proofs.Compile.Origin
import Colloquy.Proofs.Flow.Normal

/-!
# What a dialog is built of

The flows of a dialog are compiled one after the other, starting with a program that has none. So every
entry point was compiled into a wired program, and all that was compiled for it is still there in the end.
-/

namespace Colloquy

namespace Program

/-- A program that came later: it has everything of the first one and is wired if the first one was. -/
structure Precedes (p q : Program) : Prop where
  grows : p.Extends q
  wired : p.Wired → q.Wired
  keeps : ∀ t, p.Continuation t → q.Continuation t

variable {p q r : Program}

private theorem Precedes.refl (p : Program) : p.Precedes p := ⟨.refl p, id, fun _ => id⟩

private theorem Precedes.trans (h : p.Precedes q) (h' : q.Precedes r) : p.Precedes r where
  grows := h.grows.trans h'.grows
  wired := h'.wired ∘ h.wired
  keeps t := h'.keeps t ∘ h.keeps t

private theorem precedes_of_compiles {job : Job} (h : Compiles job p q) : p.Precedes q :=
  ⟨h.grows, h.wired, fun _ => h.keeps⟩

theorem startingWith_flows (p : Program) (entries : List (String × FlowPath)) :
    (p.startingWith entries).flows = p.flows := by
  unfold startingWith
  split <;> rfl

theorem extends_startingWith (p : Program) (entries : List (String × FlowPath)) :
    p.Extends (p.startingWith entries) := by
  unfold startingWith
  split <;> exact { Extends.refl p with }

private theorem Wired.startingWith (h : p.Wired) (entries : List (String × FlowPath)) :
    (p.startingWith entries).Wired := by
  unfold Program.startingWith
  split <;> exact ⟨h.registered, h.payloads, h.postbacks, h.results⟩

private theorem Continuation.startingWith {path : FlowPath} (h : p.Continuation path)
    (entries : List (String × FlowPath)) :
    (p.startingWith entries).Continuation path := by
  unfold Program.startingWith
  split <;> exact h

private theorem precedes_startingWith (p : Program) (entries : List (String × FlowPath)) :
    p.Precedes (p.startingWith entries) :=
  ⟨p.extends_startingWith entries, fun h => h.startingWith entries, fun _ h => h.startingWith entries⟩

private theorem Wired.of_empty (hp : p.dialog.payloads = []) (hb : p.dialog.postbacks = [])
    (hr : p.dialog.results = []) :
    p.Wired where
  registered key hk := absurd (by rw [hp]; rfl) hk
  payloads key handler hk := by
    rw [hp] at hk
    cases hk
  postbacks key handler hk := by
    rw [hb] at hk
    cases hk
  results dialog key handler hk := by
    rw [hr] at hk
    cases hk

end Program

open Compile

/-- Entry points of a dialog: each was compiled from its flow, and all that came of it is still there. -/
theorem entryPoints_eq_ok {flows : List (String × Flow)} {entries : List (String × FlowPath)} {p r : Program}
    (h : entryPoints flows p = .ok entries r) : p.Precedes r ∧
      (∀ s, r.Extends s → Job.Adds p r s) ∧
      ∀ id path, (id, path) ∈ entries → ∃ flow q q', (id, flow) ∈ flows ∧ p.Precedes q ∧
        compileFlow flow path {} 0 q = .ok () q' ∧ q'.Precedes r := by
  induction flows generalizing entries p with
  | nil =>
    rw [entryPoints] at h
    obtain ⟨rfl, rfl⟩ := pure_eq_ok.mp h
    exact ⟨.refl _, fun _ _ => .refl _ _, nofun⟩
  | cons entry rest ih =>
    obtain ⟨id, flow⟩ := entry
    rw [entryPoints] at h
    obtain ⟨path, -, h⟩ := append_bind_eq_ok.mp h
    obtain ⟨_, q, hf, h⟩ := bind_eq_ok.mp h
    obtain ⟨more, hm, rfl⟩ := bind_pure_eq_ok.mp h
    obtain ⟨hprecedes, hadds, hentries⟩ := ih hm
    have hcompiles := compiles_of_compileFlow hf
    have hfirst := Program.precedes_of_compiles hcompiles
    refine ⟨hfirst.trans hprecedes, ?_, ?_⟩
    · intro s hs
      have hown := (hcompiles.closed (hprecedes.grows.trans hs) (.blank s)).2
      exact hown.trans (hadds s hs)
    · intro id' path' hmem
      rcases List.mem_cons.mp hmem with heq | hmem
      · obtain ⟨rfl, rfl⟩ := Prod.mk.inj heq
        exact ⟨flow, p, q, List.mem_cons_self, .refl p, hf, hprecedes⟩
      · obtain ⟨flow', p', q', hmem, hbefore, hcompile, hafter⟩ := hentries id' path' hmem
        exact ⟨flow', p', q', List.mem_cons_of_mem _ hmem, hfirst.trans hbefore, hcompile, hafter⟩

/-- Every key that is referred to is that of a registered flow. -/
def Program.Resolves (p : Program) : Prop := ∀ key ∈ p.references, p.contains (.str key) = true

/-- The first reference that leads nowhere. -/
def Program.loose? (p : Program) : Option String := p.references.find? fun key => !p.contains (.str key)

theorem checkReferences_eq (p : Program) :
    checkReferences p =
      match p.loose? with
      | some key => .error (.undefinedFlow key (p.suggest key)) p
      | none => .ok () p := by
  have hget (f : Program → Compile Unit) : (get >>= f) p = f p p := rfl
  unfold checkReferences Program.loose?
  rw [hget]
  cases p.references.find? _ <;> rfl

theorem checkReferences_cases (p : Program) :
    checkReferences p = .ok () p ∧ p.Resolves ∨
      ∃ key, checkReferences p = .error (.undefinedFlow key (p.suggest key)) p := by
  rw [checkReferences_eq]
  cases hloose : p.loose? with
  | none => exact .inl ⟨rfl, fun key hkey => by simpa using List.find?_eq_none.mp hloose key hkey⟩
  | some key => exact .inr ⟨key, rfl⟩

private theorem checkReferences_eq_ok {p q : Program} (h : checkReferences p = .ok () q) : p = q ∧ p.Resolves := by
  rcases checkReferences_cases p with ⟨hok, hresolves⟩ | ⟨key, hmissing⟩
  · cases hok.symm.trans h
    exact ⟨rfl, hresolves⟩
  · cases hmissing.symm.trans h

private theorem flows_eq_ok {source : Value} {entries : List (String × FlowPath)} {p r : Program}
    (h : Compile.flows source p = .ok entries r) : ∃ flows q, Normal.described source = .ok flows ∧
      entryPoints flows p = .ok entries q ∧ q.Resolves ∧ r = q.startingWith entries := by
  unfold Compile.flows at h
  obtain ⟨flows, hdescribed, h⟩ := ofExcept_bind_eq_ok.mp h
  obtain ⟨_, q, he, h⟩ := bind_eq_ok.mp h
  obtain ⟨_, _, hc, h⟩ := bind_eq_ok.mp h
  obtain ⟨rfl, hresolves⟩ := checkReferences_eq_ok hc
  obtain ⟨_, _, ⟨⟩, h⟩ := bind_eq_ok.mp h
  obtain ⟨rfl, rfl⟩ := pure_eq_ok.mp h
  exact ⟨flows, q, hdescribed, he, hresolves, rfl⟩

theorem make_eq {name modelName : Value} {settings : Settings} {p : Program}
    (h : Program.make name modelName settings = .ok p) : ∃ own : String,
      p = { dialog := { name := own, modelName, wildcard := .str settings.wildcard }, settings } := by
  unfold Program.make Dialog.make at h
  cases hname : name.text? with
  | none =>
    rw [hname] at h
    cases h
  | some s =>
    rw [hname] at h
    cases hs : s.isEmpty with
    | true =>
      simp only [hs, if_true] at h
      cases h
    | false =>
      simp only [hs] at h
      exact ⟨s, (Except.ok.inj h).symm⟩

theorem make_eq_ok {name modelName : Value} {settings : Settings} {p : Program}
    (h : Program.make name modelName settings = .ok p) : p.flows = [] ∧ p.Wired := by
  obtain ⟨own, rfl⟩ := make_eq h
  exact ⟨rfl, .of_empty rfl rfl rfl⟩

theorem build_steps {name source modelName : Value} {settings : Settings} {r : Program}
    {entries : List (String × FlowPath)} (h : Program.build name source modelName settings = .ok (r, entries)) :
    ∃ p, Program.make name modelName settings = .ok p ∧ ∃ flows q, Normal.described source = .ok flows ∧
      entryPoints flows p = .ok entries q ∧ q.Resolves ∧ r = q.startingWith entries := by
  unfold Program.build at h
  cases hmake : Program.make name modelName settings with
  | error e =>
    rw [hmake] at h
    cases h
  | ok p =>
    rw [hmake] at h
    simp only [bind, Except.bind] at h
    cases hflows : Compile.flows source p with
    | error e q =>
      rw [hflows] at h
      cases h
    | ok entries' q =>
      rw [hflows] at h
      cases h
      exact ⟨p, rfl, flows_eq_ok hflows⟩

section Flows

variable {name source modelName : Value} {settings : Settings} {p q : Program}
  (hmake : Program.make name modelName settings = .ok p)
include hmake

theorem build_of_flows_ok {entries : List (String × FlowPath)} (h : Compile.flows source p = .ok entries q) :
    Program.build name source modelName settings = .ok (q, entries) := by
  unfold Program.build
  rw [hmake]
  simp only [bind, Except.bind, h]
  rfl

theorem build_of_flows_error {e : Error} (h : Compile.flows source p = .error e q) :
    Program.build name source modelName settings = .error e := by
  unfold Program.build
  rw [hmake]
  simp only [bind, Except.bind, h]

end Flows

/-- What holds of a program without flows and is kept by every entry point that is compiled holds of the
program of a dialog. -/
theorem build_induction {I : Program → Prop} {name source modelName : Value} {settings : Settings} {r : Program}
    {entries : List (String × FlowPath)} (h : Program.build name source modelName settings = .ok (r, entries))
    (hmake : ∀ p, Program.make name modelName settings = .ok p → I p)
    (hflow : ∀ flows, Normal.described source = .ok flows → ∀ entry ∈ flows, ∀ path p q,
      Compiles (.flow entry.2 path {} 0) p q → I p → I q)
    (hstart : ∀ p entries, I p → I (p.startingWith entries)) : I r := by
  obtain ⟨p, hp, flows, q, hdescribed, hentries, -, rfl⟩ := build_steps h
  refine hstart _ _ ?_
  have hall : ∀ {rest : List (String × Flow)} {paths : List (String × FlowPath)} {p q : Program},
      (∀ entry ∈ rest, entry ∈ flows) → entryPoints rest p = .ok paths q → I p → I q := by
    intro rest
    induction rest with
    | nil =>
      intro paths p q _ he hI
      rw [entryPoints] at he
      obtain ⟨-, rfl⟩ := pure_eq_ok.mp he
      exact hI
    | cons entry rest ih =>
      intro paths p q hrest he hI
      rw [entryPoints] at he
      obtain ⟨path, -, he⟩ := append_bind_eq_ok.mp he
      obtain ⟨_, q', hf, he⟩ := bind_eq_ok.mp he
      obtain ⟨_, _, hm, he⟩ := bind_eq_ok.mp he
      obtain ⟨-, rfl⟩ := pure_eq_ok.mp he
      have hfirst := hflow flows hdescribed entry (hrest entry List.mem_cons_self) path p q'
        (compiles_of_compileFlow hf) hI
      exact ih (fun other hmem => hrest other (List.mem_cons_of_mem _ hmem)) hm hfirst
  exact hall (fun _ hmem => hmem) hentries (hmake p hp)

/-- A dialog that was built: its program is wired, its flows jump to flows of the program only, and every
entry point was compiled from the flow of that id. -/
theorem build_eq_ok {name source modelName : Value} {settings : Settings} {r : Program}
    {entries : List (String × FlowPath)}
    (h : Program.build name source modelName settings = .ok (r, entries)) :
    r.Wired ∧ r.Closed ∧ ∃ flows, Normal.described source = .ok flows ∧
      ∀ id path, (id, path) ∈ entries → ∃ flow p q, (id, flow) ∈ flows ∧ p.Wired ∧
        compileFlow flow path {} 0 p = .ok () q ∧ q.Precedes r := by
  obtain ⟨p, hmake, flows, q, hdescribed, hentries, -, rfl⟩ := build_steps h
  obtain ⟨hempty, hwired⟩ := make_eq_ok hmake
  obtain ⟨hprecedes, hadds, hall⟩ := entryPoints_eq_ok hentries
  have hlast := q.precedes_startingWith entries
  refine ⟨hlast.wired (hprecedes.wired hwired), ?_, flows, hdescribed, ?_⟩
  · intro key handler hl
    rw [Program.startingWith_flows] at hl
    rcases hadds _ hlast.grows key handler hl with hl | hclosed
    · rw [hempty] at hl
      cases hl
    · exact hclosed
  · intro id path hmem
    obtain ⟨flow, p', q', hflow, hbefore, hcompile, hafter⟩ := hall id path hmem
    exact ⟨flow, p', q', hflow, hbefore.wired hwired, hcompile, hafter.trans hlast⟩

/-- The flows of a dialog were compiled from what was written for it: if that follows a rule, so does every
flow that was compiled. -/
theorem build_traced {r : ExtrasRule} {name source modelName : Value} {settings : Settings} {p : Program}
    {entries : List (String × FlowPath)} (h : Program.build name source modelName settings = .ok (p, entries))
    (hfollows : ∀ flows, Normal.described source = .ok flows → ∀ entry ∈ flows, FlowFollows r entry.2) :
    p.Traced r := by
  refine build_induction h (fun p hmake key handler hl => ?_) (fun flows hflows entry hentry path p q hjob hp => ?_)
    fun p entries hp key handler hl => ?_
  · rw [(make_eq_ok hmake).1] at hl
    cases hl
  · exact hp.of_compiles hjob (hfollows flows hflows entry hentry)
  · rw [Program.startingWith_flows] at hl
    exact (hp key handler hl).of_extends (p.extends_startingWith entries)

theorem build_resolves {name source modelName : Value} {settings : Settings} {r : Program}
    {entries : List (String × FlowPath)} (h : Program.build name source modelName settings = .ok (r, entries)) :
    r.Resolves := by
  obtain ⟨p, -, flows, q, -, -, hresolves, rfl⟩ := build_steps h
  unfold Program.startingWith
  split <;> exact hresolves

theorem build_of_compiles {name source modelName : Value} {settings : Settings} {p q : Program} {entry : String}
    {flow : Flow} {path : FlowPath} (hmake : Program.make name modelName settings = .ok p)
    (hdescribed : Normal.described source = .ok [(entry, flow)]) (hpath : FlowPath.append [] entry = .ok path)
    (h : Compiles (.flow flow path {} 0) p q) (hreferences : q.references = []) :
    Program.build name source modelName settings = .ok (q.startingWith [(entry, path)], [(entry, path)]) := by
  have hentries : entryPoints [(entry, flow)] p = .ok [(entry, path)] q := by
    rw [entryPoints]
    refine append_bind_eq_ok.mpr ⟨_, hpath, ?_⟩
    exact bind_eq_ok.mpr ⟨_, _, h.succeeds, bind_eq_ok.mpr ⟨_, _, rfl, rfl⟩⟩
  have hcheck : checkReferences q = .ok () q := by
    unfold checkReferences
    refine bind_eq_ok.mpr ⟨_, _, rfl, ?_⟩
    rw [hreferences]
    rfl
  have hflows : Compile.flows source p = .ok [(entry, path)] (q.startingWith [(entry, path)]) := by
    unfold Compile.flows
    refine ofExcept_bind_eq_ok.mpr ⟨_, hdescribed, ?_⟩
    refine bind_eq_ok.mpr ⟨_, _, hentries, bind_eq_ok.mpr ⟨_, _, hcheck, ?_⟩⟩
    exact bind_eq_ok.mpr ⟨_, _, rfl, rfl⟩
  exact build_of_flows_ok hmake hflows

/-- A question with a reply that says something, and then a farewell. -/
def question : Value :=
  .record [("onStart", .ofList [.record [("text", .str "Ready?"), ("actions", .record [("Yes", .str "Right")])],
    .str "Fine"])]

def questionFlow : Flow :=
  [.command (.message .text "text" { text := .str "Ready?" }
      (.fixed [.mk { id := some "Yes", kind := .reply, text := .str "Yes" }
        (some [.command (.message .text "text" { text := .str "Right" } .absent .absent)])]) .absent),
    .command (.message .text "text" { text := .str "Fine" } .absent .absent)]

theorem described_question : Normal.described question = .ok [("onStart", questionFlow)] := by
  with_unfolding_all rfl

/-- A question names no handler to be executed in place of its message or of its reply. -/
theorem question_noExec (flows : List (String × Flow)) (hflows : Normal.described question = .ok flows) :
    ∀ entry ∈ flows, FlowFollows .noExec entry.2 := by
  obtain rfl := Except.ok.inj (described_question.symm.trans hflows)
  simp [questionFlow, FlowFollows, Element.Follows, Command.Follows, Actions.Follows, ActionsFollow, Action.Follows,
    OptionFollows, Items.Follows, ExtrasRule.noExec]

def questionPlan : MessagePlan where
  path := [.name "onStart", .name "text"]
  params := [(.str "type", .str "text"), (.str "text", .str "Ready?")]
  actions := .fixed [[(.str "type", .str "reply"), (.str "text", .str "Yes"), (.str "payload", .str "Trial:onStart.Yes")]]
  items := .absent
  next := some [.name "onStart", .name "flow1"]
  dynamic := false

theorem build_question : ∃ p,
    Program.build (.str "Trial") question .none {} = .ok (p, [("onStart", [.name "onStart"])]) ∧
      p.flows.lookup "Trial:onStart" =
        some (.sequence "Trial:onStart" [.name "onStart"] [.message questionPlan] {}) := by
  have hmake : Program.make (.str "Trial") .none {} =
      .ok { dialog := { name := "Trial", wildcard := .str "*" } } := rfl
  have h : Compiles (.flow questionFlow [.name "onStart"] {} 0)
      { dialog := { name := "Trial", wildcard := .str "*" } } _ :=
    .flow rfl rfl
      (.broken rfl rfl rfl
        (.unspliced rfl rfl
          (.flow rfl rfl (.plain rfl rfl (.message rfl .noActions .noItems) .nil) rfl
            (Program.add_eq_ok.mpr ⟨rfl, rfl⟩)))
        (.message rfl
          (.fixedActions (.actionCons
            (.button rfl rfl rfl rfl rfl
              (.flow rfl rfl (.plain rfl rfl (.message rfl .noActions .noItems) .nil) rfl
                (Program.add_eq_ok.mpr ⟨rfl, rfl⟩)) rfl)
            .actionNil))
          .noItems))
      rfl (Program.add_eq_ok.mpr ⟨rfl, rfl⟩)
  exact ⟨_, build_of_compiles hmake described_question rfl h rfl, by with_unfolding_all rfl⟩

end Colloquy
