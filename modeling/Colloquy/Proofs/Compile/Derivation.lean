import Colloquy.Compile.Flow

/-!
# Derivations of compiled flows

What a successful compilation did, as a derivation: one rule for every way in which a part of a flow
can be compiled, with the program before and after. All that is said about compiled flows follows
from these rules, so nothing else looks into the compiler.
-/

namespace Colloquy

/-- A part of a flow, where it is compiled, and what comes out. -/
inductive Job where
  | flow (flow : Flow) (path : FlowPath) (targets : Targets) (index : Nat)
  | elements (flow : Flow) (path : FlowPath) (targets : Targets) (index : Nat) (steps : List Step)
  | continuation (rest : Flow) (path : FlowPath) (targets : Targets) (index : Nat) (next : FlowPath)
  | command (c : Command) (path : FlowPath) (targets : Targets) (step : Step)
  | fallback (default : Option Flow) (root : FlowPath) (targets : Targets) (exit fallback : FlowPath)
  | cases (cases : List Case) (root : FlowPath) (targets : Targets) (last : FlowPath)
      (paths : List (Value × FlowPath)) (first : FlowPath)
  | actions (actions : Actions) (path : FlowPath) (targets : Targets) (plan : ActionPlan)
  | actionList (actions : List Action) (path : FlowPath) (targets : Targets) (entries : List Entries)
  | action (a : Action) (path : FlowPath) (targets : Targets) (entries : Entries)
  | items (items : Items) (path : FlowPath) (targets : Targets) (plan : ItemPlan)
  | itemList (items : List Item) (path : FlowPath) (targets : Targets)
      (plans : List (Entries × ActionPlan))

/-- A part of a flow was compiled, which led from one program to another. -/
inductive Compiles : Job → Program → Program → Prop where
  | flow {flow path targets index steps own key p q r}
      (sound : flow.findSome? Element.fault? = none) (hown : p.pathKey path = .ok own)
      (elements : Compiles (.elements flow path targets index steps) p q)
      (hkey : q.pathKey path = .ok key)
      (hadd : q.add key (.sequence own path steps targets) = .ok r) :
      Compiles (.flow flow path targets index) p r
  | nil {path targets index p} :
      Compiles (.elements [] path targets index (targets.next.elim [] fun t => [.jump t])) p p
  | handler {e rest path targets index steps p q} (he : e.command? = none)
      (later : Compiles (.elements rest path targets index steps) p q) :
      Compiles (.elements (e :: rest) path targets index (.handler e.meaning.toValue :: steps)) p q
  | plain {e c rest path targets index step steps p q r} (he : e.command? = some c)
      (hb : c.breaksFlow = false) (first : Compiles (.command c path targets step) p q)
      (later : Compiles (.elements rest path targets index steps) q r) :
      Compiles (.elements (e :: rest) path targets index (step :: steps)) p r
  | last {e c path targets index step p q} (he : e.command? = some c) (hb : c.breaksFlow = true)
      (first : Compiles (.command c path targets step) p q) :
      Compiles (.elements [e] path targets index [step]) p q
  | terminal {e c rest path targets index step key p q} (he : e.command? = some c)
      (hb : c.breaksFlow = true) (hrest : rest ≠ []) (ht : c.isTerminal = true)
      (hkey : p.pathKey path = .ok key)
      (first : Compiles (.command c path targets step) (p.warned (unreachableWarning c rest key)) q) :
      Compiles (.elements (e :: rest) path targets index [step]) p q
  | broken {e c rest path targets index next step p q r} (he : e.command? = some c)
      (hb : c.breaksFlow = true) (ht : c.isTerminal = false)
      (later : Compiles (.continuation rest path targets (index + 1) next) p q)
      (first : Compiles (.command c path { targets with next := some next } step) q r) :
      Compiles (.elements (e :: rest) path targets index [step]) p r
  | spliced {first id body tail path targets index next p q} (hs : first.subFlow? = some (id, body))
      (hpath : FlowPath.append path id = .ok next)
      (rest : Compiles (.flow (body ++ tail) next targets index) p q) :
      Compiles (.continuation (first :: tail) path targets index next) p q
  | unspliced {first tail path targets index next p q} (hs : first.subFlow? = none)
      (hpath : FlowPath.append path ("flow" ++ toString index) = .ok next)
      (rest : Compiles (.flow (first :: tail) next targets index) p q) :
      Compiles (.continuation (first :: tail) path targets index next) p q
  | message {kind id body actions items path targets own actionPlan itemPlan p q r}
      (hpath : FlowPath.append path id = .ok own)
      (first : Compiles (.actions actions path targets actionPlan) p q)
      (later : Compiles (.items items path targets itemPlan) q r) :
      Compiles (.command (.message kind id body actions items) path targets
        (.message ⟨own, body.params kind, actionPlan, itemPlan, targets.next, isDynamic actions items⟩)) p r
  | conditional {id test yes no path targets root yesPath noPath p q r}
      (hroot : FlowPath.append path id = .ok root) (hyes : FlowPath.append root "then" = .ok yesPath)
      (hno : FlowPath.append root "else" = .ok noPath)
      (first : Compiles (.flow yes yesPath targets 0) p q)
      (second : Compiles (.flow no noPath targets 0) q r) :
      Compiles (.command (.conditional id test yes no) path targets
        (.conditional root test yesPath noPath)) p r
  | switch {id value cases default path targets root exit fallback paths entry p q r s}
      (hroot : FlowPath.append path id = .ok root) (hexit : FlowPath.append root "end" = .ok exit)
      (exits : Compiles (.flow [] exit targets 0) p q)
      (falls : Compiles (.fallback default root (targets.ofSwitch exit) exit fallback) q r)
      (selects : Compiles (.cases cases root (targets.ofSwitch exit) fallback paths entry) r s) :
      Compiles (.command (.switch id value cases default) path targets
        (.switch root value paths fallback)) p s
  | iteration {id init condition increment body path targets root loop bodyPath again exit values own key p q r s t}
      (hroot : FlowPath.append path id = .ok root) (hloop : FlowPath.append root "loop" = .ok loop)
      (hbody : FlowPath.append root "do" = .ok bodyPath)
      (hagain : FlowPath.append root "continue" = .ok again)
      (hexit : FlowPath.append root "end" = .ok exit) (hvalues : incrementValues? increment = .ok values)
      (exits : Compiles (.flow [] exit targets 0) p q)
      (repeats : Compiles (.flow (body ++ loopTail body increment) bodyPath
        (.ofLoop loop exit again) 0) q r)
      (continues : Compiles (.flow (incrementFlow increment) again { next := some loop } 0) r s)
      (hkey : s.pathKey loop = .ok key)
      (hadd : s.add key (.loop id loop condition bodyPath exit) = .ok t)
      (hinit : init.isEmpty = false → FlowPath.append root "init" = .ok own) :
      Compiles (.command (.iteration id init condition increment body) path targets
        (.iteration (if init.isEmpty then none else some (own, init)) loop)) p t
  | startLast {id target args path targets own p} (hcheck : StartParam.check target = .ok ())
      (hpath : FlowPath.append path id = .ok own) (hnext : targets.next = none) :
      Compiles (.command (.start id target args none) path targets (.start own target args none)) p p
  | start {id target args resume path targets own tag p q} (hcheck : StartParam.check target = .ok ())
      (hpath : FlowPath.append path id = .ok own)
      (hresume : (resume.isNone && targets.next.isNone) = false)
      (resumes : Compiles (.flow (resume.getD []) own targets 0) p q)
      (htag : q.pathKey own = .ok tag) :
      Compiles (.command (.start id target args resume) path targets
        (.start own target args (some tag))) p (q.awaiting target tag own)
  | finish {id result path targets own p} (hpath : FlowPath.append path id = .ok own) :
      Compiles (.command (.finish id result) path targets (.finish own result)) p p
  | set {id values path targets own p} (hpath : FlowPath.append path id = .ok own) :
      Compiles (.command (.set id values) path targets (.set own values)) p p
  | exec {id target args path targets own p} (hpath : FlowPath.append path id = .ok own) :
      Compiles (.command (.exec id target args) path targets (.exec own target args)) p p
  | wait {id seconds path targets own p} (hpath : FlowPath.append path id = .ok own) :
      Compiles (.command (.wait id seconds) path targets (.wait own seconds)) p p
  | «break» {id path targets target p} (ht : targets.breakTo = some target) :
      Compiles (.command (.break id) path targets (.signal .break)) p p
  | «continue» {id path targets target p} (ht : targets.continueTo = some target) :
      Compiles (.command (.continue id) path targets (.signal .continue)) p p
  | subFlow {id body path targets own p q} (hpath : FlowPath.append path id = .ok own)
      (inner : Compiles (.flow body own targets 0) p q) :
      Compiles (.command (.flow id body) path targets (.jump own)) p q
  | noDefault {root targets exit p} : Compiles (.fallback none root targets exit exit) p p
  | default {body root targets exit own p q} (hpath : FlowPath.append root "default" = .ok own)
      (inner : Compiles (.flow body own { targets with next := some exit } 0) p q) :
      Compiles (.fallback (some body) root targets exit own) p q
  | noCase {root targets last p} : Compiles (.cases [] root targets last [] last) p p
  | case {id value body rest root targets last paths next own p q r}
      (later : Compiles (.cases rest root targets last paths next) p q)
      (hpath : FlowPath.append root id = .ok own)
      (inner : Compiles (.flow body own { targets with next := some next } 0) q r) :
      Compiles (.cases (.mk id value body :: rest) root targets last
        (((Case.mk id value body).matchValue, own) :: paths) own) p r
  | noActions {path targets p} : Compiles (.actions .absent path targets .absent) p p
  | computedActions {handler path targets p} :
      Compiles (.actions (.computed handler) path targets (.computed handler)) p p
  | fixedActions {list path targets entries p q}
      (inner : Compiles (.actionList list path targets entries) p q) :
      Compiles (.actions (.fixed list) path targets (.fixed entries)) p q
  | actionNil {path targets p} : Compiles (.actionList [] path targets []) p p
  | actionCons {a rest path targets entries more p q r}
      (first : Compiles (.action a path targets entries) p q)
      (later : Compiles (.actionList rest path targets more) q r) :
      Compiles (.actionList (a :: rest) path targets (entries :: more)) p r
  | inert {info path targets p} (hk : info.kind.carriesFlow = false) (ht : info.thenFlow.isNone = true) :
      Compiles (.action (.mk info none) path targets info.params) p p
  | reference {info flow path targets key p} (hk : info.kind.carriesFlow = true)
      (ht : info.thenFlow.isNone = false) (hkey : p.key info.thenFlow = .ok key) :
      Compiles (.action (.mk info flow) path targets (Entries.put info.params "payload" (.str key)))
        p (p.referring key)
  | postback {info path targets p} (hk : info.kind = .postback) (ht : info.thenFlow.isNone = true) :
      Compiles (.action (.mk info none) path targets info.params) p p
  | button {info flow path targets id own key p q} (hk : info.kind.carriesFlow = true)
      (ht : info.thenFlow.isNone = true) (hb : (info.kind == .postback && flow.isNone) = false)
      (hid : info.buttonId = some id) (hpath : FlowPath.append path id = .ok own)
      (inner : Compiles (.flow (flow.getD []) own (targets.ofAction info.kind) 0) p q)
      (hkey : q.pathKey own = .ok key) :
      Compiles (.action (.mk info flow) path targets (Entries.put info.params "payload" (.str key)))
        p (q.offering info.kind key own)
  | noItems {path targets p} : Compiles (.items .absent path targets .absent) p p
  | computedItems {handler path targets p} :
      Compiles (.items (.computed handler) path targets (.computed handler)) p p
  | fixedItems {list path targets plans p q}
      (inner : Compiles (.itemList list path targets plans) p q) :
      Compiles (.items (.fixed list) path targets (.fixed plans)) p q
  | itemNil {path targets p} : Compiles (.itemList [] path targets []) p p
  | itemCons {info actions rest path targets own plan plans p q r}
      (hpath : info.actionRoot actions path = .ok own)
      (first : Compiles (.actions actions own targets plan) p q)
      (later : Compiles (.itemList rest path targets plans) q r) :
      Compiles (.itemList (.mk info actions :: rest) path targets ((info.params, plan) :: plans)) p r

namespace Compile

theorem bind_eq_ok {α β : Type} {x : Compile α} {f : α → Compile β} {p r : Program} {b : β} :
    (x >>= f) p = .ok b r ↔ ∃ a q, x p = .ok a q ∧ f a q = .ok b r := by
  change EStateM.bind x f p = .ok b r ↔ _
  unfold EStateM.bind
  cases x p with
  | ok a q =>
    constructor
    · intro h
      exact ⟨a, q, rfl, h⟩
    · rintro ⟨_, _, ⟨⟩, h⟩
      exact h
  | error e q => simp

theorem bind_eq_error {α β : Type} {x : Compile α} {f : α → Compile β} {p r : Program} {e : Error} :
    (x >>= f) p = .error e r ↔ x p = .error e r ∨ ∃ a q, x p = .ok a q ∧ f a q = .error e r := by
  change EStateM.bind x f p = .error e r ↔ _
  unfold EStateM.bind
  cases x p with
  | ok a q =>
    constructor
    · intro h
      exact .inr ⟨a, q, rfl, h⟩
    · rintro (⟨⟨⟩⟩ | ⟨_, _, ⟨⟩, h⟩)
      exact h
  | error e' q => simp

theorem pure_eq_ok {α : Type} {a b : α} {p q : Program} :
    (pure a : Compile α) p = .ok b q ↔ a = b ∧ p = q := by
  change EStateM.Result.ok a p = .ok b q ↔ _
  simp

theorem ofExcept_eq_ok {α : Type} {x : Except Error α} {a : α} {p q : Program} :
    ofExcept x p = .ok a q ↔ x = .ok a ∧ p = q := by
  cases x with
  | ok b => simp [ofExcept, pure_eq_ok]
  | error e =>
    change EStateM.Result.error e p = .ok a q ↔ _
    simp

theorem ofExcept_eq_error {α : Type} {x : Except Error α} {e : Error} {p q : Program} :
    ofExcept x p = .error e q ↔ x = .error e ∧ p = q := by
  cases x with
  | ok a => exact iff_of_false nofun fun h => nomatch h.1
  | error e' =>
    change EStateM.Result.error e' p = .error e q ↔ _
    simp

theorem ofExcept_bind_eq_ok {α β : Type} {x : Except Error α} {f : α → Compile β} {b : β} {p r : Program} :
    (ofExcept x >>= f) p = .ok b r ↔ ∃ a, x = .ok a ∧ f a p = .ok b r := by
  rw [bind_eq_ok]
  constructor
  · rintro ⟨a, _, hread, h⟩
    obtain ⟨hx, rfl⟩ := ofExcept_eq_ok.mp hread
    exact ⟨a, hx, h⟩
  · rintro ⟨a, hx, h⟩
    exact ⟨a, p, ofExcept_eq_ok.mpr ⟨hx, rfl⟩, h⟩

theorem bind_pure_eq_ok {α β : Type} {x : Compile α} {g : α → β} {b : β} {p r : Program} :
    (x >>= fun a => pure (g a)) p = .ok b r ↔ ∃ a, x p = .ok a r ∧ g a = b := by
  rw [bind_eq_ok]
  constructor
  · rintro ⟨a, _, hx, h⟩
    obtain ⟨rfl, rfl⟩ := pure_eq_ok.mp h
    exact ⟨a, hx, rfl⟩
  · rintro ⟨a, hx, rfl⟩
    exact ⟨a, r, hx, rfl⟩

theorem append_eq_ok {path own : FlowPath} {id : String} {p q : Program} :
    append path id p = .ok own q ↔ FlowPath.append path id = .ok own ∧ p = q := ofExcept_eq_ok

theorem append_bind_eq_ok {β : Type} {path : FlowPath} {id : String} {f : FlowPath → Compile β} {b : β}
    {p r : Program} :
    (append path id >>= f) p = .ok b r ↔ ∃ own, FlowPath.append path id = .ok own ∧ f own p = .ok b r :=
  ofExcept_bind_eq_ok

theorem key_eq_ok {path : FlowPath} {key : String} {p q : Program} :
    Compile.key path p = .ok key q ↔ p.pathKey path = .ok key ∧ p = q := by
  change ofExcept (p.pathKey path) p = .ok key q ↔ _
  exact ofExcept_eq_ok

private theorem key_bind_eq_ok {β : Type} {path : FlowPath} {f : String → Compile β} {b : β} {p r : Program} :
    (key path >>= f) p = .ok b r ↔ ∃ key, p.pathKey path = .ok key ∧ f key p = .ok b r := by
  change (ofExcept (p.pathKey path) >>= f) p = .ok b r ↔ _
  exact ofExcept_bind_eq_ok

theorem register_eq_ok {path : FlowPath} {h : FlowHandler} {p q : Program} :
    register path h p = .ok () q ↔ ∃ key, p.pathKey path = .ok key ∧ p.add key h = .ok q := by
  unfold register
  rw [bind_eq_ok]
  constructor
  · rintro ⟨key, _, hk, hrest⟩
    obtain ⟨hkey, rfl⟩ := key_eq_ok.mp hk
    obtain ⟨_, _, ⟨⟩, hrest⟩ := bind_eq_ok.mp hrest
    obtain ⟨_, _, ha, ⟨⟩⟩ := bind_eq_ok.mp hrest
    exact ⟨key, hkey, (ofExcept_eq_ok.mp ha).1⟩
  · rintro ⟨key, hkey, hadd⟩
    refine ⟨key, p, key_eq_ok.mpr ⟨hkey, rfl⟩, ?_⟩
    refine bind_eq_ok.mpr ⟨p, p, rfl, ?_⟩
    exact bind_eq_ok.mpr ⟨q, p, ofExcept_eq_ok.mpr ⟨hadd, rfl⟩, rfl⟩

private theorem refer_eq_ok {target : Value} {key : String} {p q : Program} :
    refer target p = .ok key q ↔ p.key target = .ok key ∧ p.referring key = q := by
  change (ofExcept (p.key target) >>= fun key => (do set (p.referring key); return key)) p = .ok key q ↔ _
  rw [bind_eq_ok]
  constructor
  · rintro ⟨_, _, hk, ⟨⟩⟩
    exact ⟨(ofExcept_eq_ok.mp hk).1, rfl⟩
  · rintro ⟨hkey, rfl⟩
    exact ⟨key, p, ofExcept_eq_ok.mpr ⟨hkey, rfl⟩, rfl⟩

theorem checkFlow_eq_ok {flow : Flow} {p q : Program} :
    checkFlow flow p = .ok () q ↔ flow.findSome? Element.fault? = none ∧ p = q := by
  unfold checkFlow
  cases h : flow.findSome? Element.fault? with
  | none => simp [pure_eq_ok]
  | some e =>
    change EStateM.Result.error e p = .ok () q ↔ _
    simp

private theorem checkFlow_bind_eq_ok {β : Type} {flow : Flow} {f : Unit → Compile β} {b : β} {p r : Program} :
    (checkFlow flow >>= f) p = .ok b r ↔ flow.findSome? Element.fault? = none ∧ f () p = .ok b r := by
  rw [bind_eq_ok]
  constructor
  · rintro ⟨_, _, hc, h⟩
    obtain ⟨sound, rfl⟩ := checkFlow_eq_ok.mp hc
    exact ⟨sound, h⟩
  · rintro ⟨sound, h⟩
    exact ⟨(), p, checkFlow_eq_ok.mpr ⟨sound, rfl⟩, h⟩

end Compile

theorem compileElements_handler {e : Element} (he : e.command? = none) (rest : Flow) (path : FlowPath)
    (targets : Targets) (index : Nat) :
    compileElements (e :: rest) path targets index =
      (do return .handler e.meaning.toValue :: (← compileElements rest path targets index)) := by
  rw [compileElements]
  split
  · rfl
  · simp_all

theorem compileElements_plain {e : Element} {c : Command} (he : e.command? = some c)
    (hb : c.breaksFlow = false) (rest : Flow) (path : FlowPath) (targets : Targets) (index : Nat) :
    compileElements (e :: rest) path targets index = (do
      let step ← compileCommand c path targets
      return step :: (← compileElements rest path targets index)) := by
  rw [compileElements]
  split
  · simp_all
  · rename_i hc
    cases he.symm.trans hc
    simp [hb]

theorem compileElements_last {e : Element} {c : Command} (he : e.command? = some c)
    (hb : c.breaksFlow = true) (path : FlowPath) (targets : Targets) (index : Nat) :
    compileElements [e] path targets index = (do return [← compileCommand c path targets]) := by
  rw [compileElements]
  split
  · simp_all
  · rename_i hc
    cases he.symm.trans hc
    simp [hb]

theorem compileElements_terminal {e : Element} {c : Command} (he : e.command? = some c)
    (hb : c.breaksFlow = true) (ht : c.isTerminal = true) (next : Element) (rest : Flow)
    (path : FlowPath) (targets : Targets) (index : Nat) :
    compileElements (e :: next :: rest) path targets index = (do
      let key ← Compile.key path
      Compile.warn (unreachableWarning c (next :: rest) key)
      return [← compileCommand c path targets]) := by
  rw [compileElements]
  split
  · simp_all
  · rename_i hc
    cases he.symm.trans hc
    simp [hb, ht, unreachableWarning]

theorem compileElements_broken {e : Element} {c : Command} (he : e.command? = some c)
    (hb : c.breaksFlow = true) (ht : c.isTerminal = false) (next : Element) (rest : Flow)
    (path : FlowPath) (targets : Targets) (index : Nat) :
    compileElements (e :: next :: rest) path targets index = (do
      let own ← compileContinuation (next :: rest) path targets (index + 1)
      return [← compileCommand c path { targets with next := some own }]) := by
  rw [compileElements]
  split
  · simp_all
  · rename_i hc
    cases he.symm.trans hc
    simp [hb, ht]

theorem compileContinuation_spliced {first : Element} {id : String} {body : Flow}
    (hs : first.subFlow? = some (id, body)) (tail : Flow) (path : FlowPath) (targets : Targets)
    (index : Nat) :
    compileContinuation (first :: tail) path targets index = (do
      let continuation ← Compile.append path id
      compileFlow (body ++ tail) continuation targets index
      return continuation) := by
  rw [compileContinuation]
  split
  · rename_i id' body' hs'
    obtain ⟨rfl, rfl⟩ : id = id' ∧ body = body' := by simpa [hs] using hs'
    rfl
  · simp_all

theorem compileContinuation_unspliced {first : Element} (hs : first.subFlow? = none) (tail : Flow)
    (path : FlowPath) (targets : Targets) (index : Nat) :
    compileContinuation (first :: tail) path targets index = (do
      let continuation ← Compile.append path ("flow" ++ toString index)
      compileFlow (first :: tail) continuation targets index
      return continuation) := by
  rw [compileContinuation]
  split
  · simp_all
  · rfl

theorem compileCommand_startLast (id : String) (target args : Value) (path : FlowPath)
    {targets : Targets} (hnext : targets.next = none) :
    compileCommand (.start id target args none) path targets = (do
      Compile.ofExcept (StartParam.check target)
      let own ← Compile.append path id
      return .start own target args none) := by
  rw [compileCommand.eq_def]
  simp [hnext]

theorem compileCommand_start (id : String) (target args : Value) {resume : Option Flow}
    (path : FlowPath) {targets : Targets} (hresume : (resume.isNone && targets.next.isNone) = false) :
    compileCommand (.start id target args resume) path targets = (do
      Compile.ofExcept (StartParam.check target)
      let own ← Compile.append path id
      compileFlow (resume.getD []) own targets 0
      let tag ← Compile.key own
      modify fun p => p.awaiting target tag own
      return .start own target args (some tag)) := by
  rw [compileCommand.eq_def]
  simp only [hresume]
  cases resume <;> rfl

private theorem compileAction_button {info : ActionInfo} (hk : info.kind.carriesFlow = true)
    (ht : info.thenFlow.isNone = true) {flow : Option Flow}
    (hb : (info.kind == .postback && flow.isNone) = false) {id : String}
    (hid : info.buttonId = some id) (path : FlowPath) (targets : Targets) :
    compileAction (.mk info flow) path targets = (do
      let own ← Compile.append path id
      compileFlow (flow.getD []) own (targets.ofAction info.kind) 0
      let key ← Compile.key own
      modify fun p => p.offering info.kind key own
      return Entries.put info.params "payload" (.str key)) := by
  rw [compileAction.eq_def]
  simp only [hk, ht, hb, hid]
  cases flow <;> rfl

theorem flowWeight_getD (flow : Option Flow) : flowWeight (flow.getD []) = optionWeight flow := by
  cases flow <;> simp [optionWeight, flowWeight]

open Compile in
mutual

theorem compiles_of_compileFlow {flow : Flow} {path : FlowPath} {targets : Targets} {index : Nat}
    {p r : Program} (h : compileFlow flow path targets index p = .ok () r) :
    Compiles (.flow flow path targets index) p r := by
  rw [compileFlow] at h
  obtain ⟨sound, h⟩ := checkFlow_bind_eq_ok.mp h
  obtain ⟨own, hown, h⟩ := key_bind_eq_ok.mp h
  obtain ⟨steps, q, hsteps, h⟩ := bind_eq_ok.mp h
  obtain ⟨key, hkey, hadd⟩ := register_eq_ok.mp h
  exact .flow sound hown (compiles_of_compileElements hsteps) hkey hadd
termination_by (flowWeight flow, 2)

theorem compiles_of_compileElements {flow : Flow} {path : FlowPath} {targets : Targets} {index : Nat}
    {steps : List Step} {p r : Program}
    (h : compileElements flow path targets index p = .ok steps r) :
    Compiles (.elements flow path targets index steps) p r := by
  match flow with
  | [] =>
    rw [compileElements] at h
    obtain ⟨rfl, rfl⟩ := pure_eq_ok.mp h
    exact .nil
  | e :: rest =>
    have hpos := e.weight_pos
    cases he : e.command? with
    | none =>
      rw [compileElements_handler he] at h
      obtain ⟨later, hl, rfl⟩ := bind_pure_eq_ok.mp h
      exact .handler he (compiles_of_compileElements hl)
    | some c =>
      have hle := Element.weight_le_of_command? he
      cases hb : c.breaksFlow with
      | false =>
        rw [compileElements_plain he hb] at h
        obtain ⟨step, q, hs, h⟩ := bind_eq_ok.mp h
        obtain ⟨later, hl, rfl⟩ := bind_pure_eq_ok.mp h
        exact .plain he hb (compiles_of_compileCommand hs) (compiles_of_compileElements hl)
      | true =>
        match rest with
        | [] =>
          rw [compileElements_last he hb] at h
          obtain ⟨step, hs, rfl⟩ := bind_pure_eq_ok.mp h
          exact .last he hb (compiles_of_compileCommand hs)
        | next :: tail =>
          cases ht : c.isTerminal with
          | true =>
            rw [compileElements_terminal he hb ht] at h
            obtain ⟨key, hkey, h⟩ := key_bind_eq_ok.mp h
            obtain ⟨_, _, ⟨⟩, h⟩ := bind_eq_ok.mp h
            obtain ⟨step, hs, rfl⟩ := bind_pure_eq_ok.mp h
            exact .terminal he hb (by simp) ht hkey (compiles_of_compileCommand hs)
          | false =>
            rw [compileElements_broken he hb ht] at h
            obtain ⟨own, q, hr, h⟩ := bind_eq_ok.mp h
            obtain ⟨step, hs, rfl⟩ := bind_pure_eq_ok.mp h
            exact .broken he hb ht (compiles_of_compileContinuation (by simp) hr)
              (compiles_of_compileCommand hs)
termination_by (flowWeight flow, 1)
decreasing_by
  all_goals
    simp only [flowWeight, Prod.lex_def]
    omega

theorem compiles_of_compileContinuation {rest : Flow} {path next : FlowPath} {targets : Targets}
    {index : Nat} {p r : Program} (hrest : rest ≠ [])
    (h : compileContinuation rest path targets index p = .ok next r) :
    Compiles (.continuation rest path targets index next) p r := by
  match rest with
  | [] => exact absurd rfl hrest
  | first :: tail =>
    cases hs : first.subFlow? with
    | none =>
      rw [compileContinuation_unspliced hs] at h
      obtain ⟨own, hpath, h⟩ := append_bind_eq_ok.mp h
      obtain ⟨_, hf, rfl⟩ := bind_pure_eq_ok.mp h
      exact .unspliced hs hpath (compiles_of_compileFlow hf)
    | some named =>
      obtain ⟨id, body⟩ := named
      have hlt := Element.flowWeight_lt_of_subFlow? hs
      rw [compileContinuation_spliced hs] at h
      obtain ⟨own, hpath, h⟩ := append_bind_eq_ok.mp h
      obtain ⟨_, hf, rfl⟩ := bind_pure_eq_ok.mp h
      exact .spliced hs hpath (compiles_of_compileFlow hf)
termination_by (flowWeight rest, 3)
decreasing_by
  · exact Prod.Lex.right _ (by omega)
  · simp only [flowWeight_append, flowWeight, Prod.lex_def]
    omega

theorem compiles_of_compileCommand {c : Command} {path : FlowPath} {targets : Targets} {step : Step}
    {p r : Program} (h : compileCommand c path targets p = .ok step r) :
    Compiles (.command c path targets step) p r := by
  match c with
  | .message kind id body actions items =>
    rw [compileCommand.eq_def] at h
    obtain ⟨own, hpath, h⟩ := append_bind_eq_ok.mp h
    obtain ⟨actionPlan, q, ha, h⟩ := bind_eq_ok.mp h
    have first := compiles_of_compileActions ha
    cases hitems : items with
    | absent =>
      rw [hitems] at h
      obtain ⟨_, _, ⟨⟩, h⟩ := bind_eq_ok.mp h
      obtain ⟨rfl, rfl⟩ := pure_eq_ok.mp h
      exact .message hpath first .noItems
    | computed handler =>
      rw [hitems] at h
      obtain ⟨_, _, ⟨⟩, h⟩ := bind_eq_ok.mp h
      obtain ⟨rfl, rfl⟩ := pure_eq_ok.mp h
      exact .message hpath first .computedItems
    | fixed list =>
      rw [hitems] at h
      have hweight : itemsWeight list = items.weight := by rw [hitems, Items.weight]
      obtain ⟨plans, q', hi, h⟩ := bind_eq_ok.mp h
      obtain ⟨_, _, ⟨⟩, h⟩ := bind_eq_ok.mp h
      obtain ⟨rfl, rfl⟩ := pure_eq_ok.mp h
      exact .message hpath first (.fixedItems (compiles_of_compileItems hi))
  | .conditional id test yes no =>
    rw [compileCommand.eq_def] at h
    obtain ⟨root, hroot, h⟩ := append_bind_eq_ok.mp h
    obtain ⟨yesPath, hyes, h⟩ := append_bind_eq_ok.mp h
    obtain ⟨noPath, hno, h⟩ := append_bind_eq_ok.mp h
    obtain ⟨_, q, hf, h⟩ := bind_eq_ok.mp h
    obtain ⟨_, hs, rfl⟩ := bind_pure_eq_ok.mp h
    exact .conditional hroot hyes hno (compiles_of_compileFlow hf) (compiles_of_compileFlow hs)
  | .switch id value cases default =>
    rw [compileCommand.eq_def] at h
    obtain ⟨root, hroot, h⟩ := append_bind_eq_ok.mp h
    obtain ⟨exit, hexit, h⟩ := append_bind_eq_ok.mp h
    obtain ⟨_, q, he, h⟩ := bind_eq_ok.mp h
    have exits := compiles_of_compileFlow he
    cases hdefault : default with
    | none =>
      rw [hdefault] at h
      obtain ⟨_, _, ⟨⟩, h⟩ := bind_eq_ok.mp h
      obtain ⟨⟨paths, first⟩, hc, rfl⟩ := bind_pure_eq_ok.mp h
      exact .switch hroot hexit exits .noDefault (compiles_of_compileCases hc)
    | some body =>
      rw [hdefault] at h
      have hweight : flowWeight body = optionWeight default := by rw [hdefault, optionWeight]
      obtain ⟨own, hpath, h⟩ := append_bind_eq_ok.mp h
      obtain ⟨_, q', hd, h⟩ := bind_eq_ok.mp h
      obtain ⟨_, _, ⟨⟩, h⟩ := bind_eq_ok.mp h
      obtain ⟨⟨paths, first⟩, hc, rfl⟩ := bind_pure_eq_ok.mp h
      exact .switch hroot hexit exits (.default hpath (compiles_of_compileFlow hd))
        (compiles_of_compileCases hc)
  | .iteration id init condition increment body =>
    have htail := flowWeight_loopTail_le body increment
    have hincrement := flowWeight_incrementFlow_le increment
    rw [compileCommand.eq_def] at h
    obtain ⟨root, hroot, h⟩ := append_bind_eq_ok.mp h
    obtain ⟨loop, hloop, h⟩ := append_bind_eq_ok.mp h
    obtain ⟨bodyPath, hbody, h⟩ := append_bind_eq_ok.mp h
    obtain ⟨again, hagain, h⟩ := append_bind_eq_ok.mp h
    obtain ⟨exit, hexit, h⟩ := append_bind_eq_ok.mp h
    obtain ⟨_, hvalues, h⟩ := ofExcept_bind_eq_ok.mp h
    obtain ⟨-, h⟩ := checkFlow_bind_eq_ok.mp h
    obtain ⟨_, q, he, h⟩ := bind_eq_ok.mp h
    obtain ⟨_, q, hb, h⟩ := bind_eq_ok.mp h
    obtain ⟨_, q, hi, h⟩ := bind_eq_ok.mp h
    obtain ⟨_, q, hl, h⟩ := bind_eq_ok.mp h
    obtain ⟨key, hkey, hadd⟩ := register_eq_ok.mp hl
    have build (own : FlowPath) (hinit : init.isEmpty = false → FlowPath.append root "init" = .ok own) :
        Compiles (.command (.iteration id init condition increment body) path targets
          (.iteration (if init.isEmpty then none else some (own, init)) loop)) p _ :=
      .iteration hroot hloop hbody hagain hexit hvalues (compiles_of_compileFlow he) (compiles_of_compileFlow hb)
        (compiles_of_compileFlow hi) hkey hadd hinit
    cases hinit : init.isEmpty with
    | true =>
      rw [hinit] at h
      obtain ⟨rfl, rfl⟩ := pure_eq_ok.mp h
      simpa [hinit] using build [] (by simp [hinit])
    | false =>
      rw [hinit] at h
      obtain ⟨own, hown, h⟩ := append_bind_eq_ok.mp h
      obtain ⟨rfl, rfl⟩ := pure_eq_ok.mp h
      simpa [hinit] using build own (fun _ => hown)
  | .start id target args resume =>
    have hweight := flowWeight_getD resume
    cases hresume : resume.isNone && targets.next.isNone with
    | true =>
      obtain ⟨hr, hn⟩ := Bool.and_eq_true_iff.mp hresume
      obtain rfl := Option.isNone_iff_eq_none.mp hr
      have hnext := Option.isNone_iff_eq_none.mp hn
      rw [compileCommand_startLast id target args path hnext] at h
      obtain ⟨_, hcheck, h⟩ := ofExcept_bind_eq_ok.mp h
      obtain ⟨own, hpath, h⟩ := append_bind_eq_ok.mp h
      obtain ⟨rfl, rfl⟩ := pure_eq_ok.mp h
      exact .startLast hcheck hpath hnext
    | false =>
      rw [compileCommand_start id target args path hresume] at h
      obtain ⟨_, hcheck, h⟩ := ofExcept_bind_eq_ok.mp h
      obtain ⟨own, hpath, h⟩ := append_bind_eq_ok.mp h
      obtain ⟨_, q, hf, h⟩ := bind_eq_ok.mp h
      obtain ⟨tag, htag, h⟩ := key_bind_eq_ok.mp h
      obtain ⟨_, _, ⟨⟩, h⟩ := bind_eq_ok.mp h
      obtain ⟨rfl, rfl⟩ := pure_eq_ok.mp h
      exact .start hcheck hpath hresume (compiles_of_compileFlow hf) htag
  | .finish id result =>
    rw [compileCommand.eq_def] at h
    obtain ⟨own, hpath, h⟩ := append_bind_eq_ok.mp h
    obtain ⟨rfl, rfl⟩ := pure_eq_ok.mp h
    exact .finish hpath
  | .set id values =>
    rw [compileCommand.eq_def] at h
    obtain ⟨own, hpath, h⟩ := append_bind_eq_ok.mp h
    obtain ⟨rfl, rfl⟩ := pure_eq_ok.mp h
    exact .set hpath
  | .exec id target args =>
    rw [compileCommand.eq_def] at h
    obtain ⟨own, hpath, h⟩ := append_bind_eq_ok.mp h
    obtain ⟨rfl, rfl⟩ := pure_eq_ok.mp h
    exact .exec hpath
  | .wait id seconds =>
    rw [compileCommand.eq_def] at h
    obtain ⟨own, hpath, h⟩ := append_bind_eq_ok.mp h
    obtain ⟨rfl, rfl⟩ := pure_eq_ok.mp h
    exact .wait hpath
  | .break id =>
    rw [compileCommand.eq_def] at h
    cases ht : targets.breakTo with
    | none =>
      rw [ht] at h
      obtain ⟨_, _, _, ⟨⟩⟩ := bind_eq_ok.mp h
    | some target =>
      rw [ht] at h
      obtain ⟨rfl, rfl⟩ := pure_eq_ok.mp h
      exact .break ht
  | .continue id =>
    rw [compileCommand.eq_def] at h
    cases ht : targets.continueTo with
    | none =>
      rw [ht] at h
      obtain ⟨_, _, _, ⟨⟩⟩ := bind_eq_ok.mp h
    | some target =>
      rw [ht] at h
      obtain ⟨rfl, rfl⟩ := pure_eq_ok.mp h
      exact .continue ht
  | .flow id body =>
    rw [compileCommand.eq_def] at h
    obtain ⟨own, hpath, h⟩ := append_bind_eq_ok.mp h
    obtain ⟨_, hf, rfl⟩ := bind_pure_eq_ok.mp h
    exact .subFlow hpath (compiles_of_compileFlow hf)
termination_by (c.weight, 0)
decreasing_by
  all_goals
    simp only [Command.weight, flowWeight, flowWeight_append, Prod.lex_def]
    omega

theorem compiles_of_compileCases {cases : List Case} {root last first : FlowPath} {targets : Targets}
    {paths : List (Value × FlowPath)} {p r : Program}
    (h : compileCases cases root targets last p = .ok (paths, first) r) :
    Compiles (.cases cases root targets last paths first) p r := by
  match cases with
  | [] =>
    rw [compileCases] at h
    obtain ⟨⟨⟩, rfl⟩ := pure_eq_ok.mp h
    exact .noCase
  | .mk id value body :: rest =>
    rw [compileCases] at h
    obtain ⟨⟨later, next⟩, q, hl, h⟩ := bind_eq_ok.mp h
    obtain ⟨own, hpath, h⟩ := append_bind_eq_ok.mp h
    obtain ⟨_, q', hb, h⟩ := bind_eq_ok.mp h
    obtain ⟨⟨⟩, rfl⟩ := pure_eq_ok.mp h
    exact .case (compiles_of_compileCases hl) hpath (compiles_of_compileFlow hb)
termination_by (casesWeight cases, 0)
decreasing_by
  all_goals
    simp only [casesWeight, Case.weight, Prod.lex_def]
    omega

theorem compiles_of_compileActions {actions : Actions} {path : FlowPath} {targets : Targets}
    {plan : ActionPlan} {p r : Program} (h : compileActions actions path targets p = .ok plan r) :
    Compiles (.actions actions path targets plan) p r := by
  match actions with
  | .absent =>
    rw [compileActions] at h
    obtain ⟨rfl, rfl⟩ := pure_eq_ok.mp h
    exact .noActions
  | .computed handler =>
    rw [compileActions] at h
    obtain ⟨rfl, rfl⟩ := pure_eq_ok.mp h
    exact .computedActions
  | .fixed list =>
    rw [compileActions] at h
    obtain ⟨entries, hl, rfl⟩ := bind_pure_eq_ok.mp h
    exact .fixedActions (compiles_of_compileActionList hl)
termination_by (actions.weight, 2)
decreasing_by
  simp only [Actions.weight]
  exact Prod.Lex.right _ (by omega)

theorem compiles_of_compileActionList {actions : List Action} {path : FlowPath} {targets : Targets}
    {entries : List Entries} {p r : Program}
    (h : compileActionList actions path targets p = .ok entries r) :
    Compiles (.actionList actions path targets entries) p r := by
  match actions with
  | [] =>
    rw [compileActionList] at h
    obtain ⟨rfl, rfl⟩ := pure_eq_ok.mp h
    exact .actionNil
  | a :: rest =>
    rw [compileActionList] at h
    obtain ⟨params, q, ha, h⟩ := bind_eq_ok.mp h
    obtain ⟨more, hm, rfl⟩ := bind_pure_eq_ok.mp h
    exact .actionCons (compiles_of_compileAction ha) (compiles_of_compileActionList hm)
termination_by (actionsWeight actions, 1)
decreasing_by
  all_goals
    have : 0 < a.weight := by cases a; simp only [Action.weight]; omega
    simp only [actionsWeight, Prod.lex_def]
    omega

theorem compiles_of_compileAction {a : Action} {path : FlowPath} {targets : Targets}
    {entries : Entries} {p r : Program} (h : compileAction a path targets p = .ok entries r) :
    Compiles (.action a path targets entries) p r := by
  match a with
  | .mk info flow =>
    cases hk : info.kind.carriesFlow with
    | false =>
      rw [compileAction.eq_def] at h
      simp only [hk, Bool.not_false, if_true] at h
      split at h
      · cases h
      · rename_i hnone
        obtain ⟨rfl, ht⟩ : flow = none ∧ info.thenFlow.isNone = true := by simpa using hnone
        obtain ⟨rfl, rfl⟩ := pure_eq_ok.mp h
        exact .inert hk ht
    | true =>
      cases ht : info.thenFlow.isNone with
      | false =>
        rw [compileAction.eq_def] at h
        simp only [hk, ht, Bool.not_true, Bool.not_false, if_true, Bool.false_eq_true, if_false] at h
        obtain ⟨key, hr, rfl⟩ := bind_pure_eq_ok.mp h
        obtain ⟨hkey, rfl⟩ := refer_eq_ok.mp hr
        exact .reference hk ht hkey
      | true =>
        cases hb : info.kind == .postback && flow.isNone with
        | true =>
          obtain ⟨hkind, hnone⟩ := Bool.and_eq_true_iff.mp hb
          obtain rfl := Option.isNone_iff_eq_none.mp hnone
          rw [compileAction.eq_def] at h
          simp only [hk, ht, hb, Bool.not_true, if_true, Bool.false_eq_true, if_false] at h
          obtain ⟨rfl, rfl⟩ := pure_eq_ok.mp h
          exact .postback (by simpa using hkind) ht
        | false =>
          cases hid : info.buttonId with
          | none =>
            rw [compileAction.eq_def] at h
            simp only [hk, ht, hb, hid, Bool.not_true, Bool.false_eq_true, if_false] at h
            cases h
          | some id =>
            rw [compileAction_button hk ht hb hid] at h
            obtain ⟨own, hpath, h⟩ := append_bind_eq_ok.mp h
            obtain ⟨_, q, hf, h⟩ := bind_eq_ok.mp h
            obtain ⟨key, hkey, h⟩ := key_bind_eq_ok.mp h
            obtain ⟨_, _, ⟨⟩, h⟩ := bind_eq_ok.mp h
            obtain ⟨rfl, rfl⟩ := pure_eq_ok.mp h
            exact .button hk ht hb hid hpath (compiles_of_compileFlow hf) hkey
termination_by (a.weight, 0)
decreasing_by
  simp only [Action.weight, flowWeight_getD, Prod.lex_def]
  omega

theorem compiles_of_compileItems {items : List Item} {path : FlowPath} {targets : Targets}
    {plans : List (Entries × ActionPlan)} {p r : Program}
    (h : compileItems items path targets p = .ok plans r) :
    Compiles (.itemList items path targets plans) p r := by
  match items with
  | [] =>
    rw [compileItems] at h
    obtain ⟨rfl, rfl⟩ := pure_eq_ok.mp h
    exact .itemNil
  | .mk info actions :: rest =>
    rw [compileItems] at h
    obtain ⟨own, hpath, h⟩ := ofExcept_bind_eq_ok.mp h
    obtain ⟨plan, q, ha, h⟩ := bind_eq_ok.mp h
    obtain ⟨more, hm, rfl⟩ := bind_pure_eq_ok.mp h
    exact .itemCons hpath (compiles_of_compileActions ha) (compiles_of_compileItems hm)
termination_by (itemsWeight items, 0)
decreasing_by
  all_goals
    simp only [itemsWeight, Item.weight, Prod.lex_def]
    omega

end

def Job.Succeeds (job : Job) (p q : Program) : Prop :=
  match job with
  | .flow f path targets index => compileFlow f path targets index p = .ok () q
  | .elements f path targets index steps => compileElements f path targets index p = .ok steps q
  | .continuation rest path targets index next =>
    compileContinuation rest path targets index p = .ok next q
  | .command c path targets step => compileCommand c path targets p = .ok step q
  | .fallback body? root targets exit own =>
    (match body? with
      | none => pure exit
      | some body => do
        let own ← Compile.append root "default"
        compileFlow body own { targets with next := some exit } 0
        pure own : Compile FlowPath) p = .ok own q
  | .cases cs root targets last paths first => compileCases cs root targets last p = .ok (paths, first) q
  | .actions as path targets plan => compileActions as path targets p = .ok plan q
  | .actionList as path targets entries => compileActionList as path targets p = .ok entries q
  | .action a path targets entries => compileAction a path targets p = .ok entries q
  | .items is path targets plan =>
    (match is with
      | .absent => pure ItemPlan.absent
      | .computed handler => pure (ItemPlan.computed handler)
      | .fixed list => do pure (ItemPlan.fixed (← compileItems list path targets)) :
        Compile ItemPlan) p = .ok plan q
  | .itemList is path targets plans => compileItems is path targets p = .ok plans q

open Compile in
/-- A derivation tells what the compiler does, so derivations are all of its successful runs. -/
theorem Compiles.succeeds {job : Job} {p q : Program} (h : Compiles job p q) : job.Succeeds p q := by
  induction h with
  | flow sound hown _ hkey hadd ih =>
    simp only [Job.Succeeds]
    rw [compileFlow.eq_def]
    refine checkFlow_bind_eq_ok.mpr ⟨sound, ?_⟩
    refine key_bind_eq_ok.mpr ⟨_, hown, ?_⟩
    exact bind_eq_ok.mpr ⟨_, _, ih, register_eq_ok.mpr ⟨_, hkey, hadd⟩⟩
  | nil =>
    simp only [Job.Succeeds]
    rw [compileElements.eq_def]
    rfl
  | handler he _ ih =>
    simp only [Job.Succeeds]
    rw [compileElements_handler he]
    exact bind_eq_ok.mpr ⟨_, _, ih, rfl⟩
  | plain he hb _ _ ih ih' =>
    simp only [Job.Succeeds]
    rw [compileElements_plain he hb]
    exact bind_eq_ok.mpr ⟨_, _, ih, bind_eq_ok.mpr ⟨_, _, ih', rfl⟩⟩
  | last he hb _ ih =>
    simp only [Job.Succeeds]
    rw [compileElements_last he hb]
    exact bind_eq_ok.mpr ⟨_, _, ih, rfl⟩
  | @terminal e c rest _ _ _ _ _ _ _ he hb hrest ht hkey _ ih =>
    simp only [Job.Succeeds]
    cases rest with
    | nil => exact absurd rfl hrest
    | cons next rest =>
      rw [compileElements_terminal he hb ht]
      refine key_bind_eq_ok.mpr ⟨_, hkey, ?_⟩
      exact bind_eq_ok.mpr ⟨_, _, rfl, bind_eq_ok.mpr ⟨_, _, ih, rfl⟩⟩
  | @broken e c rest _ _ _ _ _ _ _ _ he hb ht later _ ih ih' =>
    simp only [Job.Succeeds]
    cases rest with
    | nil => cases later
    | cons next rest =>
      rw [compileElements_broken he hb ht]
      exact bind_eq_ok.mpr ⟨_, _, ih, bind_eq_ok.mpr ⟨_, _, ih', rfl⟩⟩
  | spliced hs hpath _ ih =>
    simp only [Job.Succeeds]
    rw [compileContinuation_spliced hs]
    refine append_bind_eq_ok.mpr ⟨_, hpath, ?_⟩
    exact bind_eq_ok.mpr ⟨_, _, ih, rfl⟩
  | unspliced hs hpath _ ih =>
    simp only [Job.Succeeds]
    rw [compileContinuation_unspliced hs]
    refine append_bind_eq_ok.mpr ⟨_, hpath, ?_⟩
    exact bind_eq_ok.mpr ⟨_, _, ih, rfl⟩
  | @message kind id body actions items _ _ _ _ _ _ _ _ hpath _ _ ih ih' =>
    simp only [Job.Succeeds]
    rw [compileCommand.eq_def]
    refine append_bind_eq_ok.mpr ⟨_, hpath, ?_⟩
    refine bind_eq_ok.mpr ⟨_, _, ih, ?_⟩
    simp only [Job.Succeeds] at ih'
    cases items with
    | absent =>
      obtain ⟨rfl, rfl⟩ := pure_eq_ok.mp ih'
      rfl
    | computed handler =>
      obtain ⟨rfl, rfl⟩ := pure_eq_ok.mp ih'
      rfl
    | fixed list =>
      obtain ⟨_, _, hi, h⟩ := bind_eq_ok.mp ih'
      obtain ⟨rfl, rfl⟩ := pure_eq_ok.mp h
      exact bind_eq_ok.mpr ⟨_, _, hi, rfl⟩
  | conditional hroot hyes hno _ _ ih ih' =>
    simp only [Job.Succeeds]
    rw [compileCommand.eq_def]
    refine append_bind_eq_ok.mpr ⟨_, hroot, ?_⟩
    refine append_bind_eq_ok.mpr ⟨_, hyes, ?_⟩
    refine append_bind_eq_ok.mpr ⟨_, hno, ?_⟩
    exact bind_eq_ok.mpr ⟨_, _, ih, bind_eq_ok.mpr ⟨_, _, ih', rfl⟩⟩
  | @switch id value cases default _ _ _ _ _ _ _ _ _ _ _ hroot hexit _ _ _ ih ih' ih'' =>
    simp only [Job.Succeeds]
    rw [compileCommand.eq_def]
    refine append_bind_eq_ok.mpr ⟨_, hroot, ?_⟩
    refine append_bind_eq_ok.mpr ⟨_, hexit, ?_⟩
    refine bind_eq_ok.mpr ⟨_, _, ih, ?_⟩
    simp only [Job.Succeeds] at ih'
    cases default with
    | none =>
      obtain ⟨rfl, rfl⟩ := pure_eq_ok.mp ih'
      exact bind_eq_ok.mpr ⟨_, _, rfl, bind_eq_ok.mpr ⟨_, _, ih'', rfl⟩⟩
    | some body =>
      obtain ⟨_, _, hp, h⟩ := bind_eq_ok.mp ih'
      obtain ⟨_, hf, rfl⟩ := bind_pure_eq_ok.mp h
      refine bind_eq_ok.mpr ⟨_, _, hp, bind_eq_ok.mpr ⟨_, _, hf, ?_⟩⟩
      exact bind_eq_ok.mpr ⟨_, _, rfl, bind_eq_ok.mpr ⟨_, _, ih'', rfl⟩⟩
  | @iteration id init condition increment body _ _ _ _ _ _ _ _ _ _ _ _ _ _ _ hroot hloop hbody hagain hexit hvalues
      _ repeats _ hkey hadd hinit ih ih' ih'' =>
    simp only [Job.Succeeds]
    rw [compileCommand.eq_def]
    refine append_bind_eq_ok.mpr ⟨_, hroot, ?_⟩
    refine append_bind_eq_ok.mpr ⟨_, hloop, ?_⟩
    refine append_bind_eq_ok.mpr ⟨_, hbody, ?_⟩
    refine append_bind_eq_ok.mpr ⟨_, hagain, ?_⟩
    refine append_bind_eq_ok.mpr ⟨_, hexit, ?_⟩
    refine ofExcept_bind_eq_ok.mpr ⟨_, hvalues, ?_⟩
    have sound : body.findSome? Element.fault? = none := by
      cases repeats with
      | flow sound _ _ _ _ => exact (List.findSome?_eq_none_iff.mpr fun e he =>
          List.findSome?_eq_none_iff.mp sound e (List.mem_append_left _ he))
    refine checkFlow_bind_eq_ok.mpr ⟨sound, ?_⟩
    refine bind_eq_ok.mpr ⟨_, _, ih, bind_eq_ok.mpr ⟨_, _, ih', bind_eq_ok.mpr ⟨_, _, ih'', ?_⟩⟩⟩
    refine bind_eq_ok.mpr ⟨_, _, register_eq_ok.mpr ⟨_, hkey, hadd⟩, ?_⟩
    cases he : init.isEmpty with
    | true => rfl
    | false => exact append_bind_eq_ok.mpr ⟨_, hinit he, rfl⟩
  | startLast hcheck hpath hnext =>
    simp only [Job.Succeeds]
    rw [compileCommand_startLast _ _ _ _ hnext]
    refine ofExcept_bind_eq_ok.mpr ⟨_, hcheck, ?_⟩
    exact append_bind_eq_ok.mpr ⟨_, hpath, rfl⟩
  | start hcheck hpath hresume _ htag ih =>
    simp only [Job.Succeeds]
    rw [compileCommand_start _ _ _ _ hresume]
    refine ofExcept_bind_eq_ok.mpr ⟨_, hcheck, ?_⟩
    refine append_bind_eq_ok.mpr ⟨_, hpath, ?_⟩
    refine bind_eq_ok.mpr ⟨_, _, ih, ?_⟩
    refine key_bind_eq_ok.mpr ⟨_, htag, ?_⟩
    exact bind_eq_ok.mpr ⟨_, _, rfl, rfl⟩
  | finish hpath | set hpath | exec hpath | wait hpath =>
    simp only [Job.Succeeds]
    rw [compileCommand.eq_def]
    exact append_bind_eq_ok.mpr ⟨_, hpath, rfl⟩
  | «break» ht | «continue» ht =>
    simp only [Job.Succeeds]
    rw [compileCommand.eq_def]
    simp only [ht]
    rfl
  | subFlow hpath _ ih =>
    simp only [Job.Succeeds]
    rw [compileCommand.eq_def]
    refine append_bind_eq_ok.mpr ⟨_, hpath, ?_⟩
    exact bind_eq_ok.mpr ⟨_, _, ih, rfl⟩
  | noDefault | noItems | computedItems =>
    simp only [Job.Succeeds]
    rfl
  | default hpath _ ih =>
    simp only [Job.Succeeds]
    refine append_bind_eq_ok.mpr ⟨_, hpath, ?_⟩
    exact bind_eq_ok.mpr ⟨_, _, ih, rfl⟩
  | noCase =>
    simp only [Job.Succeeds]
    rw [compileCases.eq_def]
    rfl
  | case _ hpath _ ih ih' =>
    simp only [Job.Succeeds]
    rw [compileCases.eq_def]
    refine bind_eq_ok.mpr ⟨_, _, ih, ?_⟩
    refine append_bind_eq_ok.mpr ⟨_, hpath, ?_⟩
    exact bind_eq_ok.mpr ⟨_, _, ih', rfl⟩
  | noActions | computedActions =>
    simp only [Job.Succeeds]
    rw [compileActions.eq_def]
    rfl
  | fixedActions _ ih =>
    simp only [Job.Succeeds]
    rw [compileActions.eq_def]
    exact bind_eq_ok.mpr ⟨_, _, ih, rfl⟩
  | actionNil =>
    simp only [Job.Succeeds]
    rw [compileActionList.eq_def]
    rfl
  | actionCons _ _ ih ih' =>
    simp only [Job.Succeeds]
    rw [compileActionList.eq_def]
    exact bind_eq_ok.mpr ⟨_, _, ih, bind_eq_ok.mpr ⟨_, _, ih', rfl⟩⟩
  | inert hk ht =>
    simp only [Job.Succeeds]
    rw [compileAction.eq_def]
    simp only [hk, ht]
    rfl
  | reference hk ht hkey =>
    simp only [Job.Succeeds]
    rw [compileAction.eq_def]
    simp only [hk, ht]
    exact bind_eq_ok.mpr ⟨_, _, refer_eq_ok.mpr ⟨hkey, rfl⟩, rfl⟩
  | postback hk ht =>
    simp only [Job.Succeeds]
    rw [compileAction.eq_def]
    simp only [hk, ht]
    rfl
  | button hk ht hb hid hpath _ hkey ih =>
    simp only [Job.Succeeds]
    rw [compileAction_button hk ht hb hid]
    refine append_bind_eq_ok.mpr ⟨_, hpath, ?_⟩
    refine bind_eq_ok.mpr ⟨_, _, ih, ?_⟩
    refine key_bind_eq_ok.mpr ⟨_, hkey, ?_⟩
    exact bind_eq_ok.mpr ⟨_, _, rfl, rfl⟩
  | fixedItems _ ih =>
    simp only [Job.Succeeds] at ih ⊢
    exact bind_eq_ok.mpr ⟨_, _, ih, rfl⟩
  | itemNil =>
    simp only [Job.Succeeds]
    rw [compileItems.eq_def]
    rfl
  | itemCons hpath _ _ ih ih' =>
    simp only [Job.Succeeds]
    rw [compileItems.eq_def]
    refine ofExcept_bind_eq_ok.mpr ⟨_, hpath, ?_⟩
    exact bind_eq_ok.mpr ⟨_, _, ih, bind_eq_ok.mpr ⟨_, _, ih', rfl⟩⟩

end Colloquy
