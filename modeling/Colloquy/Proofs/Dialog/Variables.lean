import Colloquy.Proofs.Dialog.Build
import Colloquy.Proofs.Run.Variables

/-!
# Variables of a run and of its session

Commands after a pause see the same variables as they would have seen without it: at every point of a run its variables
are those of the session, and all that matters later was saved when the run ends.
-/

namespace Colloquy

/-- In a dialog that was built, whose functions do not use the session, take a run in a session whose variables were all
written by setting and saving them, and let no mapping of variables be changed in place. Then, wherever a flow or a
step is run, its variables have the same values as those that the session shows handlers, under every name but
`value`. After a run that completes, take a session that is rebuilt from what was saved last, with the values of that
moment (from what was there at first, if nothing was saved). Under every such name that is not volatile it shows the
value that the variable had then, and this is the value at the end of the run unless an object that the variable holds
was changed in place since. -/
theorem variables_keep_in_step {m : Machine} {name source modelName : Value} {settings : Settings}
    {entries : List (String × FlowPath)}
    (hbuild : Program.build name source modelName settings = .ok (m.program, entries)) (happ : m.app.LeavesVariables)
    {w w₀ : World} (hwritten : w.session.Written) (hkeyed : w.heap.Keyed) (path : Value) {value vars : Value}
    (henter : Machine.enter value w = .ok vars w₀)
    (hunchanged : ∀ q, m.Reaches (w₀, .flow path vars) q → q.1.heap.Unchanged q.2.vars) :
    (∀ q, m.Reaches (w₀, .flow path vars) q → q.2.pending = [] →
      q.1.session.Shows q.1.heap q.2.vars (· ≠ "value")) ∧
    ∀ fuel w', m.invoke fuel path vars w₀ = .ok () w' → ∃ last wₛ id shown,
      m.Reaches (w₀, .flow path vars) (w', last) ∧ m.SavedAt (w₀, .flow path vars) (w', last) wₛ ∧
      w'.heap.current last.vars = .dict id shown ∧ ∀ name, name ≠ "value" → variableScope name ≠ .volatiles →
        let saved := Entries.named? ((Session.rebuilt wₛ.heap w.session w'.session).handlerVars .none) name
        saved = (Entries.named? (w'.session.handlerVars .none) name).map wₛ.heap.current ∧
        ((∀ v, Entries.named? (w'.session.handlerVars .none) name = some v → w'.heap.current v = wₛ.heap.current v) →
          Entries.named? shown name = saved) := by
  obtain ⟨-, hclosed, -⟩ := build_eq_ok hbuild
  have hstart := Machine.consistent_enter (m := m) hkeyed hwritten.orderly path henter
  have hreached (q : World × Point) (hq : m.Reaches (w₀, .flow path vars) q) : m.Consistent w.session q.1 q.2 :=
    hstart.reaches (q := (w₀, .flow path vars)) happ hclosed hq hunchanged
  refine ⟨fun q hq hpending => (hreached q hq).shows (hunchanged q hq) hpending, fun fuel w' hinvoke => ?_⟩
  obtain ⟨⟨w₁, last⟩, hq, hend⟩ := (Machine.comesTo_invoke fuel path vars w₀).1 w' hinvoke
  -- a run completes where a sequence has no steps left, so no values are pending there
  obtain ⟨rfl, sequence, vars', rfl⟩ := Machine.move_eq_none hclosed hend
  have hlast := hreached _ hq
  obtain ⟨id, shown, hcurrent, hshows⟩ := hlast.shows (hunchanged _ hq) rfl
  obtain ⟨wₛ, hsaved⟩ := hq.exists_savedAt
  refine ⟨_, wₛ, id, shown, hq, hsaved, hcurrent, fun name hname hscope => ?_⟩
  have hrebuilt := hlast.persisted.named?_rebuilt hlast.orderly wₛ.heap hscope
  refine ⟨hrebuilt, fun hsame => ?_⟩
  rw [hshows name hname, hrebuilt]
  exact Option.map_congr hsame

private theorem Machine.invoke_one {m : Machine} {path vars : Value} {w w' : World}
    (h : m.hop path vars w = .ok none w') :
    m.invoke 1 path vars w = .ok () w' := by
  have hfollow : m.follow 1 (some (path, vars)) w = .ok none w' := by
    rw [Machine.follow, Run.bind_ok h]
    rfl
  rw [Machine.invoke, Run.bind_ok hfollow]
  rfl

/-- A flow that sets a variable. -/
def counter : Value := .record [("onStart", .ofList [.record [("set", .record [("n", .int 1)])]])]

private theorem build_counter : ∃ p,
    Program.build (.str "Trial") counter .none {} = .ok (p, [("onStart", [.name "onStart"])]) ∧
      p.find (.str "Trial:onStart") =
        .ok (.sequence "Trial:onStart" [.name "onStart"] [.set [.name "onStart", .name "set"] [("n", .int 1)]] {}) := by
  have hmake : Program.make (.str "Trial") .none {} =
      .ok { dialog := { name := "Trial", wildcard := .str "*" } } := rfl
  have hdescribed : Normal.described counter = .ok [("onStart", [.command (.set "set" [("n", .int 1)])])] := by
    with_unfolding_all rfl
  have h : Compiles (.flow [.command (.set "set" [("n", .int 1)])] [.name "onStart"] {} 0)
      { dialog := { name := "Trial", wildcard := .str "*" } } _ :=
    .flow rfl rfl (.plain rfl rfl (.set rfl) .nil) rfl (Program.add_eq_ok.mpr ⟨rfl, rfl⟩)
  exact ⟨_, build_of_compiles hmake hdescribed rfl h rfl, by with_unfolding_all rfl⟩

def idle : Application := ⟨fun _ _ => pure .none⟩

private theorem idle_leavesVariables : idle.LeavesVariables := fun _ _ w => ⟨rfl, .refl w.heap⟩

def newSession : Session := { id := .str "s" }

/-- The session after a variable was set and saved. -/
def countedSession : Session :=
  { newSession with locals := [(.str "n", .int 1)], history := [.saved ⟨[], [(.str "n", .int 1)]⟩] }

/-- The flow that sets a variable completes, and the variable is there in a session that is rebuilt afterwards. -/
theorem counter_keeps_in_step : ∃ m : Machine,
    Program.build (.str "Trial") counter .none {} = .ok (m.program, [("onStart", [.name "onStart"])]) ∧
      ∃ (vars : Value) (w₀ w' wₛ : World), Machine.enter .none { session := newSession } = .ok vars w₀ ∧
        m.invoke 1 (.str "Trial:onStart") vars w₀ = .ok () w' ∧ w'.session.locals = [(.str "n", .int 1)] ∧
        Entries.named? ((Session.rebuilt wₛ.heap newSession w'.session).handlerVars .none) "n" = some (.int 1) := by
  obtain ⟨p, hbuild, hfind⟩ := build_counter
  let m : Machine := ⟨idle, [], p⟩
  let sequence : Sequence := ⟨"Trial:onStart", [.name "onStart"], {}⟩
  let step : Step := .set [.name "onStart", .name "set"] [("n", .int 1)]
  let w₀ : World := { session := newSession, heap := { next := 1 } }
  let w₁ : World := { session := countedSession, heap := { next := 2 } }
  let w₂ : World := { session := countedSession, heap := { next := 3 } }
  have henter : Machine.enter .none { session := newSession } = .ok (.dict (.object 0) []) w₀ := by
    with_unfolding_all rfl
  have hflow : m.move (.flow (.str "Trial:onStart") (.dict (.object 0) [])) w₀ =
      .ok (some (.steps sequence (.dict (.object 0) []) [step])) w₀ := by
    rw [Machine.move, hfind]
    rfl
  have hset : m.move (.steps sequence (.dict (.object 0) []) [step]) w₀ =
      .ok (some (.assigned [(.str "n", .int 1)] sequence (.dict (.object 0) []) [])) w₁ := by
    with_unfolding_all rfl
  have hoverlay : m.move (.assigned [(.str "n", .int 1)] sequence (.dict (.object 0) []) []) w₁ =
      .ok (some (.steps sequence (.dict (.object 2) [(.str "n", .int 1)]) [])) w₂ := by
    with_unfolding_all rfl
  have hinvoke : m.invoke 1 (.str "Trial:onStart") (.dict (.object 0) []) w₀ = .ok () w₂ := by
    have hhop : m.hop (.str "Trial:onStart") (.dict (.object 0) []) w₀ = .ok none w₂ := by
      rw [Machine.hop, hfind]
      with_unfolding_all rfl
    exact Machine.invoke_one hhop
  obtain ⟨-, hrebuilt⟩ := variables_keep_in_step (m := m) hbuild idle_leavesVariables (w := { session := newSession })
    (.empty rfl rfl rfl) (Heap.keyed_of_nil rfl) (.str "Trial:onStart") henter
    (Machine.forall_reaches_of_move hflow ⟨_, _, rfl, rfl⟩ <|
      Machine.forall_reaches_of_move hset ⟨_, _, rfl, rfl⟩ <|
      Machine.forall_reaches_of_move hoverlay ⟨_, _, rfl, rfl⟩ <|
      Machine.forall_reaches_of_end rfl ⟨_, _, rfl, rfl⟩)
  obtain ⟨last, wₛ, id, shown, -, -, -, hshown⟩ := hrebuilt 1 w₂ hinvoke
  obtain ⟨hsaved, -⟩ := hshown "n" (by decide) (by decide)
  have hn : Entries.named? (w₂.session.handlerVars .none) "n" = some (.int 1) := by with_unfolding_all rfl
  rw [hn, Option.map_some, Heap.current_of_refresh (fun _ => rfl)] at hsaved
  exact ⟨m, hbuild, _, w₀, w₂, wₛ, henter, hinvoke, rfl, hsaved⟩

/-- A handler that changes the variables that it is given in place, and a text that shows them. -/
def meddling : Value :=
  .record [("onStart", .ofList [.accessor .anonymous [.call (.str "update") [.record [("x", .int 1)]]],
    .str "x=\x7b\x7bx\x7d\x7d"])]

/-- The step of a handler that changes variables in place. -/
def meddlingStep : Step := .handler (.accessor .anonymous [.call (.str "update") [.record [("x", .int 1)]]])

def showingStep : Step := .message
  ⟨[.name "onStart", .name "text"], [(.str "type", .str "text"), (.str "text", .str "x=\x7b\x7bx\x7d\x7d")], .absent, .absent,
    none, false⟩

private theorem build_meddling : ∃ p,
    Program.build (.str "Trial") meddling .none {} = .ok (p, [("onStart", [.name "onStart"])]) ∧
      p.find (.str "Trial:onStart") =
        .ok (.sequence "Trial:onStart" [.name "onStart"] [meddlingStep, showingStep] {}) := by
  have hmake : Program.make (.str "Trial") .none {} =
      .ok { dialog := { name := "Trial", wildcard := .str "*" } } := rfl
  let flow : Flow := [.handler (.accessor .anonymous [.call (.str "update") [.record [("x", .int 1)]]]),
    .command (.message .text "text" { text := .str "x=\x7b\x7bx\x7d\x7d" } .absent .absent)]
  have hdescribed : Normal.described meddling = .ok [("onStart", flow)] := by
    with_unfolding_all rfl
  have h : Compiles (.flow flow [.name "onStart"] {} 0) { dialog := { name := "Trial", wildcard := .str "*" } } _ :=
    .flow rfl rfl (.handler rfl (.plain rfl rfl (.message rfl .noActions .noItems) .nil)) rfl
      (Program.add_eq_ok.mpr ⟨rfl, rfl⟩)
  exact ⟨_, build_of_compiles hmake hdescribed rfl h rfl, by with_unfolding_all rfl⟩

private theorem memberNamed_update (id : Identity) (entries : Entries) :
    (Value.dict id entries).memberNamed? "update" = some (.method (.dict id entries) "update") := by
  have hmethods : (Value.dict id entries).methodNames.contains "update" = true := by
    change dictMethods.contains "update" = true
    decide +kernel
  have hdata : (Value.dict id entries).dataMember? "update" = none := rfl
  unfold Value.memberNamed?
  simp only [hdata, hmethods, Bool.true_or, if_true]

/-- A world in which the variables of a run, and nothing else, were changed in place. -/
def meddledWorld : World :=
  { session := newSession, heap := { next := 1, contents := [(0, .dict (.object 0) [(.str "x", .int 1)])] } }

private theorem followStep_meddling (app : Application) :
    followStep app (.dict (.object 0) []) (.dict (.object 0) []) (.call (.str "update") [.record [("x", .int 1)]])
      { session := newSession, heap := { next := 1 } } = .ok .none meddledWorld := by
  unfold followStep
  simp only [Value.text?]
  rw [Run.bind_ok (show Run.current _ _ = .ok (.dict (.object 0) []) _ from rfl)]
  simp only [Value.isNone, Bool.false_eq_true, memberNamed_update]
  with_unfolding_all rfl

/-- If a handler changes the mapping of variables in place, steps after it run with variables that the session does not
show, although no function of the application uses the session. -/
private theorem meddled_variables_differ : ∃ m : Machine,
    Program.build (.str "Trial") meddling .none {} = .ok (m.program, [("onStart", [.name "onStart"])]) ∧
      m.app.LeavesVariables ∧ ∃ w w₀ vars, w.session.Written ∧ w.heap.Keyed ∧ Machine.enter .none w = .ok vars w₀ ∧
        ∃ q, m.Reaches (w₀, .flow (.str "Trial:onStart") vars) q ∧ q.2.pending = [] ∧
          ¬ q.1.session.Shows q.1.heap q.2.vars (· ≠ "value") := by
  obtain ⟨p, hbuild, hfind⟩ := build_meddling
  let m : Machine := ⟨idle, [], p⟩
  let sequence : Sequence := ⟨"Trial:onStart", [.name "onStart"], {}⟩
  let vars : Value := .dict (.object 0) []
  let w₀ : World := { session := newSession, heap := { next := 1 } }
  have hflow : m.Moves (w₀, .flow (.str "Trial:onStart") vars) (w₀, .steps sequence vars [meddlingStep, showingStep]) := by
    rw [Machine.Moves, Machine.move, hfind]
    rfl
  have hmeddle : m.Moves (w₀, .steps sequence vars [meddlingStep, showingStep])
      (meddledWorld, .steps sequence vars [showingStep]) := by
    have hsteps : followSteps m.app vars vars [.call (.str "update") [.record [("x", .int 1)]]] w₀ =
        .ok .none meddledWorld := by
      rw [followSteps, Run.bind_ok (followStep_meddling m.app)]
      rfl
    have hcall : callHandler m.app (.accessor .anonymous [.call (.str "update") [.record [("x", .int 1)]]]) vars
        sessionValue sequence.path.toValue w₀ = .ok .none meddledWorld := Run.bind_ok hsteps
    have hrun : m.runStep sequence.path vars meddlingStep w₀ = .ok .done meddledWorld := Run.bind_ok hcall
    have hmove := Machine.move_steps (m := m) meddlingStep (fun _ _ h => by cases h) sequence vars [showingStep]
    rw [Machine.Moves, hmove, Run.bind_ok hrun]
    rfl
  refine ⟨m, hbuild, idle_leavesVariables, { session := newSession }, w₀, vars, .empty rfl rfl rfl,
    Heap.keyed_of_nil rfl, by with_unfolding_all rfl, _, .head hflow (.single hmeddle), rfl, ?_⟩
  rintro ⟨id, entries, hcurrent, hshows⟩
  have hchanged : meddledWorld.heap.current vars = .dict (.object 0) [(.str "x", .int 1)] := by
    with_unfolding_all rfl
  obtain ⟨rfl, rfl⟩ : Identity.object 0 = id ∧ [(.str "x", .int 1)] = entries := by
    simpa using hchanged.symm.trans hcurrent
  have hshown : some (Value.int 1) = none := by with_unfolding_all exact hshows "x" (by decide)
  cases hshown

/-- A list that is set and saved, and then appended to. -/
def appending : Value :=
  .record [("onStart", .ofList [.record [("set", .record [("xs", .ofList [])])],
    .accessor .anonymous [.member (.str "xs"), .call (.str "append") [.int 1]]])]

def listStep : Step := .set [.name "onStart", .name "set"] [("xs", .ofList [])]

def appendStep : Step := .handler (.accessor .anonymous [.member (.str "xs"), .call (.str "append") [.int 1]])

private theorem build_appending : ∃ p,
    Program.build (.str "Trial") appending .none {} = .ok (p, [("onStart", [.name "onStart"])]) ∧
      p.find (.str "Trial:onStart") = .ok (.sequence "Trial:onStart" [.name "onStart"] [listStep, appendStep] {}) := by
  have hmake : Program.make (.str "Trial") .none {} =
      .ok { dialog := { name := "Trial", wildcard := .str "*" } } := rfl
  let flow : Flow := [.command (.set "set" [("xs", .ofList [])]),
    .handler (.accessor .anonymous [.member (.str "xs"), .call (.str "append") [.int 1]])]
  have hdescribed : Normal.described appending = .ok [("onStart", flow)] := by
    with_unfolding_all rfl
  have h : Compiles (.flow flow [.name "onStart"] {} 0) { dialog := { name := "Trial", wildcard := .str "*" } } _ :=
    .flow rfl rfl (.plain rfl rfl (.set rfl) (.handler rfl .nil)) rfl (Program.add_eq_ok.mpr ⟨rfl, rfl⟩)
  exact ⟨_, build_of_compiles hmake hdescribed rfl h rfl, by with_unfolding_all rfl⟩

def listedSession : Session :=
  { newSession with
    locals := [(.str "xs", .list (.object 2) [])], history := [.saved ⟨[], [(.str "xs", .list (.object 2) [])]⟩] }

/-- The world in which the list was saved, once it was also put on top of the variables. -/
def listedWorld : World := { session := listedSession, heap := { next := 4 } }

def appendedWorld : World :=
  { session := listedSession, heap := { next := 4, contents := [(2, .list (.object 2) [.int 1])] } }

private theorem memberNamed_append (id : Identity) (items : List Value) :
    (Value.list id items).memberNamed? "append" = some (.method (.list id items) "append") := by
  have hmethods : (Value.list id items).methodNames.contains "append" = true := by
    change listMethods.contains "append" = true
    decide +kernel
  have hdata : (Value.list id items).dataMember? "append" = none := rfl
  unfold Value.memberNamed?
  simp only [hdata, hmethods, Bool.true_or, if_true]

private theorem followStep_append (app : Application) (vars : Value) :
    followStep app vars (.list (.object 2) []) (.call (.str "append") [.int 1]) listedWorld = .ok .none appendedWorld := by
  unfold followStep
  simp only [Value.text?]
  rw [Run.bind_ok (show Run.current _ _ = .ok (.list (.object 2) []) _ from rfl)]
  simp only [Value.isNone, Bool.false_eq_true, memberNamed_append]
  with_unfolding_all rfl

private theorem runStep_append (p : Program) (path : FlowPath) (n : Nat) :
    (⟨idle, [], p⟩ : Machine).runStep path (.dict (.object n) [(.str "xs", .list (.object 2) [])]) appendStep
      listedWorld = .ok .done appendedWorld := by
  let vars : Value := .dict (.object n) [(.str "xs", .list (.object 2) [])]
  have hmember : followStep idle vars vars (.member (.str "xs")) listedWorld =
      .ok (.list (.object 2) []) listedWorld := by
    with_unfolding_all rfl
  have hsteps : followSteps idle vars vars [.member (.str "xs"), .call (.str "append") [.int 1]] listedWorld =
      .ok .none appendedWorld := by
    rw [followSteps, Run.bind_ok hmember, followSteps, Run.bind_ok (followStep_append idle vars)]
    rfl
  have hcall : callHandler idle (.accessor .anonymous [.member (.str "xs"), .call (.str "append") [.int 1]]) vars
      sessionValue path.toValue listedWorld = .ok .none appendedWorld := Run.bind_ok hsteps
  exact Run.bind_ok hcall

/-- A list that is appended to after it was saved is another one at the end of the run than in the variables that were
saved, although no mapping of variables was changed. -/
private theorem appended_variables_differ : ∃ m : Machine,
    Program.build (.str "Trial") appending .none {} = .ok (m.program, [("onStart", [.name "onStart"])]) ∧
      m.app.LeavesVariables ∧ ∃ w w₀ vars, w.session.Written ∧ w.heap.Keyed ∧ Machine.enter .none w = .ok vars w₀ ∧
        (∀ q, m.Reaches (w₀, .flow (.str "Trial:onStart") vars) q → q.1.heap.Unchanged q.2.vars) ∧
        ∃ w' last wₛ, m.invoke 1 (.str "Trial:onStart") vars w₀ = .ok () w' ∧
          m.Reaches (w₀, .flow (.str "Trial:onStart") vars) (w', last) ∧
          m.SavedAt (w₀, .flow (.str "Trial:onStart") vars) (w', last) wₛ ∧
          Entries.named? ((Session.rebuilt wₛ.heap w.session w'.session).handlerVars .none) "xs" =
            some (.list (.object 2) []) ∧
          ∃ id shown, w'.heap.current last.vars = .dict id shown ∧
            Entries.named? shown "xs" = some (.list (.object 2) [.int 1]) := by
  obtain ⟨p, hbuild, hfind⟩ := build_appending
  let m : Machine := ⟨idle, [], p⟩
  let sequence : Sequence := ⟨"Trial:onStart", [.name "onStart"], {}⟩
  let vars : Value := .dict (.object 0) []
  let values : Entries := [(.str "xs", .list (.object 2) [])]
  let vars' : Value := .dict (.object 3) values
  let w₀ : World := { session := newSession, heap := { next := 1 } }
  let wₛ : World := { session := listedSession, heap := { next := 3 } }
  have henter : Machine.enter .none { session := newSession } = .ok vars w₀ := by
    with_unfolding_all rfl
  have hlist : m.runStep sequence.path vars listStep w₀ = .ok (.update values) wₛ := by
    with_unfolding_all rfl
  have happend : m.runStep sequence.path vars' appendStep listedWorld = .ok .done appendedWorld :=
    runStep_append p sequence.path 3
  have hflow : m.Moves (w₀, .flow (.str "Trial:onStart") vars) (w₀, .steps sequence vars [listStep, appendStep]) := by
    rw [Machine.Moves, Machine.move, hfind]
    rfl
  have hset : m.Moves (w₀, .steps sequence vars [listStep, appendStep])
      (wₛ, .assigned values sequence vars [appendStep]) := Run.bind_ok hlist
  have hoverlay : m.Moves (wₛ, .assigned values sequence vars [appendStep])
      (listedWorld, .steps sequence vars' [appendStep]) := by
    with_unfolding_all rfl
  have hchange : m.Moves (listedWorld, .steps sequence vars' [appendStep]) (appendedWorld, .steps sequence vars' []) := by
    rw [Machine.Moves, Machine.move_steps (m := m) appendStep (fun _ _ h => by cases h), Run.bind_ok happend]
    rfl
  have hunchanged : ∀ q, m.Reaches (w₀, .flow (.str "Trial:onStart") vars) q → q.1.heap.Unchanged q.2.vars :=
    Machine.forall_reaches_of_move hflow ⟨_, _, rfl, rfl⟩ <|
      Machine.forall_reaches_of_move hset ⟨_, _, rfl, rfl⟩ <|
      Machine.forall_reaches_of_move hoverlay ⟨_, _, rfl, rfl⟩ <|
      Machine.forall_reaches_of_move hchange ⟨_, _, rfl, by with_unfolding_all rfl⟩ <|
      Machine.forall_reaches_of_end rfl ⟨_, _, rfl, by with_unfolding_all rfl⟩
  have hinvoke : m.invoke 1 (.str "Trial:onStart") vars w₀ = .ok () appendedWorld := by
    have hrest : m.runSteps sequence.key sequence.path {} vars' [appendStep] listedWorld = .ok .done appendedWorld := by
      rw [Machine.runSteps_cons, Run.bind_ok happend]
      rfl
    have hsteps : m.runSteps sequence.key sequence.path {} vars [listStep, appendStep] w₀ = .ok .done appendedWorld := by
      rw [Machine.runSteps_cons, Run.bind_ok hlist]
      exact (Run.bind_ok (show Machine.overlay vars values wₛ = .ok vars' listedWorld by with_unfolding_all rfl)).trans hrest
    have hhop : m.hop (.str "Trial:onStart") vars w₀ = .ok none appendedWorld := by
      rw [Machine.hop, hfind]
      exact Run.bind_ok hsteps
    exact Machine.invoke_one hhop
  have hsaved : m.SavedAt (w₀, .flow (.str "Trial:onStart") vars) (appendedWorld, .steps sequence vars' []) wₛ :=
    (((Machine.SavedAt.start.kept hflow rfl).saved hset (List.cons_ne_nil _ _)).kept hoverlay rfl).kept hchange rfl
  exact ⟨m, hbuild, idle_leavesVariables, { session := newSession }, w₀, vars, .empty rfl rfl rfl,
    Heap.keyed_of_nil rfl,
    henter, hunchanged, appendedWorld, _, wₛ, hinvoke, hsaved.reaches, hsaved, by with_unfolding_all rfl, _, _,
    by with_unfolding_all rfl, by with_unfolding_all rfl⟩

/-- What a handler changes in place makes a difference: changes of the mapping of variables are never shown by the
session, and changes of what a variable holds are not in what was saved before. -/
theorem changed_variables_differ :
    (∃ m : Machine, Program.build (.str "Trial") meddling .none {} = .ok (m.program, [("onStart", [.name "onStart"])]) ∧
      m.app.LeavesVariables ∧ ∃ w w₀ vars, w.session.Written ∧ w.heap.Keyed ∧ Machine.enter .none w = .ok vars w₀ ∧
        ∃ q, m.Reaches (w₀, .flow (.str "Trial:onStart") vars) q ∧ q.2.pending = [] ∧
          ¬ q.1.session.Shows q.1.heap q.2.vars (· ≠ "value")) ∧
    ∃ m : Machine, Program.build (.str "Trial") appending .none {} = .ok (m.program, [("onStart", [.name "onStart"])]) ∧
      m.app.LeavesVariables ∧ ∃ w w₀ vars, w.session.Written ∧ w.heap.Keyed ∧ Machine.enter .none w = .ok vars w₀ ∧
        (∀ q, m.Reaches (w₀, .flow (.str "Trial:onStart") vars) q → q.1.heap.Unchanged q.2.vars) ∧
        ∃ w' last wₛ, m.invoke 1 (.str "Trial:onStart") vars w₀ = .ok () w' ∧
          m.Reaches (w₀, .flow (.str "Trial:onStart") vars) (w', last) ∧
          m.SavedAt (w₀, .flow (.str "Trial:onStart") vars) (w', last) wₛ ∧
          Entries.named? ((Session.rebuilt wₛ.heap w.session w'.session).handlerVars .none) "xs" =
            some (.list (.object 2) []) ∧
          ∃ id shown, w'.heap.current last.vars = .dict id shown ∧
            Entries.named? shown "xs" = some (.list (.object 2) [.int 1]) :=
  ⟨meddled_variables_differ, appended_variables_differ⟩

end Colloquy
