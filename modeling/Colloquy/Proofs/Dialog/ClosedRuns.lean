import Colloquy.Proofs.Dialog.Build
import Colloquy.Proofs.Run.Steps
import Colloquy.Proofs.Session.Effects

/-!
# Runs stay among registered flows

A dialog that was built never runs into a flow that is not there, and no `break` or `continue` ever leaves
the flow that it belongs to: wherever a run starts, and whatever handlers give, every jump leads to a
registered flow.
-/

namespace Colloquy

/-- Whether a run left the registered flows: it jumped to none of them, or nothing took its signal. -/
def Error.leavesFlows : Error → Bool
  | .undefinedFlow .. | .escapedSequence .. | .escapedHandler .. => true
  | _ => false

/-- The contract of runs that may do anything but leave the registered flows. -/
def Contract.staysInside : Contract where
  holds _ := True
  allows _ _ := True
  stops e := e.leavesFlows = false
  holds_of_allows _ _ := trivial
  trans _ _ := trivial
  aside _ _ := trivial
  ordinary {e} he := by cases e <;> first | rfl | cases he

namespace Session

/-- Effects never look at flows, so their errors do not say anything about them. -/
def StaysInside (effect : Effect Unit) : Prop := ∀ s e s', effect s = .error e s' → e.leavesFlows = false

private theorem save_staysInside (values : Value) : StaysInside (save values) := by
  intro s e s' he
  cases hlock : s.locked with
  | true =>
    rw [save_locked values hlock] at he
    cases he
    rfl
  | false =>
    have hset := s.assigns_set values .none
    rw [save_eq values hlock] at he
    cases htruthy : values.truthy with
    | false =>
      simp only [htruthy] at he
      cases he
    | true =>
      simp only [htruthy, if_true] at he
      cases hr : set values .none s with
      | ok u s₁ =>
        rw [hr] at he
        cases he
      | error e s₁ =>
        rw [hr] at he hset
        obtain ⟨-, name, rfl⟩ := hset
        cases he
        rfl

private theorem send_staysInside (message : Value) : StaysInside (send message) := by
  intro s e s' he
  cases hlock : s.locked with
  | true =>
    rw [send_locked message hlock] at he
    cases he
    rfl
  | false =>
    rw [send_eq message hlock] at he
    split at he
    · cases he
    · rename_i hposted
      cases he
      rcases posted_error hposted with rfl | rfl | rfl <;> rfl

private theorem start_staysInside (dialog tag locals : Value) : StaysInside (start dialog tag locals) := by
  intro s e s' he
  cases hlock : s.locked with
  | true =>
    rw [start, transfer_locked _ hlock] at he
    cases he
    rfl
  | false =>
    rw [start_eq _ _ _ hlock] at he
    split at he
    · rename_i hframe
      obtain ⟨f, rfl⟩ := newFrame_error hframe
      cases he
      rfl
    · split at he
      · cases he
        rfl
      · cases he

private theorem finish_staysInside (result : Value) : StaysInside (finish result) := by
  intro s e s' he
  cases hlock : s.locked with
  | true =>
    rw [finish, transfer_locked _ hlock] at he
    cases he
    rfl
  | false =>
    rw [finish_eq _ hlock] at he
    split at he
    · cases he
      rfl
    · cases he

private theorem StaysInside.meets {effect : Effect Unit} (h : StaysInside effect) :
    Run.Meets .staysInside (Run.onSession effect) := by
  intro w _
  cases hr : effect w.session with
  | ok a s =>
    rw [Run.onSession_ok hr]
    exact ⟨trivial, trivial⟩
  | error e s =>
    rw [Run.onSession_error hr]
    exact ⟨trivial, h _ _ _ hr⟩

end Session

private theorem Contract.staysInside_admits : Contract.staysInside.Admits where
  save values := (Session.save_staysInside values).meets
  send message := (Session.send_staysInside message).meets
  start dialog tag locals := (Session.start_staysInside dialog tag locals).meets
  finish result := (Session.finish_staysInside result).meets
  sleep _ := fun _ _ => ⟨trivial, trivial⟩

/-- In a dialog that was built, no run leaves the registered flows, whichever of them it starts at, by key or
by path, and whatever the session, the variables and the handlers are, as long as the functions of the
application do not say of themselves that they left a flow: every jump of a flow is to a registered flow, no
signal gets out of the flow that it belongs to, and no run fails because a flow is missing. -/
theorem runs_stay_inside {name source modelName : Value} {settings : Settings} {p : Program}
    {entries : List (String × FlowPath)} (hbuild : Program.build name source modelName settings = .ok (p, entries))
    {app : Application} (handlers : Handlers)
    (happ : ∀ f bound w e w', app.behave f bound w = .error e w' → e.leavesFlows = false) :
    ∀ key, p.flows.lookup key ≠ none → ∀ path, path = .str key ∨ p.key path = .ok key → ∀ vars,
      (∀ w target vars' w', (⟨app, handlers, p⟩ : Machine).hop path vars w = .ok (some (target, vars')) w' →
        ∃ other, p.key target = .ok other ∧ p.flows.lookup other ≠ none) ∧
      ∀ fuel w e w', (⟨app, handlers, p⟩ : Machine).invoke fuel path vars w = .error e w' →
        e.leavesFlows = false := by
  obtain ⟨-, hclosed, -⟩ := build_eq_ok hbuild
  have htraced : p.Traced Normal.spares := build_traced hbuild fun _ h _ => Normal.follows_of_described h
  have hmeets : app.Meets .staysInside := fun f bound w _ => by
    cases hr : app.behave f bound w with
    | ok v w' => exact ⟨trivial, trivial⟩
    | error e w' => exact ⟨trivial, happ f bound w e w' hr⟩
  intro key hkey path hpath vars
  have hadmits := htraced.admits_either hkey hpath
  refine ⟨fun w target vars' w' hhop => ?_, fun fuel w e w' hinvoke => ?_⟩
  · have hkept := Machine.ensures_hop (m := ⟨app, handlers, p⟩) hmeets Contract.staysInside_admits hclosed hadmits vars w
      trivial
    rw [hhop] at hkept
    obtain ⟨own, rfl, hown⟩ := hkept.2 target vars' rfl
    exact hown
  · have hkept := Machine.meets_invoke (m := ⟨app, handlers, p⟩) hmeets Contract.staysInside_admits hclosed fuel hadmits
      vars w trivial
    rw [hinvoke] at hkept
    exact hkept.2

/-- A loop that is left in its first round, and then a text. -/
def leftLoop : Value :=
  .record [("onStart", .ofList [.record [("init", .record [("n", .int 0)]), ("while", .bool true),
    ("do", .record [("type", .str "break")])], .str "Done"])]

def leftLoopFlow : Flow :=
  [.command (.iteration "loop" [("n", .int 0)] (.bool true) [] [.command (.break "break")]),
    .command (.message .text "text" { text := .str "Done" } .absent .absent)]

theorem described_leftLoop : Normal.described leftLoop = .ok [("onStart", leftLoopFlow)] := by
  with_unfolding_all rfl

theorem build_leftLoop : ∃ p, Program.build (.str "Trial") leftLoop .none {} = .ok (p, [("onStart", [.name "onStart"])]) ∧
    p.flows.lookup "Trial:onStart.loop.do" ≠ none := by
  have hmake : Program.make (.str "Trial") .none {} =
      .ok { dialog := { name := "Trial", wildcard := .str "*" } } := rfl
  have h : Compiles (.flow leftLoopFlow [.name "onStart"] {} 0)
      { dialog := { name := "Trial", wildcard := .str "*" } } _ :=
    .flow rfl rfl
      (.broken rfl rfl rfl
        (.unspliced rfl rfl
          (.flow rfl rfl (.plain rfl rfl (.message rfl .noActions .noItems) .nil) rfl
            (Program.add_eq_ok.mpr ⟨rfl, rfl⟩)))
        (.iteration rfl rfl rfl rfl rfl (incrementValues?_ok (by decide +kernel))
          (.flow rfl rfl .nil rfl (Program.add_eq_ok.mpr ⟨rfl, rfl⟩))
          (.flow rfl rfl (.last rfl rfl (.break rfl)) rfl (Program.add_eq_ok.mpr ⟨rfl, rfl⟩))
          (.flow rfl rfl .nil rfl (Program.add_eq_ok.mpr ⟨rfl, rfl⟩))
          rfl (Program.add_eq_ok.mpr ⟨rfl, rfl⟩) fun _ => rfl))
      rfl (Program.add_eq_ok.mpr ⟨rfl, rfl⟩)
  exact ⟨_, build_of_compiles hmake described_leftLoop rfl h rfl, by decide⟩

/-- The body of a loop, which signals and does not jump, leads on to the end of the loop. -/
theorem leftLoop_stays_inside : ∃ p,
    Program.build (.str "Trial") leftLoop .none {} = .ok (p, [("onStart", [.name "onStart"])]) ∧
      ∀ fuel vars w e w', (⟨⟨fun _ _ => pure (.signal .break)⟩, [], p⟩ : Machine).invoke fuel
        (.str "Trial:onStart.loop.do") vars w = .error e w' → e.leavesFlows = false := by
  obtain ⟨p, hbuild, hkey⟩ := build_leftLoop
  refine ⟨p, hbuild, fun fuel vars w e w' h => ?_⟩
  let app : Application := ⟨fun _ _ => pure (.signal .break)⟩
  have hcalls (f : Function) (bound : List (String × Value)) (w : World) (e : Error) (w' : World)
      (h : app.behave f bound w = .error e w') : e.leavesFlows = false := by cases h
  have hstays := runs_stay_inside hbuild [] hcalls
  exact (hstays _ hkey _ (.inl rfl) vars).2 fuel w e w' h

end Colloquy
