import Colloquy.Proofs.Dialog.Build
import Colloquy.Proofs.Run.Closing

/-!
# Transfers and questions come last

A frame that is started or finished, and a question that is asked, is the last thing that a request does to its
session, however many flows it runs through.
-/

namespace Colloquy

def Application.LeavesSession (app : Application) : Prop :=
  ∀ f bound w, (finalState (app.behave f bound w)).session = w.session ∧
    ∀ w', app.behave f bound w ≠ .error .sessionLocked w'

private theorem Application.LeavesSession.meets {app : Application} (h : app.LeavesSession) : app.Meets .goesOn := by
  intro f bound w _
  obtain ⟨hsession, hlock⟩ := h f bound w
  have hgoes : w.session.GoesOn (finalState (app.behave f bound w)).session := by
    rw [hsession]
    exact .refl _
  cases hr : app.behave f bound w with
  | ok v w' =>
    rw [hr] at hgoes
    exact ⟨hgoes, trivial⟩
  | error e w' =>
    rw [hr] at hgoes hlock
    refine ⟨hgoes, ?_⟩
    rintro rfl
    exact hlock w' rfl

/-- In a dialog that was built, whose messages, actions and items name no handler to be executed in their place, and
whose handlers do not use the session, a run in an unlocked session that starts at a registered flow never finds the
session locked, whether it succeeds or fails, and whatever the variables are: of all that it does to the session, only
the last thing can be the start or the end of a frame or a message that offers a reply. So at most one frame is
started or finished. -/
theorem transfers_and_questions_come_last {name source modelName : Value} {settings : Settings} {p : Program}
    {entries : List (String × FlowPath)} (hbuild : Program.build name source modelName settings = .ok (p, entries))
    (hexec : ∀ flows, Normal.described source = .ok flows → ∀ entry ∈ flows, FlowFollows .noExec entry.2)
    {app : Application} (handlers : Handlers) (happ : app.LeavesSession) :
    ∀ key, p.flows.lookup key ≠ none → ∀ path, path = .str key ∨ p.key path = .ok key → ∀ x : Run Unit,
      (∃ fuel vars, x = (⟨app, handlers, p⟩ : Machine).invoke fuel path vars) ∨
          (∃ value, x = (⟨app, handlers, p⟩ : Machine).resume path value) →
        ∀ w, w.session.locked = false →
          (∃ events, (finalState (x w)).session.history = w.session.history ++ events ∧
            (∀ event ∈ events.dropLast, event.closes = false) ∧ events.countP SessionEvent.isTransfer ≤ 1) ∧
          ∀ w', x w ≠ .error .sessionLocked w' := by
  obtain ⟨-, hclosed, -⟩ := build_eq_ok hbuild
  have htraced : p.Traced .sent := build_traced hbuild fun flows hflows entry hentry =>
    flow_follows_both _ (Normal.follows_of_described hflows hentry) (hexec flows hflows entry hentry)
  intro key hkey path hpath x hx w hw
  have hadmits := htraced.admits_either hkey hpath
  have hends : Run.EndsWith (fun _ => True) (fun _ => True) x := by
    obtain ⟨fuel, vars, rfl⟩ | ⟨value, rfl⟩ := hx
    · exact Machine.ends_invoke (m := ⟨app, handlers, p⟩) happ.meets htraced hclosed fuel hadmits vars
    · exact Machine.ends_resume (m := ⟨app, handlers, p⟩) happ.meets htraced hclosed hadmits value
  have hend := hends w hw
  cases hr : x w with
  | ok u w' =>
    rw [hr] at hend
    exact ⟨Session.events_of_goesOn_or_closes (hend.imp And.left And.left), nofun⟩
  | error e w' =>
    rw [hr] at hend
    refine ⟨Session.events_of_goesOn_or_closes hend.1, ?_⟩
    rintro _ ⟨⟩
    exact hend.2 rfl

/-- A run that asks a question, in a session that has asked before. -/
theorem question_comes_last : ∃ p, Program.build (.str "Trial") question .none {} =
    .ok (p, [("onStart", [.name "onStart"])]) ∧ ∀ fuel vars before,
      let left := finalState ((⟨⟨fun _ _ => pure .none⟩, [], p⟩ : Machine).invoke fuel (.str "Trial:onStart") vars
        { session := { id := .str "s", history := [.sent before] } })
      ∃ events, left.session.history = .sent before :: events ∧ ∀ event ∈ events.dropLast, event.closes = false := by
  obtain ⟨p, hbuild, hl⟩ := build_question
  refine ⟨p, hbuild, fun fuel vars before => ?_⟩
  obtain ⟨⟨events, hevents, hopen, -⟩, -⟩ := transfers_and_questions_come_last hbuild question_noExec
    [] (show Application.LeavesSession ⟨fun _ _ => pure .none⟩ from fun _ _ _ => ⟨rfl, nofun⟩) "Trial:onStart"
    (by simp [hl]) _ (.inl rfl) _ (.inl ⟨fuel, vars, rfl⟩) { session := { id := .str "s", history := [.sent before] } } rfl
  exact ⟨events, hevents, hopen⟩

end Colloquy
