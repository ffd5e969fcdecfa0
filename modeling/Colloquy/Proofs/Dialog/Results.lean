import Colloquy.Proofs.Compile.Starts
import Colloquy.Proofs.Dialog.Build
import Colloquy.Proofs.Run.Starts

/-!
# Results find their continuation

The dialog name under which the result of a start is filed is foreseen when the dialog is built, and the name
of the dialog that is started is worked out when the start runs. Either they are the same, or the result is
filed for every dialog.
-/

namespace Colloquy

namespace Program

variable {p : Program} {s : Start} {dialog : String}

private theorem resultHandler?_of_answers (h : p.Answers s) (hwildcard : p.dialog.wildcard = .str p.settings.wildcard)
    (hname : dialog = p.resultName s.target ∨ p.resultName s.target = p.settings.wildcard) :
    p.dialog.resultHandler? (.str dialog) (.str s.tag) = some (.resume s.path.toValue) := by
  have hresult : p.dialog.resultHandler? (.str dialog) (.str s.tag) =
      ((p.resultOf dialog s.tag).filter EventHandler.isSet).or (p.resultOf p.settings.wildcard s.tag) := by
    unfold Dialog.resultHandler?
    rw [hwildcard]
    rfl
  have hown := h dialog
  rw [hresult, hown]
  rcases hname with rfl | heq
  · rw [if_pos rfl]
    rfl
  · have hany := h p.settings.wildcard
    rw [heq, if_pos rfl] at hany
    rw [hany]
    split <;> rfl

private theorem resultName_of_startCall {m : Machine} {path : FlowPath} {target args vars given : Value} {w w' : World}
    (hkept : w.heap.current target = target) (h : m.startCall path target args vars w = .ok (dialog, given) w') :
    dialog = p.resultName target ∨ p.resultName target = p.settings.wildcard := by
  unfold resultName
  cases hstatic : StartParam.staticName target with
  | none => exact .inr rfl
  | some s =>
    obtain rfl := Machine.startCall_name hstatic hkept h
    cases hempty : dialog.isEmpty with
    | true => simp [hempty]
    | false => simp [hempty]

end Program

private theorem gains_of_build {name source modelName : Value} {settings : Settings} {p : Program}
    {entries : List (String × FlowPath)} (h : Program.build name source modelName settings = .ok (p, entries)) :
    ∃ q : Program, q.Tagged ∧ q.dialog.wildcard = .str q.settings.wildcard ∧ q.Gains p p.starts [] := by
  obtain ⟨q, hq, new, hgains⟩ : ∃ q, Program.make name modelName settings = .ok q ∧ ∃ new, q.Gains p new [] := by
    refine build_induction (I := fun p => ∃ q, Program.make name modelName settings = .ok q ∧
      ∃ new, q.Gains p new []) h (fun q hq => ⟨q, hq, [], .refl q⟩) ?_ ?_
    · rintro flows - entry - path p p' hjob ⟨q, hq, new, hgains⟩
      obtain ⟨later, hlater, -⟩ := hjob.gains
      exact ⟨q, hq, _, hgains.trans hlater⟩
    · rintro p entries ⟨q, hq, new, hgains⟩
      refine ⟨q, hq, _, hgains.trans (.of_eq (p.extends_startingWith entries) (p.startingWith_flows entries) ?_)⟩
      intro dialog tag
      unfold Program.startingWith
      split <;> rfl
  obtain ⟨own, rfl⟩ := make_eq hq
  have hstarts : p.starts = new := hgains.starts
  exact ⟨_, fun _ _ hne => absurd rfl hne, rfl, hstarts ▸ hgains⟩

/-- In a dialog that was built, every start that awaits a result has a tag of its own, the key of a flow that is
registered at its path. Whenever it runs and hands a dialog name and arguments to the session, with whatever
variables and handlers, the handler of the result of that dialog under its tag resumes the flow at its path.
The parameter of the start may be of any shape; it is only taken that nobody has changed it in place since the
dialog was built. -/
theorem results_resume_their_starts {name source modelName : Value} {settings : Settings} {p : Program}
    {entries : List (String × FlowPath)} (hbuild : Program.build name source modelName settings = .ok (p, entries)) :
    (p.starts.map Start.tag).Nodup ∧
    ∀ s ∈ p.starts, (∃ handler, p.pathKey s.path = .ok s.tag ∧ p.find s.path.toValue = .ok handler) ∧
      ∀ app handlers own vars,
        (⟨app, handlers, p⟩ : Machine).runStep own vars s.step = (do
          let (dialog, given) ← (⟨app, handlers, p⟩ : Machine).startCall s.path s.target s.args vars
          Run.onSession (Session.start (.str dialog) (.str s.tag) given)
          return .done) ∧
        ∀ w dialog given w', w.heap.current s.target = s.target →
          (⟨app, handlers, p⟩ : Machine).startCall s.path s.target s.args vars w = .ok (dialog, given) w' →
          p.dialog.resultHandler? (.str dialog) (.str s.tag) = some (.resume s.path.toValue) := by
  obtain ⟨q, htagged, hwildcard, hgains⟩ := gains_of_build hbuild
  refine ⟨by simpa using hgains.distinct, fun s hs => ?_⟩
  have hs : s ∈ p.starts ++ [] := by simpa using hs
  obtain ⟨handler, hl⟩ := Option.ne_none_iff_exists'.mp (hgains.registered s hs)
  refine ⟨⟨handler, hgains.keyed s hs, (Program.Extends.refl p).find (hgains.keyed s hs) hl⟩, ?_⟩
  refine fun app handlers own vars => ⟨Machine.runStep_start _ _ _ _ _ _ _, fun w dialog given w' hkept hcall => ?_⟩
  have hwildcard : p.dialog.wildcard = .str p.settings.wildcard := by
    rw [hgains.grows.wildcard, hgains.grows.settings, hwildcard]
  exact Program.resultHandler?_of_answers (hgains.answered htagged s hs) hwildcard
    (Program.resultName_of_startCall hkept hcall)

def choose : Function := { id := 0, name := "choose" }

/-- A dialog that a function chooses, and what follows it. -/
def choice : Value :=
  .record [("onStart", .ofList [.record [("start", .function choose)],
    .str "Welcome back"])]

def choiceFlow : Flow :=
  [.command (.start "start" (.function choose) .none none),
    .command (.message .text "text" { text := .str "Welcome back" } .absent .absent)]

private theorem described_choice : Normal.described choice = .ok [("onStart", choiceFlow)] := by
  with_unfolding_all rfl

def choiceStart : Start :=
  ⟨[.name "onStart", .name "start"], .function choose, .none,
    "Trial:onStart.start"⟩

private theorem build_choice : ∃ p, Program.build (.str "Trial") choice .none { wildcard := "ANY" } =
    .ok (p, [("onStart", [.name "onStart"])]) ∧ p.starts = [choiceStart] := by
  have hmake : Program.make (.str "Trial") .none { wildcard := "ANY" } =
      .ok { dialog := { name := "Trial", wildcard := .str "ANY" }, settings := { wildcard := "ANY" } } := rfl
  have h : Compiles (.flow choiceFlow [.name "onStart"] {} 0)
      { dialog := { name := "Trial", wildcard := .str "ANY" }, settings := { wildcard := "ANY" } } _ :=
    .flow rfl rfl
      (.broken rfl rfl rfl
        (.unspliced rfl rfl
          (.flow rfl rfl (.plain rfl rfl (.message rfl .noActions .noItems) .nil) rfl
            (Program.add_eq_ok.mpr ⟨rfl, rfl⟩)))
        (.start rfl rfl rfl (.flow rfl rfl .nil rfl (Program.add_eq_ok.mpr ⟨rfl, rfl⟩)) rfl))
      rfl (Program.add_eq_ok.mpr ⟨rfl, rfl⟩)
  exact ⟨_, build_of_compiles hmake described_choice rfl h rfl, rfl⟩

/-- The result of a dialog that was chosen is filed for every dialog, whatever these are called. -/
theorem choice_resumes : ∃ p, Program.build (.str "Trial") choice .none { wildcard := "ANY" } =
    .ok (p, [("onStart", [.name "onStart"])]) ∧ choiceStart ∈ p.starts ∧
      p.dialog.resultHandler? (.str "Survey") (.str "Trial:onStart.start") =
        some (.resume (FlowPath.toValue [.name "onStart", .name "start"])) := by
  obtain ⟨p, hbuild, hstarts⟩ := build_choice
  have hmem : choiceStart ∈ p.starts := by simp [hstarts]
  have hresults := (results_resume_their_starts hbuild).2 choiceStart hmem
  have hruns := (hresults.2 ⟨fun _ _ => pure (.str "Survey")⟩ [] [] (.dict .anonymous [])).2
  exact ⟨p, hbuild, hmem, hruns { session := { id := .str "s" } } "Survey" .none _ rfl rfl⟩

end Colloquy
