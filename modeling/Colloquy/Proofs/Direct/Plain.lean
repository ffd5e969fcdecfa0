import Colloquy.Proofs.Direct.Soundness
import Colloquy.Proofs.Run.PathIndependence
import Colloquy.Proofs.Session.Effects

/-!
# Flows that ask nothing

Without actions and items a flow has no use for labels, but for the tags of the dialogs that it starts:
if handlers ignore their path, the interpreter does the same with any labels. So a compiled flow does
what the interpreter does without labels.
-/

namespace Colloquy

def SessionEvent.untagged : SessionEvent → SessionEvent
  | .started frame => .started { frame with tag := .none }
  | event => event

def World.untagged (w : World) : World :=
  { w with session := { w.session with history := w.session.history.map SessionEvent.untagged } }

mutual

/-- Whether no message in an element has actions or items. -/
def Element.isPlain : Element → Bool
  | .command c => c.isPlain
  | .deferred _ e => e.isPlain
  | _ => true
termination_by structural e => e

/-- Whether no message in a command has actions or items. -/
def Command.isPlain : Command → Bool
  | .message _ _ _ .absent .absent => true
  | .message .. => false
  | .conditional _ _ yes no => flowIsPlain yes && flowIsPlain no
  | .switch _ _ cases default => casesArePlain cases && defaultIsPlain default
  | .iteration _ _ _ _ body => flowIsPlain body
  | .flow _ body => flowIsPlain body
  | _ => true
termination_by structural c => c

/-- Whether no message in a flow has actions or items. -/
def flowIsPlain : List Element → Bool
  | [] => true
  | e :: rest => e.isPlain && flowIsPlain rest
termination_by structural flow => flow

/-- Whether no message in the cases of a switch has actions or items. -/
def casesArePlain : List Case → Bool
  | [] => true
  | .mk _ _ body :: rest => flowIsPlain body && casesArePlain rest
termination_by structural cases => cases

/-- Whether no message in the default of a switch has actions or items. -/
def defaultIsPlain : Option (List Element) → Bool
  | none => true
  | some body => flowIsPlain body
termination_by structural default => default

end

namespace Direct

/-- Two runs are the same, or both stop the run in worlds that differ by tags only. -/
inductive SameEnd : EStateM.Result Error World Ending → EStateM.Result Error World Ending → Prop
  | same (r : EStateM.Result Error World Ending) : SameEnd r r
  | stopped {w w' : World} (h : w.untagged = w'.untagged) : SameEnd (.ok .stopped w) (.ok .stopped w')

private theorem SameEnd.untagged_eq {r s : EStateM.Result Error World Ending} (h : SameEnd r s) :
    Run.seen World.untagged r = Run.seen World.untagged s := by
  cases h with
  | same => rfl
  | stopped h => simp only [Run.seen, h]

def Alike (x y : Run Ending) : Prop := ∀ w, SameEnd (x w) (y w)

private theorem Alike.refl (x : Run Ending) : Alike x x := fun w => .same (x w)

private theorem Alike.bind {α : Type} {a : Run α} {f g : α → Run Ending} (h : ∀ v, Alike (f v) (g v)) :
    Alike (a >>= f) (a >>= g) := by
  intro w
  cases hw : a w with
  | ok v w' =>
    rw [Run.bind_ok hw, Run.bind_ok hw]
    exact h v w'
  | error e w' =>
    rw [Run.bind_error hw, Run.bind_error hw]
    exact .same _

private theorem Alike.seq {x y : Run Ending} {f g : Ending → Run Ending} (hxy : Alike x y)
    (h : ∀ ending, Alike (f ending) (g ending)) (hf : f .stopped = pure .stopped)
    (hg : g .stopped = pure .stopped) : Alike (x >>= f) (y >>= g) := by
  intro w
  have hw := hxy w
  cases hx : x w with
  | error e w' =>
    rw [hx] at hw
    cases hy : y w with
    | ok ending w'' =>
      rw [hy] at hw
      cases hw
    | error e' w'' =>
      rw [hy] at hw
      cases hw
      rw [Run.bind_error hx, Run.bind_error hy]
      exact .same _
  | ok ending w' =>
    rw [hx] at hw
    cases hy : y w with
    | error e' w'' =>
      rw [hy] at hw
      cases hw
    | ok ending' w'' =>
      rw [hy] at hw
      rw [Run.bind_ok hx, Run.bind_ok hy]
      cases hw with
      | same => exact h ending w'
      | stopped hw =>
        rw [hf, hg]
        exact .stopped hw

private theorem alike_iterate (condition : Value → Run Bool) {body body' : Nat → Value → Run Ending}
    {increment increment' again again' : Value → Run Value}
    (hbody : ∀ n vars, Alike (body n vars) (body' n vars)) (hincrement : increment = increment')
    (hagain : again = again') (n : Nat) (vars : Value) :
    Alike (iterate condition body increment again n vars) (iterate condition body' increment' again' n vars) := by
  subst hincrement hagain
  induction n generalizing vars with
  | zero => exact .refl _
  | succ n ih =>
    rw [iterate, iterate]
    refine .bind fun passed => ?_
    cases passed with
    | false => exact .refl _
    | true =>
      simp only [if_true]
      refine .seq (hbody n vars) ?_ rfl rfl
      intro ending
      cases ending with
      | normal vars => exact .bind ih
      | «continue» vars => exact .bind ih
      | _ => exact .refl _

private theorem newFrame_text (dialog : String) (tag : Option String) (locals : Value) :
    Session.newFrame (.str dialog) (.ofText? tag) locals =
      (Session.givenMapping locals).map fun entries => ⟨.str dialog, .ofText? tag, entries⟩ := by
  cases tag <;> rfl

private theorem alike_onSession_start (name : String) (tag other : Option String) (args : Value) :
    Alike (do Run.onSession (Session.start (.str name) (.ofText? tag) args); return .stopped)
      (do Run.onSession (Session.start (.str name) (.ofText? other) args); return .stopped) := by
  intro w
  have hok (tag : Option String) {s : Session}
      (h : Session.start (.str name) (.ofText? tag) args w.session = .ok () s) :
      (do Run.onSession (Session.start (.str name) (.ofText? tag) args); return Ending.stopped : Run Ending) w =
        .ok .stopped { w with session := s } :=
    Run.bind_ok (Run.onSession_ok h)
  have herror (tag : Option String) {e : Error} {s : Session}
      (h : Session.start (.str name) (.ofText? tag) args w.session = .error e s) :
      (do Run.onSession (Session.start (.str name) (.ofText? tag) args); return Ending.stopped : Run Ending) w =
        .error e { w with session := s } :=
    Run.bind_error (Run.onSession_error h)
  cases hlocked : w.session.locked with
  | true =>
    rw [herror _ (Session.transfer_locked _ hlocked), herror _ (Session.transfer_locked _ hlocked)]
    exact .same _
  | false =>
    have hstart (tag : Option String) := Session.start_eq (.str name) (.ofText? tag) args hlocked
    simp only [newFrame_text] at hstart
    cases hgiven : Session.givenMapping args with
    | error e =>
      simp only [hgiven, Except.map] at hstart
      rw [herror _ (hstart _), herror _ (hstart _)]
      exact .same _
    | ok entries =>
      cases hdown : w.session.transportDown with
      | true =>
        simp only [hgiven, hdown, Except.map, if_true] at hstart
        rw [herror _ (hstart _), herror _ (hstart _)]
        exact .same _
      | false =>
        simp only [hgiven, hdown, Except.map, Bool.false_eq_true, if_false] at hstart
        rw [hok _ (hstart _), hok _ (hstart _)]
        refine .stopped ?_
        simp [World.untagged, Session.record, SessionEvent.untagged]

variable {m : Machine}

private theorem alike_start (happ : m.app.IgnoresPath) (l l' : Labels) (target args vars : Value) :
    Alike (effect m l.own.path vars (.start l.own.path target args l.own.key) .stopped)
      (effect m l'.own.path vars (.start l'.own.path target args l'.own.key) .stopped) := by
  unfold effect
  rw [Machine.start_path happ l.own.path l'.own.path]
  simp only [Machine.runStep, bind_assoc, pure_bind]
  refine .bind fun value => .bind fun defaultArgs => .bind fun _ => .bind fun _ => .bind fun parsed => ?_
  exact alike_onSession_start _ _ _ _

private theorem alike_message (happ : m.app.IgnoresPath) (kind : MessageKind) (body : MessageBody) (l l' : Labels)
    (vars : Value) :
    Alike (runMessage m l kind body .absent .absent vars) (runMessage m l' kind body .absent .absent vars) := by
  have hdeliver : m.deliver (messagePlan l kind body .absent .absent) vars =
      m.deliver (messagePlan l' kind body .absent .absent) vars := by
    refine Eq.trans ?_ (Machine.deliver_path happ l.own.path vars (messagePlan l' kind body .absent .absent))
    exact m.deliver_next l.own.next { messagePlan l' kind body .absent .absent with path := l.own.path } rfl rfl vars
  unfold runMessage
  rw [hdeliver]
  exact .refl _

private theorem increase_path (happ : m.app.IgnoresPath) (path other : FlowPath) (increment : Fields) :
    increase m path increment = increase m other increment := by
  funext vars
  unfold increase
  rw [Machine.assign_path happ path other]

mutual

theorem alike_element (happ : m.app.IgnoresPath) (e : Element) (hplain : e.isPlain = true) (l l' : Labels)
    (n : Nat) (vars : Value) : Alike (runElement m e l n vars) (runElement m e l' n vars) := by
  match e with
  | .command c => exact alike_command happ c hplain l l' n vars
  | .handler h =>
    unfold runElement effect
    rw [Machine.handler_path happ l.own.path l'.own.path]
    exact .refl _
  | .deferred _ inner => exact alike_element happ inner hplain l l' n vars
  | .invalid _ _ => exact .refl _

theorem alike_command (happ : m.app.IgnoresPath) (c : Command) (hplain : c.isPlain = true) (l l' : Labels)
    (n : Nat) (vars : Value) : Alike (runCommand m c l n vars) (runCommand m c l' n vars) := by
  match c with
  | .message kind id body .absent .absent => exact alike_message happ kind body l l' vars
  | .conditional id test yes no =>
    obtain ⟨hyes, hno⟩ := Bool.and_eq_true_iff.mp hplain
    rw [runCommand, runCommand, Machine.holds_path happ l.own.path l'.own.path]
    refine .bind fun passed => ?_
    cases passed with
    | true => exact alike_flow happ yes hyes _ _ n vars
    | false => exact alike_flow happ no hno _ _ n vars
  | .switch id value cases default =>
    obtain ⟨hcases, hdefault⟩ := Bool.and_eq_true_iff.mp hplain
    rw [runCommand, runCommand, Machine.expand_path happ l.own.path l'.own.path]
    refine .bind fun value => .bind fun value => .bind fun skipped => ?_
    refine .seq (alike_cases happ cases hcases skipped _ _ n vars) ?_ rfl rfl
    intro ending
    cases ending with
    | normal vars =>
      refine .seq (alike_default happ default hdefault _ _ n vars) ?_ rfl rfl
      intro ending
      exact .refl _
    | _ => exact .refl _
  | .iteration id init condition increment body =>
    have hbody (n : Nat) (vars : Value) : Alike (runFlow m body (l.sub 0) n vars) (runFlow m body (l'.sub 0) n vars) :=
      alike_flow happ body hplain _ _ n vars
    have hholds : m.holds l.own.path condition = m.holds l'.own.path condition :=
      funext fun vars => Machine.holds_path happ l.own.path l'.own.path vars condition
    rw [runCommand, runCommand, Machine.assign_path happ (l.sub 1).own.path (l'.sub 1).own.path, hholds]
    have hrounds (vars : Value) := alike_iterate (m.holds l'.own.path condition) hbody
      (increase_path happ (l.sub 2).own.path (l'.sub 2).own.path increment)
      (increase_path happ (l.sub 3).own.path (l'.sub 3).own.path increment) n vars
    dsimp only
    split
    · exact .bind hrounds
    · exact .bind hrounds
  | .start id target args resume => exact alike_start happ l l' target args vars
  | .finish id result =>
    unfold runCommand effect
    rw [Machine.finish_path happ l.own.path l'.own.path]
    exact .refl _
  | .set id values =>
    rw [runCommand, runCommand, Machine.assign_path happ l.own.path l'.own.path]
    exact .refl _
  | .exec id target args =>
    unfold runCommand effect
    rw [Machine.exec_path happ l.own.path l'.own.path]
    exact .refl _
  | .wait id seconds =>
    unfold runCommand effect
    rw [Machine.wait_path happ l.own.path l'.own.path]
    exact .refl _
  | .break _ => exact .refl _
  | .continue _ => exact .refl _
  | .flow id body => exact alike_flow happ body hplain _ _ n vars

private theorem alike_flow (happ : m.app.IgnoresPath) (flow : List Element) (hplain : flowIsPlain flow = true)
    (l l' : Labels) (n : Nat) (vars : Value) : Alike (runFlow m flow l n vars) (runFlow m flow l' n vars) := by
  match flow with
  | [] => exact .refl _
  | e :: rest =>
    obtain ⟨he, hrest⟩ := Bool.and_eq_true_iff.mp hplain
    rw [runFlow, runFlow]
    refine .seq (alike_element happ e he _ _ n vars) ?_ rfl rfl
    intro ending
    cases ending with
    | normal vars => exact alike_flow happ rest hrest _ _ n vars
    | _ => exact .refl _

theorem alike_cases (happ : m.app.IgnoresPath) (cases : List Case) (hplain : casesArePlain cases = true)
    (skipped : Nat) (l l' : Labels) (n : Nat) (vars : Value) :
    Alike (runCases m cases skipped l n vars) (runCases m cases skipped l' n vars) := by
  match cases, skipped with
  | [], _ => exact .refl _
  | .mk id value body :: rest, 0 =>
    obtain ⟨hbody, hrest⟩ := Bool.and_eq_true_iff.mp hplain
    rw [runCases, runCases]
    refine .seq (alike_flow happ body hbody _ _ n vars) ?_ rfl rfl
    intro ending
    cases ending with
    | normal vars => exact alike_cases happ rest hrest 0 _ _ n vars
    | _ => exact .refl _
  | .mk id value body :: rest, skipped + 1 =>
    obtain ⟨-, hrest⟩ := Bool.and_eq_true_iff.mp hplain
    exact alike_cases happ rest hrest skipped _ _ n vars

theorem alike_default (happ : m.app.IgnoresPath) (default : Option (List Element))
    (hplain : defaultIsPlain default = true) (l l' : Labels) (n : Nat) (vars : Value) :
    Alike (runDefault m default l n vars) (runDefault m default l' n vars) := by
  match default with
  | none => exact .refl _
  | some body => exact alike_flow happ body hplain l l' n vars

end

/-- A compiled flow does what the interpreter does. Tags of starts are the only thing that the two may call
differently. -/
theorem compileFlow_preserves_meaning {flow : Flow} {path : FlowPath} {p : Program}
    (hcompile : compileFlow flow path {} 0 p = .ok () m.program) (hplain : flowIsPlain flow = true)
    (happ : m.app.IgnoresPath) (vars : Value) :
    m.Does World.untagged (pure (path.toValue, vars)) fun n => runFlow m flow .blank n vars := by
  obtain ⟨l, hrun, -⟩ := means_of_compiles (K := fun _ => True) (compiles_of_compileFlow hcompile)
    (.refl m.program) fun _ _ => trivial
  refine .of_fits fun n w => ?_
  obtain ⟨k, hk, hfits⟩ := hrun n pure .blank vars w
  rw [pure_bind, bind_pure] at hfits
  refine ⟨k, hk, ?_⟩
  rw [pure_bind, (alike_flow happ flow hplain .blank l n vars w).untagged_eq]
  exact hfits.seen World.untagged

/-- A loop that is left in its first round, and then a result. -/
def countdown : Flow :=
  [.command (.iteration "count" [("n", .int 0)] (.bool true) [("n", .int 1)] [.command (.break "stop")]),
    .command (.finish "end" (.int 7))]

private theorem compiles_countdown : ∃ q,
    compileFlow countdown [.name "main"] {} 0 { dialog := { name := "Trial" } } = .ok () q := by
  have h : Compiles (.flow countdown [.name "main"] {} 0) { dialog := { name := "Trial" } } _ :=
    .flow rfl rfl
      (.broken rfl rfl rfl
        (.unspliced rfl rfl
          (.flow rfl rfl (.last rfl rfl (.finish rfl)) rfl (Program.add_eq_ok.mpr ⟨rfl, rfl⟩)))
        (.iteration rfl rfl rfl rfl rfl (incrementValues?_ok (by decide +kernel))
          (.flow rfl rfl .nil rfl (Program.add_eq_ok.mpr ⟨rfl, rfl⟩))
          (.flow rfl rfl (.last rfl rfl (.break rfl)) rfl (Program.add_eq_ok.mpr ⟨rfl, rfl⟩))
          (.flow rfl rfl (.plain rfl rfl (.set rfl) .nil) rfl (Program.add_eq_ok.mpr ⟨rfl, rfl⟩))
          rfl (Program.add_eq_ok.mpr ⟨rfl, rfl⟩) fun _ => rfl))
      rfl (Program.add_eq_ok.mpr ⟨rfl, rfl⟩)
  exact ⟨_, h.succeeds⟩

theorem countdown_preserves_meaning : ∃ m : Machine,
    compileFlow countdown [.name "main"] {} 0 { dialog := { name := "Trial" } } = .ok () m.program ∧
      flowIsPlain countdown = true ∧ m.app.IgnoresPath ∧
      m.Does World.untagged (pure (FlowPath.toValue [.name "main"], .record [])) fun n =>
        runFlow m countdown .blank n (.record []) := by
  obtain ⟨q, hq⟩ := compiles_countdown
  have happ := Application.IgnoresPath.of_const fun _ => pure .none
  exact ⟨⟨_, [], q⟩, hq, rfl, happ, compileFlow_preserves_meaning hq rfl happ _⟩

end Direct

end Colloquy
