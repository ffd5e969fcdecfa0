import Colloquy.Proofs.Direct.Soundness
import Colloquy.Proofs.Run.Counterparts

/-!
# Negated tests

Authors write `unless` for a choice and `until` for a loop. Both become commands with a negated test, and the
negation is left to the expansion of the test. So `unless` is `if` with the branches exchanged, wherever the choice
stands and whatever its test is, although the branches are compiled under each other's keys. And `until` goes round as
long as its condition does not hold.
-/

namespace Colloquy

namespace Normal

variable (ident : Identity) (t : Value) {a b : Value} {yes no body : Flow}

private theorem element_unless (ha : flow a = .ok yes) (hb : flow b = .ok no) :
    element (.dict ident [(.str "unless", t), (.str "then", a), (.str "else", b)]) =
      .ok (.command (.conditional "if" (.negated t) yes no)) := by
  let entries : Entries := [(.str "unless", t), (.str "then", a), (.str "else", b)]
  have hyes : flowUnder "then" entries = .ok yes := by with_unfolding_all exact ha
  have hno : flowUnder "else" entries = .ok no := by with_unfolding_all exact hb
  rw [element]
  with_unfolding_all change (do return Element.command (← conditional entries _)) = _
  rw [conditional]
  dsimp only
  rw [hyes, hno]
  with_unfolding_all rfl

private theorem element_if (ha : flow a = .ok yes) (hb : flow b = .ok no) :
    element (.dict ident [(.str "if", t), (.str "then", a), (.str "else", b)]) =
      .ok (.command (.conditional "if" t yes no)) := by
  let entries : Entries := [(.str "if", t), (.str "then", a), (.str "else", b)]
  have hyes : flowUnder "then" entries = .ok yes := by with_unfolding_all exact ha
  have hno : flowUnder "else" entries = .ok no := by with_unfolding_all exact hb
  rw [element]
  with_unfolding_all change (do return Element.command (← conditional entries _)) = _
  rw [conditional]
  dsimp only
  rw [hyes, hno]
  with_unfolding_all rfl

private theorem element_until (ha : flow a = .ok body) :
    element (.dict ident [(.str "until", t), (.str "do", a)]) =
      .ok (.command (.iteration "loop" [] (.negated t) [] body)) := by
  let entries : Entries := [(.str "until", t), (.str "do", a)]
  have hbody : flowUnder "do" entries = .ok body := by with_unfolding_all exact ha
  rw [element]
  with_unfolding_all change (do return Element.command (← iteration _ entries _)) = _
  rw [iteration]
  dsimp only
  rw [show Entries.named? entries "for" = none by with_unfolding_all rfl, hbody]
  with_unfolding_all rfl

end Normal

/-! ## Flows that differ by one command -/

/-- Two parts of a flow are the same but for one command. -/
inductive DifferBy (c c' : Command) : Passage → Passage → Prop
  | here : DifferBy c c' (.command c) (.command c')
  | head {e e' d d' rest} (he : e.command? = some d) (he' : e'.command? = some d')
      (h : DifferBy c c' (.command d) (.command d')) : DifferBy c c' (.flow (e :: rest)) (.flow (e' :: rest))
  | tail {e rest rest'} (h : DifferBy c c' (.flow rest) (.flow rest')) :
      DifferBy c c' (.flow (e :: rest)) (.flow (e :: rest'))
  | yes {id test yes yes' no} (h : DifferBy c c' (.flow yes) (.flow yes')) :
      DifferBy c c' (.command (.conditional id test yes no)) (.command (.conditional id test yes' no))
  | no {id test yes no no'} (h : DifferBy c c' (.flow no) (.flow no')) :
      DifferBy c c' (.command (.conditional id test yes no)) (.command (.conditional id test yes no'))
  | cases {id value cases cases' default} (h : DifferBy c c' (.cases cases) (.cases cases')) :
      DifferBy c c' (.command (.switch id value cases default)) (.command (.switch id value cases' default))
  | default {id value cases body body'} (h : DifferBy c c' (.flow body) (.flow body')) :
      DifferBy c c' (.command (.switch id value cases (some body))) (.command (.switch id value cases (some body')))
  | body {id init condition increment body body'} (h : DifferBy c c' (.flow body) (.flow body')) :
      DifferBy c c' (.command (.iteration id init condition increment body))
        (.command (.iteration id init condition increment body'))
  | subFlow {id body body'} (h : DifferBy c c' (.flow body) (.flow body')) :
      DifferBy c c' (.command (.flow id body)) (.command (.flow id body'))
  | caseHead {id value body body' rest} (h : DifferBy c c' (.flow body) (.flow body')) :
      DifferBy c c' (.cases (.mk id value body :: rest)) (.cases (.mk id value body' :: rest))
  | caseTail {case rest rest'} (h : DifferBy c c' (.cases rest) (.cases rest')) :
      DifferBy c c' (.cases (case :: rest)) (.cases (case :: rest'))

private theorem DifferBy.exchanged {m : Machine} {c c' : Command} {x x' : Passage} (h : DifferBy c c' x x')
    (hc : Exchanged m .here (.command c) (.command c')) : Exchanged m .here x x' := by
  induction h with
  | here => exact hc
  | @head e e' d d' rest he he' h ih =>
    refine .element he he' ?_ (.self_flow rest (.inl rfl))
    rwa [Placement.here_before]
  | @tail e rest rest' h ih =>
    cases he : e.command? with
    | none => exact .handler he (.inl rfl) ih
    | some d =>
      refine .element he he ?_ ih
      rw [Placement.here_before]
      exact .self_command d (.inl rfl)
  | yes h ih => exact .conditional (.inl rfl) ih (.self_flow _ (.inl rfl))
  | no h ih => exact .conditional (.inl rfl) (.self_flow _ (.inl rfl)) ih
  | @cases _ _ _ _ fallback h ih => exact .switch (.inl rfl) (.self_fallback fallback (.inl rfl)) ih
  | default h ih => exact .switch (.inl rfl) (.default ih) (.self_cases _ (.inl rfl))
  | body h ih => exact .iteration (.inl rfl) (.inl rfl) (.inl rfl) ih
  | subFlow h ih => exact .subFlow ih
  | caseHead h ih => exact .case ih (.self_cases _ (.inl rfl))
  | @caseTail case rest rest' h ih =>
    obtain ⟨id, value, body⟩ := case
    exact .case (.self_flow body (.inl rfl)) ih

namespace Machine

variable {m : Machine}

/-- A flow that may stand somewhere else, as long as it goes on at the same place: it does not show where it stands. -/
def Movable (m : Machine) (flow : Flow) : Prop := Exchanged m .aside (.flow flow) (.flow flow)

private theorem movable_of_keyless {flow : Flow} (happ : m.app.IgnoresPath) (h : flowIsKeyless flow .aside = true) :
    m.Movable flow :=
  .self_flow flow (.inr ⟨happ, h⟩)

/-- Wherever a flow leads to, two machines go on alike. -/
def GoOnAlike (m m' : Machine) (targets : Targets) : Prop :=
  ∀ t, targets.next = some t ∨ targets.breakTo = some t ∨ targets.continueTo = some t →
    ∀ fuel vars, m.invoke fuel t.toValue vars = m'.invoke fuel t.toValue vars

private theorem goOnAlike_blank (m m' : Machine) : m.GoOnAlike m' {} := by
  rintro t (h | h | h) <;> cases h

private theorem GoOnAlike.beside {m' : Machine} {targets : Targets} (h : m.GoOnAlike m' targets) (k : Nat)
    (path : FlowPath) :
    m.Beside m' .here k path path targets targets := by
  have hrel (t : Option FlowPath) (ht : ∀ path, t = some path →
      targets.next = some path ∨ targets.breakTo = some path ∨ targets.continueTo = some path) :
      Option.Rel (m.Alike m' k) t t := by
    cases t with
    | none => exact .none
    | some path => exact .some fun j _ vars => h path (ht path rfl) j vars
  exact {
    place := fun _ => ⟨rfl, rfl⟩
    onward := nofun
    next := hrel _ fun _ ht => .inl ht
    breakTo := hrel _ fun _ ht => .inr (.inl ht)
    continueTo := hrel _ fun _ ht => .inr (.inr ht) }

private theorem invoke_exchanged {flow flow' : Flow} (h : Exchanged m .here (.flow flow) (.flow flow'))
    {path : FlowPath} {targets : Targets} {index : Nat} {p p' q q' r : Program}
    (hcompile : compileFlow flow path targets index p = .ok () q) (hext : q.Extends m.program)
    (hcompile' : compileFlow flow' path targets index p' = .ok () q') (hext' : q'.Extends r)
    (hname : r.dialog.name = m.program.dialog.name) (hsettings : r.settings = m.program.settings)
    (htargets : m.GoOnAlike (m.running r) targets) (fuel : Nat) (vars : Value) :
    m.invoke fuel path.toValue vars = (m.running r).invoke fuel path.toValue vars := by
  have halike := runsAlike_of_compiles hname hsettings (compiles_of_compileFlow hcompile) hext
  exact halike h (htargets.beside fuel path) (compiles_of_compileFlow hcompile') hext' fuel (Nat.le_succ fuel) vars

/-- Two commands do the same wherever they stand: so do any two flows that differ by them only, if these are compiled
at the same place and go on alike. -/
def Interchangeable (m : Machine) (c c' : Command) : Prop :=
  ∀ ⦃flow flow' : Flow⦄, DifferBy c c' (.flow flow) (.flow flow') →
    ∀ ⦃path targets index p p' q q' r⦄, compileFlow flow path targets index p = .ok () q → q.Extends m.program →
      compileFlow flow' path targets index p' = .ok () q' → q'.Extends r →
      r.dialog.name = m.program.dialog.name → r.settings = m.program.settings → m.GoOnAlike (m.running r) targets →
        ∀ fuel vars, m.invoke fuel path.toValue vars = (m.running r).invoke fuel path.toValue vars

private theorem interchangeable_negated {yes no : Flow} (hyes : m.Movable yes) (hno : m.Movable no) (id : String)
    (t : Value) :
    m.Interchangeable (.conditional id (.negated t) yes no) (.conditional id t no yes) := by
  intro flow flow' h path targets index p p' q q' r hcompile hext hcompile' hext' hname hsettings htargets
  exact invoke_exchanged (h.exchanged (.exchange (.inl rfl) hyes hno)) hcompile hext hcompile' hext' hname hsettings
    htargets

/-- A command that was compiled enters a loop at its head. A hop there tries the condition once, and leads to the exit
if it holds and to the body if not. So the loop goes round as long as the condition does not hold, and then comes what
the targets of the command lead to. -/
def LoopsUntil (m : Machine) (c : Command) (t : Value) (body : Flow) : Prop :=
  ∀ ⦃path targets p step q⦄, compileCommand c path targets p = .ok step q → q.Extends m.program →
    ∃ (head bodyPath exit : FlowPath) (l : Labels), step = .iteration none head ∧
      (∀ vars, m.hop head.toValue vars = do
        let v ← (m.expander vars head).expand t
        return some ((if (← Run.current v).truthy then exit else bodyPath).toValue, vars)) ∧
      ∀ n after, m.Realizes n targets after → ∀ vars, m.Agrees n head vars
        (Direct.iterate (fun vars => do return !(← m.holds head t vars)) (Direct.runFlow m body l) pure pure n vars >>=
          after)

private theorem loopsUntil_negated (m : Machine) (id : String) (t : Value) (body : Flow) :
    m.LoopsUntil (.iteration id [] (.negated t) [] body) t body := by
  intro path targets p step q hcompile hext
  cases compiles_of_compileCommand hcompile with
  | @iteration _ _ _ _ _ _ _ root head bodyPath again exit _ _ key _ _ _ _ _ hroot hhead hdo hcontinue hend _ exits
      repeats continues hkey hadd hinit =>
    have hadded := Program.extends_of_add hadd
    have hcontinues := hadded.trans hext
    have hrepeats := continues.grows.trans hcontinues
    have hfind := hext.find ((Program.pathKey_congr hadded.name _).trans hkey) (Program.lookup_of_add hadd)
    obtain ⟨_, hexit, -⟩ := Direct.means_of_compiles (K := fun _ => True) exits (repeats.grows.trans hrepeats)
      fun _ _ => trivial
    obtain ⟨lb, hbody, -⟩ := Direct.means_of_compiles (K := fun _ => True) repeats hrepeats fun _ _ => trivial
    obtain ⟨la, hagain, -⟩ := Direct.means_of_compiles (K := fun _ => True) continues hcontinues fun _ _ => trivial
    -- the interpreter's loop with the labels of what was compiled; its increment is empty
    let labels : Labels := .node { path := head } fun
      | 0 => lb
      | 2 => (lb.drop body.length).sub 0
      | _ => la.sub 0
    have hcondition : m.holds labels.own.path (.negated t) = fun vars => do return !(← m.holds head t vars) :=
      funext fun vars => m.holds_negated head t vars
    refine ⟨head, bodyPath, exit, lb, rfl, fun vars => ?_, fun n after hr vars => ?_⟩
    · unfold hop
      rw [hfind]
      simp only [Run.ofExcept, runHandler, landing, pure_bind, bind_assoc, holds_negated]
      unfold holds
      simp only [bind_assoc, pure_bind]
      refine bind_congr fun v => bind_congr fun v => ?_
      cases v.truthy <;> rfl
    · have hround (n : Nat) (after : Ending → Run Ending) (hr : m.Realizes n (.ofLoop head exit again) after)
          (vars : Value) : m.Agrees n bodyPath vars (Direct.runFlow m body lb n vars >>=
            before (Direct.runIncrement m (labels.sub 2).own.path []) after) := by
        have hrun := hbody n after hr vars
        rwa [Direct.runFlow_loopTail_bind] at hrun
      have hrounds : m.Agrees n head vars (Direct.loop m labels (.negated t) [] body n vars >>= after) := by
        refine Direct.agrees_loop (l := labels) rfl hfind ?_ hround ?_ hr vars
        · intro n after hr vars
          simpa using hexit n after hr vars
        · intro n after hr vars
          have hrun := hagain n after hr vars
          rwa [Direct.runFlow_incrementFlow_bind] at hrun
      unfold Direct.loop at hrounds
      rw [hcondition] at hrounds
      exact hrounds

end Machine

/-- What `unless` and `until` mean. Wherever a choice with `unless` stands, it may be written as one with `if` and the
branches exchanged, whatever is tested, as long as the branches do not show where they stand. A loop with `until` goes
round as long as its condition does not hold. -/
theorem unless_exchanges_branches_and_until_negates (m : Machine) (ident : Identity) (t a b : Value) {yes no : Flow}
    (ha : Normal.flow a = .ok yes) (hb : Normal.flow b = .ok no) :
    Normal.element (.dict ident [(.str "unless", t), (.str "then", a), (.str "else", b)]) =
      .ok (.command (.conditional "if" (.negated t) yes no)) ∧
    Normal.element (.dict ident [(.str "if", t), (.str "then", b), (.str "else", a)]) =
      .ok (.command (.conditional "if" t no yes)) ∧
    Normal.element (.dict ident [(.str "until", t), (.str "do", a)]) =
      .ok (.command (.iteration "loop" [] (.negated t) [] yes)) ∧
    (m.Movable yes → m.Movable no →
      m.Interchangeable (.conditional "if" (.negated t) yes no) (.conditional "if" t no yes)) ∧
    m.LoopsUntil (.iteration "loop" [] (.negated t) [] yes) t yes :=
  ⟨Normal.element_unless ident t ha hb, Normal.element_if ident t hb ha, Normal.element_until ident t ha,
    fun hyes hno => m.interchangeable_negated hyes hno "if" t, m.loopsUntil_negated "loop" t yes⟩

/-! ### A loop that is left from a branch -/

def answersFunction : Function := { id := 1, name := "answers" }

/-- An application whose functions give the only answer "Yes". -/
def answering : Application := ⟨fun _ _ => pure (.ofList [.record [("type", .str "reply"), ("text", .str "Yes")]])⟩

/-- A message that says something. -/
def remark (text : String) : Element := .command (.message .text "text" { text := .str text } .absent .absent)

/-- A flow that says something and leaves the loop around it. -/
def parting (text : String) : Flow := [remark text, .command (.break "break")]

/-- A loop with a choice between two flows that leave it, and something that comes after it. -/
def onceAround (choice : Command) : Flow := [.command (.iteration "loop" [] (.bool true) [] [.command choice]), remark "Bye"]

private theorem compiles_onceAround (test : Value) (first second : String) : ∃ q,
    compileFlow (onceAround (.conditional "if" test (parting first) (parting second))) [.name "main"] {} 0
      { dialog := { name := "Trial" } } = .ok () q ∧ q.dialog.name = "Trial" ∧ q.settings = {} := by
  have h : Compiles (.flow (onceAround (.conditional "if" test (parting first) (parting second))) [.name "main"] {} 0)
      { dialog := { name := "Trial" } } _ :=
    .flow rfl rfl
      (.broken rfl rfl rfl
        (.unspliced rfl rfl
          (.flow rfl rfl (.plain rfl rfl (.message rfl .noActions .noItems) .nil) rfl
            (Program.add_eq_ok.mpr ⟨rfl, rfl⟩)))
        (.iteration rfl rfl rfl rfl rfl (incrementValues?_ok (by decide +kernel))
          (.flow rfl rfl .nil rfl (Program.add_eq_ok.mpr ⟨rfl, rfl⟩))
          (.flow rfl rfl
            (.last rfl rfl
              (.conditional rfl rfl rfl
                (.flow rfl rfl (.plain rfl rfl (.message rfl .noActions .noItems) (.last rfl rfl (.break rfl))) rfl
                  (Program.add_eq_ok.mpr ⟨rfl, rfl⟩))
                (.flow rfl rfl (.plain rfl rfl (.message rfl .noActions .noItems) (.last rfl rfl (.break rfl))) rfl
                  (Program.add_eq_ok.mpr ⟨rfl, rfl⟩))))
            rfl (Program.add_eq_ok.mpr ⟨rfl, rfl⟩))
          (.flow rfl rfl .nil rfl (Program.add_eq_ok.mpr ⟨rfl, rfl⟩))
          rfl (Program.add_eq_ok.mpr ⟨rfl, rfl⟩) fun _ => rfl))
      rfl (Program.add_eq_ok.mpr ⟨rfl, rfl⟩)
  exact ⟨_, h.succeeds, rfl, rfl⟩

/-- The branches that leave a loop are exchanged. -/
theorem parting_branches_are_exchanged : ∃ q r : Program,
    Normal.element (.record [("unless", .function answersFunction),
      ("then", .ofList [.str "Good", .record [("break", .bool true)]]),
      ("else", .ofList [.str "Bad", .record [("break", .bool true)]])]) =
      .ok (.command (.conditional "if" (.negated (.function answersFunction)) (parting "Good") (parting "Bad"))) ∧
    compileFlow (onceAround (.conditional "if" (.negated (.function answersFunction)) (parting "Good") (parting "Bad")))
      [.name "main"] {} 0 { dialog := { name := "Trial" } } = .ok () q ∧
    compileFlow (onceAround (.conditional "if" (.function answersFunction) (parting "Bad") (parting "Good")))
      [.name "main"] {} 0 { dialog := { name := "Trial" } } = .ok () r ∧
    ∀ fuel vars, Machine.invoke ⟨answering, [], q⟩ fuel (FlowPath.toValue [.name "main"]) vars =
      Machine.invoke ⟨answering, [], r⟩ fuel (FlowPath.toValue [.name "main"]) vars := by
  obtain ⟨q, hq, hname, hsettings⟩ :=
    compiles_onceAround (.negated (.function answersFunction)) "Good" "Bad"
  obtain ⟨r, hr, hname', hsettings'⟩ := compiles_onceAround (.function answersFunction) "Bad" "Good"
  have happ : answering.IgnoresPath := .of_const _
  have hgood : Normal.flow (.ofList [.str "Good", .record [("break", .bool true)]]) = .ok (parting "Good") := by
    with_unfolding_all rfl
  have hbad : Normal.flow (.ofList [.str "Bad", .record [("break", .bool true)]]) = .ok (parting "Bad") := by
    with_unfolding_all rfl
  obtain ⟨hunless, -, -, hexchange, -⟩ := unless_exchanges_branches_and_until_negates ⟨answering, [], q⟩ .anonymous
    (.function answersFunction) _ _ hgood hbad
  have hsame := hexchange (Machine.movable_of_keyless happ rfl) (Machine.movable_of_keyless happ rfl)
  refine ⟨q, r, hunless, hq, hr, fun fuel vars => ?_⟩
  exact hsame (.head rfl rfl (.body (.head rfl rfl .here))) hq (.refl q) hr (.refl r) (hname'.trans hname.symm)
    (hsettings'.trans hsettings.symm) (Machine.goOnAlike_blank _ _) fuel vars

/-! ### Computed replies -/

/-- A question with computed answers, and what is said after it. -/
def picking : Flow :=
  [.command (.message .text "text" { text := .str "Pick" } (.computed (.function answersFunction)) .absent),
    remark "Thanks"]

/-- The keys that the actions of a message lead to, as it was sent. -/
def shownKeys (message : Entries) : List String :=
  match Entries.named message "actions" with
  | .list _ actions => actions.filterMap fun
    | .dict _ entries => (Entries.named entries "payload").text?
    | _ => none
  | _ => []

/-- The keys that are sent with actions when a flow is run in a new session. -/
def Machine.keysSent (m : Machine) (path : FlowPath) : List String :=
  match m.invoke 2 path.toValue (.dict .anonymous []) { session := { id := .str "s" } } with
  | .ok _ w | .error _ w => w.session.sent.flatMap shownKeys

private theorem keysSent_unless : ∃ q,
    compileFlow [.command (.conditional "if" (.negated (.bool false)) picking [remark "No"])] [.name "main"] {} 0
      { dialog := { name := "Trial" } } = .ok () q ∧ q.dialog.name = "Trial" ∧ q.settings = {} ∧
    Machine.keysSent ⟨answering, [], q⟩ [.name "main"] = ["Trial:main.if.then.flow1"] := by
  have h : Compiles (.flow [.command (.conditional "if" (.negated (.bool false)) picking [remark "No"])] [.name "main"] {} 0)
      { dialog := { name := "Trial" } } _ :=
    .flow rfl rfl
      (.last rfl rfl
        (.conditional rfl rfl rfl
          (.flow rfl rfl
            (.broken rfl rfl rfl
              (.unspliced rfl rfl
                (.flow rfl rfl (.plain rfl rfl (.message rfl .noActions .noItems) .nil) rfl
                  (Program.add_eq_ok.mpr ⟨rfl, rfl⟩)))
              (.message rfl .computedActions .noItems))
            rfl (Program.add_eq_ok.mpr ⟨rfl, rfl⟩))
          (.flow rfl rfl (.plain rfl rfl (.message rfl .noActions .noItems) .nil) rfl
            (Program.add_eq_ok.mpr ⟨rfl, rfl⟩))))
      rfl (Program.add_eq_ok.mpr ⟨rfl, rfl⟩)
  exact ⟨_, h.succeeds, rfl, rfl, by decide +kernel⟩

private theorem keysSent_if : ∃ q,
    compileFlow [.command (.conditional "if" (.bool false) [remark "No"] picking)] [.name "main"] {} 0
      { dialog := { name := "Trial" } } = .ok () q ∧ q.dialog.name = "Trial" ∧ q.settings = {} ∧
    Machine.keysSent ⟨answering, [], q⟩ [.name "main"] = ["Trial:main.if.else.flow1"] := by
  have h : Compiles (.flow [.command (.conditional "if" (.bool false) [remark "No"] picking)] [.name "main"] {} 0)
      { dialog := { name := "Trial" } } _ :=
    .flow rfl rfl
      (.last rfl rfl
        (.conditional rfl rfl rfl
          (.flow rfl rfl (.plain rfl rfl (.message rfl .noActions .noItems) .nil) rfl
            (Program.add_eq_ok.mpr ⟨rfl, rfl⟩))
          (.flow rfl rfl
            (.broken rfl rfl rfl
              (.unspliced rfl rfl
                (.flow rfl rfl (.plain rfl rfl (.message rfl .noActions .noItems) .nil) rfl
                  (Program.add_eq_ok.mpr ⟨rfl, rfl⟩)))
              (.message rfl .computedActions .noItems))
            rfl (Program.add_eq_ok.mpr ⟨rfl, rfl⟩))))
      rfl (Program.add_eq_ok.mpr ⟨rfl, rfl⟩)
  exact ⟨_, h.succeeds, rfl, rfl, by decide +kernel⟩

/-- Computed replies that something comes after are sent with its key, which shows the branch. So these branches cannot
be exchanged, although they have no fixed actions and start nothing, and handlers ignore where they are called from. -/
theorem computed_replies_show_their_branch : answering.IgnoresPath ∧
    Normal.flow (.ofList [.record [("type", .str "text"), ("text", .str "Pick"), ("actions", .function answersFunction)],
      .str "Thanks"]) = .ok picking ∧
    Normal.flow (.str "No") = .ok [remark "No"] ∧
    ∃ q r : Program,
      compileFlow [.command (.conditional "if" (.negated (.bool false)) picking [remark "No"])] [.name "main"] {} 0
        { dialog := { name := "Trial" } } = .ok () q ∧
      compileFlow [.command (.conditional "if" (.bool false) [remark "No"] picking)] [.name "main"] {} 0
        { dialog := { name := "Trial" } } = .ok () r ∧
      Machine.keysSent ⟨answering, [], q⟩ [.name "main"] = ["Trial:main.if.then.flow1"] ∧
      Machine.keysSent ⟨answering, [], r⟩ [.name "main"] = ["Trial:main.if.else.flow1"] ∧
      ¬ Machine.Interchangeable ⟨answering, [], q⟩ (.conditional "if" (.negated (.bool false)) picking [remark "No"])
        (.conditional "if" (.bool false) [remark "No"] picking) := by
  obtain ⟨q, hq, hname, hsettings, hkeys⟩ := keysSent_unless
  obtain ⟨r, hr, hname', hsettings', hkeys'⟩ := keysSent_if
  refine ⟨.of_const _, by with_unfolding_all rfl, by with_unfolding_all rfl, q, r, hq, hr, hkeys, hkeys',
    fun hsame => ?_⟩
  have hruns := hsame (.head rfl rfl .here) hq (.refl q) hr (.refl r) (hname'.trans hname.symm)
    (hsettings'.trans hsettings.symm) (Machine.goOnAlike_blank _ _) 2 (.dict .anonymous [])
  have hkept : Machine.keysSent ⟨answering, [], q⟩ [.name "main"] = Machine.keysSent ⟨answering, [], r⟩ [.name "main"] := by
    unfold Machine.keysSent
    rw [hruns]
    rfl
  rw [hkeys, hkeys'] at hkept
  exact absurd hkept (by decide)

end Colloquy
