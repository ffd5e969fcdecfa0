import Colloquy.Template.Render
import Colloquy.Proofs.Run.Contract

/-!
# Contracts of templates

A template is rendered without touching the session. It fails with faults of evaluation, or with what
stops the functions that it calls.
-/

namespace Colloquy.Template

open Run

variable {c : Contract} {app : Application}

private theorem meets_loopMember (l : LoopState) (name : String) : Meets c (loopMember l name) := by
  refine (meets_current _).bind fun source => ?_
  dsimp only
  split <;> exact .pure _

private theorem meets_loopCall (l : LoopState) (name : String) (args : Arguments) : Meets c (loopCall l name args) := by
  unfold loopCall
  split
  · exact .pure _
  · exact .fault _
  · refine (meets_loopMember l _).bind fun v => ?_
    split <;> exact .fault _

private theorem meets_currentAll (vs : List Value) : Meets c (currentAll vs) := .mapM fun v _ => meets_current v

mutual

private theorem meets_eval (happ : app.Meets c) (scope : Scope) (e : Expr) : Meets c (e.eval app scope) := by
  match e with
  | .const v =>
    unfold Expr.eval
    split
    · exact .fault _
    · exact meets_store v
  | .name s =>
    unfold Expr.eval
    split
    · exact meets_current _
    · exact .pure _
  | .list items => exact (meets_evalAll happ scope items).bind fun _ => meets_store _
  | .tuple items => exact (meets_evalAll happ scope items).map _
  | .dict entries =>
    exact (meets_evalEntries happ scope entries).bind fun _ => (Meets.ofOutcome _).bind fun _ => meets_store _
  | .negative e => exact (meets_eval happ scope e).bind fun _ => .ofOutcome _
  | .positive e => exact (meets_eval happ scope e).bind fun _ => .ofOutcome _
  | .not e => exact (meets_eval happ scope e).map _
  | .binary op a b =>
    refine (meets_eval happ scope a).bind fun v => (meets_eval happ scope b).bind fun w => ?_
    exact (meets_current v).bind fun _ => (Meets.ofOutcome _).bind fun _ => meets_store _
  | .concat parts =>
    exact (meets_evalAll happ scope parts).bind fun _ => (meets_currentAll _).bind fun _ => .ofOutcome _
  | .compare first rest => exact (meets_eval happ scope first).bind fun v => meets_evalChain happ scope v rest
  | .and a b =>
    refine (meets_eval happ scope a).bind fun v => ?_
    split
    · exact meets_eval happ scope b
    · exact .pure v
  | .or a b =>
    refine (meets_eval happ scope a).bind fun v => ?_
    split
    · exact .pure v
    · exact meets_eval happ scope b
  | .choice test yes no =>
    refine (meets_eval happ scope test).bind fun v => ?_
    split
    · exact meets_eval happ scope yes
    · exact (meets_evalOption happ scope no).map _
  | .member e name =>
    have he := meets_eval happ scope e
    cases e with
    | name n =>
      rw [Expr.eval]
      split
      · exact meets_loopMember _ _
      · exact (meets_current _).bind fun _ => .ofOutcome _
      · exact .ofOutcome _
    | _ => exact he.bind fun _ => .ofOutcome _
  | .item e key =>
    have he := meets_eval happ scope e
    have hkey := meets_eval happ scope key
    cases key with
    | bounds start stop step =>
      refine he.bind fun v => (meets_evalOption happ scope start).bind fun _ => ?_
      refine (meets_evalOption happ scope stop).bind fun _ => (meets_evalOption happ scope step).bind fun _ => ?_
      exact (meets_current v).bind fun _ => (Meets.ofOutcome _).bind fun _ => meets_store _
    | _ => exact he.bind fun v => hkey.bind fun _ => (meets_current v).bind fun _ => .ofOutcome _
  | .bounds .. => exact .fault _
  | .call fn args =>
    have hfn := meets_eval happ scope fn
    have hargs := meets_evalArgs happ scope args
    rw [Expr.eval]
    split
    · exact hargs.bind fun args => meets_loopCall _ _ args
    · refine hfn.bind fun f => hargs.bind fun args => ?_
      exact (meets_callValue happ f args).bind fun _ => meets_store _
  | .filter e name args =>
    refine (meets_eval happ scope e).bind fun v => (meets_evalArgs happ scope args).bind fun args => ?_
    split
    · exact (meets_current v).bind fun _ => (Meets.ofOutcome _).bind fun _ => meets_store _
    · exact .fault _
  | .test e name args =>
    refine (meets_eval happ scope e).bind fun v => (meets_evalArgs happ scope args).bind fun args => ?_
    split
    · exact (meets_current v).bind fun _ => (Meets.ofOutcome _).map _
    · exact .fault _

theorem meets_evalAll (happ : app.Meets c) (scope : Scope) (es : List Expr) : Meets c (evalAll app scope es) := by
  match es with
  | [] => exact .pure _
  | e :: es => exact (meets_eval happ scope e).bind fun _ => (meets_evalAll happ scope es).map _

theorem meets_evalEntries (happ : app.Meets c) (scope : Scope) (entries : List (Expr × Expr)) :
    Meets c (evalEntries app scope entries) := by
  match entries with
  | [] => exact .pure _
  | (k, e) :: rest =>
    refine (meets_eval happ scope k).bind fun _ => (meets_eval happ scope e).bind fun _ => ?_
    exact (meets_evalEntries happ scope rest).map _

theorem meets_evalChain (happ : app.Meets c) (scope : Scope) (v : Value) (rest : List (Relation × Expr)) :
    Meets c (evalChain app scope v rest) := by
  match rest with
  | [] => exact .pure _
  | (r, e) :: rest =>
    refine (meets_eval happ scope e).bind fun w => (meets_current v).bind fun _ => (Meets.ofOutcome _).bind fun b => ?_
    cases b with
    | true => exact meets_evalChain happ scope w rest
    | false => exact .pure _

theorem meets_evalOption (happ : app.Meets c) (scope : Scope) (e : Option Expr) :
    Meets c (evalOption app scope e) := by
  match e with
  | none => exact .pure _
  | some e => exact (meets_eval happ scope e).map _

theorem meets_evalNamed (happ : app.Meets c) (scope : Scope) (named : List (String × Expr)) :
    Meets c (evalNamed app scope named) := by
  match named with
  | [] => exact .pure _
  | (k, e) :: rest => exact (meets_eval happ scope e).bind fun _ => (meets_evalNamed happ scope rest).map _

private theorem meets_evalArgs (happ : app.Meets c) (scope : Scope) (args : CallArgs) : Meets c
    (evalArgs app scope args) := by
  match args with
  | .mk positional named rest others =>
    refine (meets_evalAll happ scope positional).bind fun _ => (meets_evalNamed happ scope named).bind fun _ => ?_
    refine (meets_evalOption happ scope rest).bind fun _ => (meets_evalOption happ scope others).bind fun _ => ?_
    refine (meets_currentAll _).bind fun _ => ?_
    exact (Meets.mapM fun kv _ => (meets_current kv.2).map _).bind fun _ => .ofOutcome _

end

mutual

private theorem meets_assign (frame : Frame) (v : Value) (t : Target) : Meets c (t.assign frame v) := by
  match t with
  | .name s => exact .pure _
  | .member .. => exact .fault _
  | .tuple parts =>
    refine (meets_current v).bind fun _ => (Meets.ofOutcome _).bind fun items => ?_
    split
    · exact meets_assignAll frame items parts
    · exact .fault _
termination_by structural t

theorem meets_assignAll (frame : Frame) (vs : List Value) (ts : List Target) :
    Meets c (assignAll frame vs ts) := by
  match ts with
  | [] => exact .pure _
  | t :: ts => exact (meets_assign frame _ t).bind fun frame => meets_assignAll frame vs.tail ts
termination_by structural ts

end

private theorem meets_each {fetch : Nat → Run (Option Value)} {step : Nat → Value → Run (Option String)}
    (hfetch : ∀ i, Meets c (fetch i)) (hstep : ∀ i v, Meets c (step i v)) (fuel i : Nat) (text : String)
    (found : Bool) : Meets c (each fetch step fuel i text found) := by
  induction fuel generalizing i text found with
  | zero => exact .fault _
  | succ fuel ih =>
    refine (hfetch i).bind fun v => ?_
    cases v with
    | none => exact .pure _
    | some v =>
      refine (hstep i v).bind fun t => ?_
      cases t with
      | none => exact ih _ _ _
      | some t => exact ih _ _ _

private theorem meets_fetchFrom (v : Value) : Meets c (fetchFrom v) := by
  unfold fetchFrom
  split
  · exact .pure _
  · exact (Meets.ofOutcome _).map _

private theorem yields_fetchFrom (c : Contract) (v : Value) : (fetchFrom v).Yields fun fetch => ∀ i, Meets c
    (fetch i) := by
  unfold fetchFrom
  split
  · exact .pure fun i => (meets_current _).map _
  · exact .bind fun cells => .pure fun i => .pure _

mutual

theorem meets_render (happ : app.Meets c) (outer : Scope) (frame : Frame) (n : Node) :
    Meets c (n.render app outer frame) := by
  match n with
  | .data text => exact .pure _
  | .output e => exact (meets_eval happ _ e).bind fun _ => (Meets.ofOutcome _).map _
  | .branch tests otherwise =>
    exact meets_renderBranches happ outer frame (meets_renderAll happ outer frame otherwise) tests
  | .assign target e =>
    have hrest : Meets c (do
        let v ← e.eval app { outer with frames := frame :: outer.frames }
        return ("", ← target.assign frame v)) :=
      (meets_eval happ _ e).bind fun v => (meets_assign frame v target).map _
    exact .ite ((Meets.fault _).bind fun _ => hrest) hrest
  | .capture target filters body =>
    have hbody := fun scope frame => meets_renderAll happ scope frame body
    have hfilter (scope : Scope) (v : Value) (f : BlockFilter) : Meets c (do
        let args ← evalArgs app scope f.args
        match filter? f.name with
        | some g => Run.ofOutcome (g v args)
        | none => throw (.fault .rejectedTemplate)) := by
      refine (meets_evalArgs happ scope f.args).bind fun args => ?_
      split
      · exact .ofOutcome _
      · exact .fault _
    refine .ite ((Meets.fault _).bind fun _ => ?_) ?_
    all_goals
      refine (hbody _ _).bind fun r => (Meets.foldlM (hfilter _) filters _).bind fun v => ?_
      exact (meets_assign frame v target).map _
  | .loop target source test body otherwise =>
    have hbody := fun scope frame => meets_renderAll happ scope frame body
    have hotherwise := fun scope frame => meets_renderAll happ scope frame otherwise
    rw [Node.render]
    refine (meets_eval happ _ source).bind fun source => ?_
    extract_lets bodySymbols passes ahead jp
    have hpasses (v : Value) : Meets c (passes v) := by
      unfold passes
      cases test with
      | none => exact .pure true
      | some e => exact (meets_assign _ v target).bind fun inner => (meets_eval happ _ e).map _
    have hjp (source : Value) : Meets c (jp source) := by
      refine (meets_fetchFrom source).bind_of (yields_fetchFrom c source) fun fetch hfetch => ?_
      extract_lets round
      have hround (i : Nat) (v : Value) : Meets c (round i v) := by
        refine (hpasses v).bind fun b => .ite ((meets_assign _ v target).bind fun inner => ?_) (.pure none)
        extract_lets draw
        have hdraw (previous : Option Value) : Meets c (draw previous) := (hbody _ _).bind fun _ => .pure _
        exact .ite ((Meets.pure none).bind hdraw) ((hfetch _).bind hdraw)
      refine (meets_each hfetch hround loopBound 0 "" false).bind fun r => .ite (.pure _) ?_
      exact (hotherwise _ _).bind fun _ => .pure _
    refine .ite ?_ ((Meets.pure source).bind hjp)
    refine (Meets.ofOutcome _).bind fun items => (Meets.filterM hpasses items).bind fun kept => ?_
    exact (Meets.pure _).bind hjp
termination_by structural n

private theorem meets_renderAll (happ : app.Meets c) (outer : Scope) (frame : Frame) (ns : List Node) :
    Meets c (renderAll app outer frame ns) := by
  match ns with
  | [] => exact .pure _
  | n :: ns =>
    exact (meets_render happ outer frame n).bind fun r => (meets_renderAll happ outer r.2 ns).bind fun _ => .pure _
termination_by structural ns

theorem meets_renderBranches (happ : app.Meets c) (outer : Scope) (frame : Frame)
    {otherwise : Run (String × Frame)} (hotherwise : Meets c otherwise) (bs : List (Expr × List Node)) :
    Meets c (renderBranches app outer frame otherwise bs) := by
  match bs with
  | [] => exact hotherwise
  | (e, body) :: rest =>
    refine (meets_eval happ _ e).bind fun v => ?_
    split
    · exact meets_renderAll happ outer frame body
    · exact meets_renderBranches happ outer frame hotherwise rest
termination_by structural bs

end

private theorem meets_renderNodes (happ : app.Meets c) (nodes : List Node) (vars : Entries) :
    Meets c (renderNodes app nodes vars) := by
  have hrest : Meets c (do
      let scope : Scope := { frames := [], given := Entries.merge globals vars }
      let frame := scope.enter (noteAll (fun _ => false) {} nodes)
      return (← renderAll app scope frame nodes).1) :=
    (meets_renderAll happ _ _ nodes).map _
  exact .ite ((Meets.fault _).bind fun _ => hrest) hrest

private theorem meets_keep (text : String) : Meets c (keep text) := by
  intro w _
  change Kept c _ w ((if w.templateLimit < 1 then _ else _ : Run Unit) w)
  split
  · exact ⟨c.refl w, c.ordinary rfl⟩
  · exact ⟨c.aside rfl (.refl _), trivial⟩

theorem meets_renderText (happ : app.Meets c) (text : String) (vars : Value) : Meets c (render app text vars) := by
  unfold render
  refine .ite (.pure _) ?_
  refine (Meets.ofOutcome _).bind fun nodes => (meets_keep text).bind fun _ => (meets_current vars).bind fun _ => ?_
  exact (Meets.ofOutcome _).bind fun entries => (meets_renderNodes happ nodes entries).map _

end Colloquy.Template
