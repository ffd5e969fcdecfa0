import Colloquy.Proofs.Compile.Plans
import Colloquy.Proofs.Run.PathIndependence

/-!
# Exchanging the branches of conditionals

A conditional with a negated test can be written without the negation if its branches are exchanged. The two forms
are compiled into different places, so a branch must not show where it stands: handlers in it may not look at their
path, and nothing in it may be answered under the key of a place. What stands around the conditional stays where it
is, and may do all of this.
-/

namespace Colloquy

/-- Where a part of a flow stands, compared to its counterpart in another flow. -/
inductive Placement where
  /-- At the same place. -/
  | here
  /-- Somewhere else, but the flow goes on at the same place. -/
  | aside
  /-- Somewhere else altogether. -/
  | away
deriving DecidableEq

namespace Placement

/-- How something stands that the flow goes on with inside the part itself. -/
def inner : Placement → Placement
  | .here => .here
  | _ => .away

/-- How a part stands that was moved to another place within its command. -/
def moved : Placement → Placement
  | .here => .aside
  | s => s

/-- How the first command of a sequence stands. -/
def before (s : Placement) (rest : Flow) : Placement := if rest.isEmpty then s else s.inner

/-- What is done at a path is the same for both parts. -/
def Spares {α : Type} (s : Placement) (f : FlowPath → α) : Prop := s = .here ∨ ∀ path other, f path = f other

variable {α : Type} {s : Placement} {f : FlowPath → α}

@[simp] theorem inner_inner (s : Placement) : s.inner.inner = s.inner := by cases s <;> rfl

@[simp] theorem inner_eq_here : s.inner = .here ↔ s = .here := by cases s <;> simp [inner]

theorem inner_of_ne (h : s ≠ .aside) : s.inner = s := by cases s <;> simp_all [inner]

theorem inner_ne_aside : s.inner ≠ .aside := by cases s <;> simp [inner]

theorem moved_ne_here : s.moved ≠ .here := by cases s <;> simp [moved]

@[simp] theorem before_nil (s : Placement) : s.before [] = s := rfl

@[simp] theorem before_cons (s : Placement) (e : Element) (rest : Flow) : s.before (e :: rest) = s.inner := rfl

private theorem before_append (s : Placement) (first second : Flow) :
    s.before (first ++ second) = (s.before second).before first := by
  cases first with
  | nil => rfl
  | cons e first => cases second <;> simp

@[simp] theorem here_before (rest : Flow) : Placement.here.before rest = .here := by
  cases rest <;> rfl

theorem Spares.inner (h : s.Spares f) : s.inner.Spares f := by
  rcases h with rfl | h
  · exact .inl rfl
  · exact .inr h

private theorem Spares.of_before {rest : Flow} (h : (s.before rest).Spares f) : s.Spares f := by
  rcases h with hs | h
  · cases rest with
    | nil => exact .inl hs
    | cons e rest => exact .inl (inner_eq_here.mp hs)
  · exact .inr h

theorem Spares.eq (h : s.Spares f) {path path' : FlowPath} (hplace : s = .here → path' = path) : f path' = f path := by
  rcases h with hs | h
  · rw [hplace hs]
  · exact h path' path

end Placement

/-! ## What has no keys of its own -/

/-- Whether a message is sent without keys of the place where it stands. Computed replies are sent with the key of
what comes next, so this must not have been moved. -/
def messageIsKeyless (actions : Actions) (items : Items) (s : Placement) : Bool :=
  !actions.offersFlow && items.list.all (!·.actions.offersFlow) && (s == .aside || !isDynamic actions items)

mutual

/-- Whether nothing in an element is answered under the key of its place. -/
def Element.isKeyless : Element → Placement → Bool
  | .command c, s => c.isKeyless s
  | .deferred _ e, s => e.isKeyless s
  | _, _ => true
termination_by structural e => e

/-- Whether nothing in a command is answered under the key of its place. -/
def Command.isKeyless : Command → Placement → Bool
  | .message _ _ _ actions items, s => messageIsKeyless actions items s
  | .conditional _ _ yes no, s => flowIsKeyless yes s && flowIsKeyless no s
  | .switch _ _ cases default, s => casesAreKeyless cases s.inner && defaultIsKeyless default s.inner
  | .iteration _ _ _ _ body, s => flowIsKeyless body s.inner
  | .start .., _ => false
  | .flow _ body, s => flowIsKeyless body s
  | _, _ => true
termination_by structural c => c

/-- Whether nothing in a flow is answered under the key of its place. -/
def flowIsKeyless : List Element → Placement → Bool
  | [], _ => true
  | e :: rest, s => e.isKeyless (s.before rest) && flowIsKeyless rest s
termination_by structural flow => flow

/-- Whether nothing in the cases of a switch is answered under the key of its place. -/
def casesAreKeyless : List Case → Placement → Bool
  | [], _ => true
  | .mk _ _ body :: rest, s => flowIsKeyless body s && casesAreKeyless rest s
termination_by structural cases => cases

/-- Whether nothing in the default of a switch is answered under the key of its place. -/
def defaultIsKeyless : Option (List Element) → Placement → Bool
  | none, _ => true
  | some body, s => flowIsKeyless body s
termination_by structural default => default

end

private theorem Element.isKeyless_of_command? {e : Element} {c : Command} (he : e.command? = some c) (s : Placement) :
    e.isKeyless s = c.isKeyless s := by
  match e with
  | .command d =>
    cases he
    rfl
  | .deferred _ inner => exact Element.isKeyless_of_command? (e := inner) he s

/-- Nothing is asked of a part that stays where it is. One that is moved has no keys of its own, and handlers ignore
where they are called from. -/
def Machine.Suits (m : Machine) (s : Placement) (isKeyless : Placement → Bool) : Prop :=
  s = .here ∨ m.app.IgnoresPath ∧ isKeyless s = true

namespace Machine.Suits

variable {m : Machine} {s s' : Placement} {isKeyless isKeyless' : Placement → Bool}

private theorem spares {α : Type} {f : FlowPath → α} (h : m.Suits s isKeyless)
    (hf : m.app.IgnoresPath → ∀ path other, f path = f other) : s.Spares f :=
  h.imp_right fun h => hf h.1

private theorem imp (h : m.Suits s isKeyless) (hs : s = .here → s' = .here)
    (hkeyless : isKeyless s = true → isKeyless' s' = true) : m.Suits s' isKeyless' :=
  Or.imp hs (fun h => ⟨h.1, hkeyless h.2⟩) h

end Machine.Suits

/-- A message that does not show where it stands: it has no fixed replies or postbacks, and it is sent in the same
way at every path. Computed replies lead to where the flow goes on; where this is not the same, they may not show it
either. -/
structure Machine.Portable (m : Machine) (s : Placement) (kind : MessageKind) (body : MessageBody)
    (actions : Actions) (items : Items) : Prop where
  actionsIdle : actions.offersFlow = false
  itemsIdle : ∀ item ∈ items.list, item.actions.offersFlow = false
  sent : ∀ path other next next' vars, next.isSome = next'.isSome → (s = .aside → next = next') →
    m.deliver (body.idlePlan kind actions items path next) vars =
      m.deliver (body.idlePlan kind actions items other next') vars

private theorem Actions.idlePlan_isComputed (actions : Actions) : actions.idlePlan.isComputed = actions.isComputed := by
  cases actions <;> rfl

private theorem Items.idlePlan_isComputed (items : Items) :
    items.idlePlan.isComputed = (items.isComputed || items.list.any (·.actions.isComputed)) := by
  cases items with
  | fixed list =>
    have hitem : (fun entry : Entries × ActionPlan => entry.2.isComputed) ∘
        (fun item : Item => (item.info.params, item.actions.idlePlan)) = fun item => item.actions.isComputed :=
      funext fun item => item.actions.idlePlan_isComputed
    simp [idlePlan, ItemPlan.isComputed, isComputed, Items.list, List.any_map, hitem]
  | _ => rfl

private theorem Machine.portable_of_keyless {m : Machine} {s : Placement} {kind : MessageKind} {body : MessageBody}
    {actions : Actions} {items : Items} (happ : m.app.IgnoresPath) (h : messageIsKeyless actions items s = true) :
    m.Portable s kind body actions items := by
  simp only [messageIsKeyless, Bool.and_eq_true, Bool.or_eq_true, Bool.not_eq_true', List.all_eq_true,
    beq_iff_eq] at h
  obtain ⟨⟨hactions, hitems⟩, hnext⟩ := h
  refine ⟨hactions, hitems, fun path other next next' vars _ hsame => ?_⟩
  refine (deliver_path happ path vars (body.idlePlan kind actions items other next)).trans ?_
  rcases hnext with hs | hdynamic
  · rw [hsame hs]
  · simp only [isDynamic, Bool.or_eq_false_iff] at hdynamic
    obtain ⟨⟨hplain, hfixed⟩, hinner⟩ := hdynamic
    refine m.deliver_next next (body.idlePlan kind actions items other next') ?_ ?_ vars
    · exact (actions.idlePlan_isComputed).trans hplain
    · rw [MessageBody.idlePlan, items.idlePlan_isComputed, hfixed, hinner]
      rfl

private theorem Element.isTerminal_eq (e : Element) : e.isTerminal = e.command?.elim false Command.isTerminal := by
  unfold isTerminal command?
  cases e.meaning <;> rfl

theorem Element.subFlow?_eq (e : Element) :
    e.subFlow? = e.command?.bind fun | .flow id body => some (id, body) | _ => none := by
  unfold subFlow? command?
  cases e.meaning with
  | command c => cases c <;> rfl
  | _ => rfl

inductive Passage where
  | flow (flow : Flow)
  | command (c : Command)
  | cases (cases : List Case)
  | fallback (default : Option Flow)

/-- The second part is the first one, but for any number of conditionals with a negated test that have become
conditionals with the test as it is and the branches exchanged. -/
inductive Exchanged (m : Machine) : Placement → Passage → Passage → Prop
  | nil {s} : Exchanged m s (.flow []) (.flow [])
  | handler {s e rest rest'} (he : e.command? = none)
      (hs : s.Spares fun path vars => callHandler m.app e.meaning.toValue vars sessionValue path.toValue)
      (later : Exchanged m s (.flow rest) (.flow rest')) : Exchanged m s (.flow (e :: rest)) (.flow (e :: rest'))
  | element {s e e' c c' rest rest'} (he : e.command? = some c) (he' : e'.command? = some c')
      (first : Exchanged m (s.before rest) (.command c) (.command c'))
      (later : Exchanged m s (.flow rest) (.flow rest')) : Exchanged m s (.flow (e :: rest)) (.flow (e' :: rest'))
  | exchange {s id test yes no yes' no'} (hs : s.Spares fun path => m.holds path test)
      (first : Exchanged m s.moved (.flow yes) (.flow yes')) (second : Exchanged m s.moved (.flow no) (.flow no')) :
      Exchanged m s (.command (.conditional id (.negated test) yes no)) (.command (.conditional id test no' yes'))
  | message {s kind id body actions items} (hs : s = .here ∨ m.Portable s kind body actions items) :
      Exchanged m s (.command (.message kind id body actions items)) (.command (.message kind id body actions items))
  | conditional {s id test yes no yes' no'} (hs : s.Spares fun path => m.holds path test)
      (first : Exchanged m s (.flow yes) (.flow yes')) (second : Exchanged m s (.flow no) (.flow no')) :
      Exchanged m s (.command (.conditional id test yes no)) (.command (.conditional id test yes' no'))
  | switch {s id value cases cases' default default'}
      (hs : s.Spares fun path vars => (m.expander vars path).expand value)
      (falls : Exchanged m s.inner (.fallback default) (.fallback default'))
      (selects : Exchanged m s.inner (.cases cases) (.cases cases')) :
      Exchanged m s (.command (.switch id value cases default)) (.command (.switch id value cases' default'))
  | iteration {s id init condition increment body body'} (hinit : s.Spares fun path => m.assign path init)
      (hs : s.Spares fun path => m.holds path condition)
      (hincrement : s.Spares fun path => m.setVariables path (incrementValues increment))
      (repeats : Exchanged m s.inner (.flow body) (.flow body')) :
      Exchanged m s (.command (.iteration id init condition increment body))
        (.command (.iteration id init condition increment body'))
  | start {id target args resume} :
      Exchanged m .here (.command (.start id target args resume)) (.command (.start id target args resume))
  | finish {s id result} (hs : s.Spares fun path vars => (m.expander vars path).expand result) :
      Exchanged m s (.command (.finish id result)) (.command (.finish id result))
  | set {s id values} (hs : s.Spares fun path => m.setVariables path values) :
      Exchanged m s (.command (.set id values)) (.command (.set id values))
  | exec {s id target args} (hs : s.Spares fun path vars => m.runStep path vars (.exec path target args)) :
      Exchanged m s (.command (.exec id target args)) (.command (.exec id target args))
  | wait {s id seconds} (hs : s.Spares fun path vars => (m.expander vars path).expand seconds) :
      Exchanged m s (.command (.wait id seconds)) (.command (.wait id seconds))
  | «break» {s id} : Exchanged m s (.command (.break id)) (.command (.break id))
  | «continue» {s id} : Exchanged m s (.command (.continue id)) (.command (.continue id))
  | subFlow {s id body body'} (inner : Exchanged m s (.flow body) (.flow body')) :
      Exchanged m s (.command (.flow id body)) (.command (.flow id body'))
  | noDefault {s} : Exchanged m s (.fallback none) (.fallback none)
  | default {s body body'} (inner : Exchanged m s (.flow body) (.flow body')) :
      Exchanged m s (.fallback (some body)) (.fallback (some body'))
  | noCase {s} : Exchanged m s (.cases []) (.cases [])
  | case {s id value body body' rest rest'} (inner : Exchanged m s (.flow body) (.flow body'))
      (later : Exchanged m s (.cases rest) (.cases rest')) :
      Exchanged m s (.cases (.mk id value body :: rest)) (.cases (.mk id value body' :: rest'))

namespace Exchanged

variable {m : Machine} {s : Placement}

/-! ## Shape -/

theorem breaksFlow_eq {c c' : Command} (h : Exchanged m s (.command c) (.command c')) :
    c'.breaksFlow = c.breaksFlow := by
  cases h <;> rfl

theorem isTerminal_eq {c c' : Command} (h : Exchanged m s (.command c) (.command c')) :
    c'.isTerminal = c.isTerminal := by
  cases h <;> rfl

theorem ne_nil {flow flow' : Flow} (h : Exchanged m s (.flow flow) (.flow flow')) (hflow : flow ≠ []) :
    flow' ≠ [] := by
  cases h with
  | nil => exact absurd rfl hflow
  | _ => simp

theorem of_element {e : Element} {c : Command} {rest flow' : Flow} (he : e.command? = some c)
    (h : Exchanged m s (.flow (e :: rest)) (.flow flow')) :
    ∃ e' c' rest', flow' = e' :: rest' ∧ e'.command? = some c' ∧
      Exchanged m (s.before rest) (.command c) (.command c') ∧ Exchanged m s (.flow rest) (.flow rest') := by
  cases h with
  | handler hnone => simp [he] at hnone
  | element hsome he' first later =>
    cases he.symm.trans hsome
    exact ⟨_, _, _, rfl, he', first, later⟩

private theorem last_isTerminal_eq {flow flow' : Flow} (h : Exchanged m s (.flow flow) (.flow flow')) :
    flow'.getLast?.elim false Element.isTerminal = flow.getLast?.elim false Element.isTerminal := by
  induction flow generalizing flow' with
  | nil =>
    cases h
    rfl
  | cons e rest ih =>
    cases h with
    | handler he hs later =>
      cases rest with
      | nil =>
        cases later
        rfl
      | cons next rest =>
        have hlast := ih later
        cases later <;> simpa using hlast
    | element he he' first later =>
      cases rest with
      | nil =>
        cases later
        simp [Element.isTerminal_eq, he, he', first.isTerminal_eq]
      | cons next rest =>
        have hlast := ih later
        cases later <;> simpa using hlast

theorem subFlow?_eq_some {e e' : Element} {c c' : Command} {id : String} {body : Flow} (he : e.command? = some c)
    (he' : e'.command? = some c') (h : Exchanged m s (.command c) (.command c')) (hs : e.subFlow? = some (id, body)) :
    ∃ body', e'.subFlow? = some (id, body') ∧ Exchanged m s (.flow body) (.flow body') := by
  rw [Element.subFlow?_eq, he] at hs
  rw [Element.subFlow?_eq, he']
  cases h with
  | subFlow inner =>
    cases hs
    exact ⟨_, rfl, inner⟩
  | _ => cases hs

theorem subFlow?_eq_none {e e' : Element} {c c' : Command} (he : e.command? = some c) (he' : e'.command? = some c')
    (h : Exchanged m s (.command c) (.command c')) (hs : e.subFlow? = none) : e'.subFlow? = none := by
  rw [Element.subFlow?_eq, he] at hs
  rw [Element.subFlow?_eq, he']
  cases h with
  | subFlow inner => cases hs
  | _ => rfl

/-! ## Sequences -/

theorem append {first first' second second' : Flow} (h : Exchanged m (s.before second) (.flow first) (.flow first'))
    (h' : Exchanged m s (.flow second) (.flow second')) :
    Exchanged m s (.flow (first ++ second)) (.flow (first' ++ second')) := by
  generalize ht : s.before second = t at h
  induction first generalizing first' with
  | nil =>
    cases h
    exact h'
  | cons e rest ih =>
    cases h with
    | handler he hs later =>
      subst ht
      exact .handler he hs.of_before (ih later)
    | element he he' first later =>
      subst ht
      refine .element he he' ?_ (ih later)
      rw [List.append_eq, Placement.before_append]
      exact first

theorem incrementFlow {increment : Fields}
    (h : s.Spares fun path => m.setVariables path (incrementValues increment)) :
    Exchanged m s (.flow (incrementFlow increment)) (.flow (incrementFlow increment)) := by
  unfold Colloquy.incrementFlow
  split
  · exact .nil
  · exact .element rfl rfl (.set h) .nil

theorem loopBody {body body' : Flow} {increment : Fields} (h : Exchanged m s.inner (.flow body) (.flow body'))
    (hincrement : s.Spares fun path => m.setVariables path (incrementValues increment)) :
    Exchanged m s.inner (.flow (body ++ loopTail body increment)) (.flow (body' ++ loopTail body' increment)) := by
  have htail : Exchanged m s.inner (.flow (loopTail body increment)) (.flow (loopTail body increment)) := by
    unfold loopTail
    split
    · exact .nil
    · exact incrementFlow hincrement.inner
  have hsame : loopTail body' increment = loopTail body increment := by
    unfold loopTail
    rw [h.last_isTerminal_eq]
  have hbefore (rest : Flow) : s.inner.before rest = s.inner := by cases rest <;> simp
  rw [hsame]
  refine append ?_ htail
  rwa [hbefore]

/-! ## What is its own counterpart -/

mutual

theorem self_flow {s : Placement} (flow : Flow) (h : m.Suits s (flowIsKeyless flow)) :
    Exchanged m s (.flow flow) (.flow flow) := by
  match flow with
  | [] => exact .nil
  | e :: rest =>
    have hrest : m.Suits s (flowIsKeyless rest) := h.imp id fun h => (Bool.and_eq_true_iff.mp h).2
    cases he : e.command? with
    | none =>
      refine .handler he (h.spares fun happ path other => ?_) (self_flow rest hrest)
      exact funext fun vars => callHandler_path happ _ vars sessionValue _ _
    | some c =>
      refine .element he he (self_command c (h.imp ?_ fun h => ?_)) (self_flow rest hrest)
      · rintro rfl
        exact Placement.here_before rest
      · rw [← Element.isKeyless_of_command? he]
        exact (Bool.and_eq_true_iff.mp h).1
termination_by (flowWeight flow, 1)
decreasing_by
  all_goals
    have hpos := e.weight_pos
    first
    | have hle := Element.weight_le_of_command? he
      simp only [flowWeight, Prod.lex_def]
      omega
    | simp only [flowWeight, Prod.lex_def]
      omega

theorem self_command {s : Placement} (c : Command) (h : m.Suits s c.isKeyless) :
    Exchanged m s (.command c) (.command c) := by
  match c with
  | .message .. => exact .message (h.imp_right fun h => Machine.portable_of_keyless h.1 h.2)
  | .conditional _ test yes no =>
    refine .conditional (h.spares fun happ path other => ?_) (self_flow yes ?_) (self_flow no ?_)
    · exact funext fun vars => Machine.holds_path happ path other vars test
    · exact h.imp id fun h => (Bool.and_eq_true_iff.mp h).1
    · exact h.imp id fun h => (Bool.and_eq_true_iff.mp h).2
  | .switch _ value cases fallback =>
    refine .switch (h.spares fun happ path other => ?_) (self_fallback fallback ?_) (self_cases cases ?_)
    · exact funext fun vars => Machine.expand_path happ path other vars value
    · exact h.imp Placement.inner_eq_here.mpr fun h => (Bool.and_eq_true_iff.mp h).2
    · exact h.imp Placement.inner_eq_here.mpr fun h => (Bool.and_eq_true_iff.mp h).1
  | .iteration _ init condition increment body =>
    refine .iteration (h.spares fun happ path other => ?_) (h.spares fun happ path other => ?_)
      (h.spares fun happ path other => ?_) (self_flow body (h.imp Placement.inner_eq_here.mpr id))
    · exact funext fun vars => Machine.assign_path happ path other vars init
    · exact funext fun vars => Machine.holds_path happ path other vars condition
    · exact funext fun vars => Machine.setVariables_path happ path other vars _
  | .start .. =>
    obtain rfl : s = .here := h.resolve_right fun h => Bool.false_ne_true h.2
    exact .start
  | .finish _ result =>
    refine .finish (h.spares fun happ path other => ?_)
    exact funext fun vars => Machine.expand_path happ path other vars result
  | .set _ values =>
    refine .set (h.spares fun happ path other => ?_)
    exact funext fun vars => Machine.setVariables_path happ path other vars values
  | .exec _ target args =>
    refine .exec (h.spares fun happ path other => ?_)
    exact funext fun vars => Machine.exec_path happ path other vars other target args
  | .wait _ seconds =>
    refine .wait (h.spares fun happ path other => ?_)
    exact funext fun vars => Machine.expand_path happ path other vars seconds
  | .break _ => exact .break
  | .continue _ => exact .continue
  | .flow _ body => exact .subFlow (self_flow body h)
termination_by (c.weight, 0)
decreasing_by
  all_goals
    simp only [Command.weight, Prod.lex_def]
    omega

theorem self_fallback {s : Placement} (fallback : Option Flow) (h : m.Suits s (defaultIsKeyless fallback)) :
    Exchanged m s (.fallback fallback) (.fallback fallback) := by
  match fallback with
  | none => exact .noDefault
  | some body => exact .default (self_flow body h)
termination_by (optionWeight fallback, 2)
decreasing_by
  exact Prod.Lex.right _ (by omega)

theorem self_cases {s : Placement} (cases : List Case) (h : m.Suits s (casesAreKeyless cases)) :
    Exchanged m s (.cases cases) (.cases cases) := by
  match cases with
  | [] => exact .noCase
  | .mk _ _ body :: rest =>
    refine .case (self_flow body ?_) (self_cases rest ?_)
    · exact h.imp id fun h => (Bool.and_eq_true_iff.mp h).1
    · exact h.imp id fun h => (Bool.and_eq_true_iff.mp h).2
termination_by (casesWeight cases, 0)
decreasing_by
  all_goals
    simp only [casesWeight, Case.weight, Prod.lex_def]
    omega

end

end Exchanged

end Colloquy
