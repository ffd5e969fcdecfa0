import Colloquy.Proofs.Direct.Laws

/-!
# Positions in a flow and what comes after them

Every command of a flow, however deep it stands, with all that a direct run does after it: the rest of
its sequence, then the rest of the sequences around it, the cases that a case falls through to, the
increment and the further rounds of a loop. The flow that a reply runs stands before what comes after
the message, the flow that a start resumes before what comes after the start; the flow of a postback
has nothing after it.
-/

namespace Colloquy

mutual

/-- Whether nothing after an element can be reached: it ends its sequence, or it is an explicit flow
with such an element. -/
def Element.diverts : Element → Bool
  | .command c => c.diverts
  | .deferred _ e => e.diverts
  | _ => false
termination_by structural e => e

def Command.diverts : Command → Bool
  | .flow _ body => flowDiverts body
  | c => c.isTerminal
termination_by structural c => c

/-- Whether a flow never comes to its end. -/
def flowDiverts : List Element → Bool
  | [] => false
  | e :: rest => e.diverts || flowDiverts rest
termination_by structural flow => flow

end

namespace Direct

open Machine (before)

/-- What a direct run does after a part of a flow ended, if its loops go round at most so many times. -/
abbrev After := Nat → Ending → Run Ending

def loop (m : Machine) (l : Labels) (condition : Value) (increment : Fields) (body : Flow) :
    Nat → Value → Run Ending :=
  iterate (m.holds l.own.path condition) (runFlow m body (l.sub 0))
    (increase m (l.sub 2).own.path increment) (increase m (l.sub 3).own.path increment)

/-- What comes after a round of a loop that is to be followed by another one: only after a continue
there is still an increment to be made. -/
def afterRound (m : Machine) (l : Labels) (condition : Value) (increment : Fields) (body : Flow) (n : Nat)
    (after : Ending → Run Ending) : Ending → Run Ending
  | .normal vars => loop m l condition increment body n vars >>= after
  | .continue vars => do
    let vars ← increase m (l.sub 3).own.path increment vars
    loop m l condition increment body n vars >>= after
  | .break vars => after (.normal vars)
  | ending => after ending

/-- What comes after the body of a loop: the increment and then further rounds. -/
def afterBody (m : Machine) (l : Labels) (condition : Value) (increment : Fields) (body : Flow) (n : Nat)
    (after : Ending → Run Ending) : Ending → Run Ending :=
  before (runIncrement m (l.sub 2).own.path increment)
    (afterRound m l condition increment body n after)

/-- What comes after a case or the default of a switch. -/
def afterSwitch (after : After) : After := fun n ending => after n (leaveSwitch ending)

/-- What comes after the flow of an action: only a reply returns to the flow around it. -/
def afterAction (info : ActionInfo) (after : After) : After :=
  if info.kind == .reply then after else fun _ => pure

/-- A command of a flow: its labels, what comes after it, and whether it can be reached. -/
structure Spot where
  command : Command
  labels : Labels
  after : After
  live : Bool

inductive Part where
  | flow (flow : Flow) (l : Labels)
  | command (c : Command) (l : Labels)
  | cases (cases : List Case) (l : Labels)
  | actions (actions : List Action) (l : Labels)
  | items (items : List Item) (l : Labels)

/-- A spot is found in a part of a flow, given what comes after the part and whether the part can be
reached. -/
inductive Occurs (m : Machine) : Part → After → Bool → Spot → Prop where
  | self {c l after live} : Occurs m (.command c l) after live ⟨c, l, after, live⟩
  | head {e c rest l after live s} (he : e.command? = some c)
      (h : Occurs m (.command c (l.sub 0)) (fun n => before (runFlow m rest l.tail n) (after n)) live s) :
      Occurs m (.flow (e :: rest) l) after live s
  | tail {e rest l after live s} (h : Occurs m (.flow rest l.tail) after (live && !e.diverts) s) :
      Occurs m (.flow (e :: rest) l) after live s
  | yes {id test yes no l after live s} (h : Occurs m (.flow yes (l.sub 0)) after live s) :
      Occurs m (.command (.conditional id test yes no) l) after live s
  | no {id test yes no l after live s} (h : Occurs m (.flow no (l.sub 1)) after live s) :
      Occurs m (.command (.conditional id test yes no) l) after live s
  | case {id value cases default l after live s}
      (h : Occurs m (.cases cases (l.sub 0))
        (fun n => before (runDefault m default (l.sub 1) n) (afterSwitch after n)) live s) :
      Occurs m (.command (.switch id value cases default) l) after live s
  | default {id value cases body l after live s}
      (h : Occurs m (.flow body (l.sub 1)) (afterSwitch after) live s) :
      Occurs m (.command (.switch id value cases (some body)) l) after live s
  | caseHead {id value body rest l after live s}
      (h : Occurs m (.flow body (l.sub 0)) (fun n => before (runCases m rest 0 l.tail n) (after n)) live s) :
      Occurs m (.cases (.mk id value body :: rest) l) after live s
  | caseTail {c rest l after live s} (h : Occurs m (.cases rest l.tail) after live s) :
      Occurs m (.cases (c :: rest) l) after live s
  | body {id init condition increment body l after live s}
      (h : Occurs m (.flow body (l.sub 0)) (fun n => afterBody m l condition increment body n (after n)) live s) :
      Occurs m (.command (.iteration id init condition increment body) l) after live s
  | subFlow {id body l after live s} (h : Occurs m (.flow body (l.sub 0)) after live s) :
      Occurs m (.command (.flow id body) l) after live s
  | resume {id target args body l after live s} (h : Occurs m (.flow body (l.sub 0)) after live s) :
      Occurs m (.command (.start id target args (some body)) l) after live s
  | action {kind id body list items l after live s} (h : Occurs m (.actions list (l.sub 0)) after live s) :
      Occurs m (.command (.message kind id body (.fixed list) items) l) after live s
  | item {kind id body actions list l after live s} (h : Occurs m (.items list (l.sub 1)) after live s) :
      Occurs m (.command (.message kind id body actions (.fixed list)) l) after live s
  | itemHead {info list rest l after live s} (h : Occurs m (.actions list (l.sub 0)) after live s) :
      Occurs m (.items (.mk info (.fixed list) :: rest) l) after live s
  | itemTail {i rest l after live s} (h : Occurs m (.items rest l.tail) after live s) :
      Occurs m (.items (i :: rest) l) after live s
  | actionHead {info flow rest l after live s} (ht : info.thenFlow.isNone = true)
      (h : Occurs m (.flow flow ((l.sub 0).sub 0)) (afterAction info after) live s) :
      Occurs m (.actions (.mk info (some flow) :: rest) l) after live s
  | actionTail {a rest l after live s} (h : Occurs m (.actions rest l.tail) after live s) :
      Occurs m (.actions (a :: rest) l) after live s

def labelled (l : Labels) : List Action → List (Action × Labels)
  | [] => []
  | a :: rest => (a, l.sub 0) :: labelled l.tail rest

def fixedActions (l : Labels) : Actions → List (Action × Labels)
  | .fixed actions => labelled l actions
  | _ => []

def itemActions (l : Labels) : List Item → List (Action × Labels)
  | [] => []
  | i :: rest => fixedActions (l.sub 0) i.actions ++ itemActions l.tail rest

def messageActions (l : Labels) (actions : Actions) (items : Items) : List (Action × Labels) :=
  fixedActions (l.sub 0) actions ++ itemActions (l.sub 1) items.list

/-- A reply is answered by running its flow and then all that comes after its message. -/
structure Answers (m : Machine) (after : After) (live : Bool) (a : Action) (l : Labels) : Prop where
  offered : live = true → l.own.key ≠ none
  registered : ∀ key, l.own.key = some key →
    m.program.pathKey l.own.path = .ok key ∧ m.program.dialog.payloads.get? (.str key) ≠ none
  resumes : ∀ key, l.own.key = some key → ∀ n vars,
    m.Agrees n l.own.path vars (runFlow m (a.flow.getD []) (l.sub 0) n vars >>= after n)

/-- A command is resumed by what comes after it, and a computed reply is given a place to go on with the
property `K`. -/
def Resumes (m : Machine) (K : FlowPath → Prop) (s : Spot) : Prop :=
  match s.command with
  | .message _ _ _ actions items =>
    (∀ a l, (a, l) ∈ messageActions s.labels actions items → a.info.kind = .reply →
      a.info.thenFlow.isNone = true → Answers m s.after s.live a l) ∧
    (isDynamic actions items = true → ∀ target, s.labels.own.next = some target → K target ∧
      ∀ n vars, m.Agrees n target vars (s.after n (.normal vars)))
  | .start _ target _ resume =>
    (∀ tag, s.labels.own.key = some tag → m.program.pathKey s.labels.own.path = .ok tag ∧
      m.program.dialog.results.get?
        (Dialog.resultKey (.str (m.program.resultName target)) (.str tag)) ≠ none ∧
      ∀ n vars, m.Agrees n s.labels.own.path vars
        (runFlow m (resume.getD []) (s.labels.sub 0) n vars >>= s.after n)) ∧
    (s.live = true → s.labels.own.key = none →
      resume = none ∧ ∀ n vars, m.Leads n (pure none) (s.after n (.normal vars)))
  | _ => True

/-- All commands of a part of a flow are resumed by what comes after them. -/
def Resumable (m : Machine) (K : FlowPath → Prop) (part : Part) (after : After) (live : Bool) : Prop :=
  ∀ s, Occurs m part after live s → Resumes m K s

/-! ## Unreachable commands -/

private theorem diverts_meaning (e : Element) : e.meaning.diverts = e.diverts := by
  fun_induction Element.meaning e with
  | case1 _ e ih => rw [ih, Element.diverts]
  | case2 => rfl

private theorem diverts_of_subFlow? {e : Element} {id : String} {body : Flow} (h : e.subFlow? = some (id, body)) :
    e.diverts = flowDiverts body := by
  rw [← diverts_meaning]
  unfold Element.subFlow? at h
  split at h
  · rename_i heq
    cases h
    rw [heq, Element.diverts, Command.diverts]
  · cases h

theorem diverts_of_terminal {e : Element} {c : Command} (he : e.command? = some c)
    (hc : c.isTerminal = true) : e.diverts = true := by
  rw [← diverts_meaning]
  unfold Element.command? at he
  split at he
  · rename_i heq
    cases he
    rw [heq, Element.diverts]
    cases c <;> first | exact hc | cases hc
  · cases he

def Part.labels : Part → Labels
  | .flow _ l | .command _ l | .cases _ l | .actions _ l | .items _ l => l

private theorem tail_blank : Labels.blank.tail = .blank := by
  funext position
  cases position <;> rfl

private theorem sub_blank (i : Nat) : Labels.blank.sub i = .blank := rfl

private theorem Occurs.labels_eq_blank {m : Machine} {part : Part} {after : After} {live : Bool} {s : Spot}
    (h : Occurs m part after live s) (hl : part.labels = .blank) (hlive : live = false) :
    s.labels = .blank ∧ s.live = false := by
  induction h with
  | self => exact ⟨hl, hlive⟩
  | tail h ih =>
    obtain rfl : _ = Labels.blank := hl
    exact ih tail_blank (by simp [hlive])
  | caseTail _ ih | itemTail _ ih | actionTail _ ih =>
    obtain rfl : _ = Labels.blank := hl
    exact ih tail_blank hlive
  | head _ _ ih | yes _ ih | no _ ih | case _ ih | default _ ih | caseHead _ ih | body _ ih | subFlow _ ih
  | resume _ ih | action _ ih | item _ ih | itemHead _ ih | actionHead _ _ ih =>
    obtain rfl : _ = Labels.blank := hl
    exact ih rfl hlive

private theorem labels_of_mem_labelled {list : List Action} {a : Action} {l : Labels}
    (h : (a, l) ∈ labelled .blank list) : l = .blank := by
  induction list with
  | nil => cases h
  | cons first rest ih =>
    rw [labelled, tail_blank, sub_blank] at h
    rcases List.mem_cons.mp h with h | h
    · exact (Prod.mk.inj h).2
    · exact ih h

private theorem labels_of_mem_fixedActions {actions : Actions} {a : Action} {l : Labels}
    (h : (a, l) ∈ fixedActions .blank actions) : l = .blank := by
  cases actions with
  | fixed list => exact labels_of_mem_labelled h
  | _ => cases h

private theorem labels_of_mem_itemActions {items : List Item} {a : Action} {l : Labels}
    (h : (a, l) ∈ itemActions .blank items) : l = .blank := by
  induction items with
  | nil => cases h
  | cons first rest ih =>
    rw [itemActions, tail_blank, sub_blank] at h
    rcases List.mem_append.mp h with h | h
    · exact labels_of_mem_fixedActions h
    · exact ih h

theorem resumable_blank (m : Machine) (K : FlowPath → Prop) (flow : Flow) (after : After) :
    Resumable m K (.flow flow .blank) after false := by
  intro s hs
  obtain ⟨hl, hlive⟩ := hs.labels_eq_blank rfl rfl
  obtain ⟨c, l, after, live⟩ := s
  obtain rfl : l = .blank := hl
  obtain rfl : live = false := hlive
  cases c with
  | message kind id body actions items =>
    refine ⟨?_, ?_⟩
    · intro a l ha _ _
      obtain rfl : l = .blank := by
        rcases List.mem_append.mp ha with h | h
        · exact labels_of_mem_fixedActions h
        · exact labels_of_mem_itemActions h
      exact ⟨nofun, nofun, nofun⟩
    · intro _ target ht
      cases ht
  | start id target args resume =>
    refine ⟨?_, ?_⟩
    · intro tag ht
      cases ht
    · intro h
      cases h
  | _ => trivial

/-! ## Cutting a flow in two -/

variable {m : Machine} {K : FlowPath → Prop} {first second : Flow} {l : Labels} {after : After} {live : Bool} {s : Spot}

private theorem Occurs.append_left
    (h : Occurs m (.flow first l) (fun n => before (runFlow m second (l.drop first.length) n) (after n)) live s) :
    Occurs m (.flow (first ++ second) l) after live s := by
  induction first generalizing l live with
  | nil => cases h
  | cons e rest ih =>
    cases h with
    | head he h =>
      refine .head he ?_
      have hafter : (fun n => before (runFlow m rest l.tail n)
          (before (runFlow m second (l.tail.drop rest.length) n) (after n))) =
          fun n => before (runFlow m (rest ++ second) l.tail n) (after n) := by
        funext n ending
        cases ending with
        | normal vars => exact (runFlow_append_bind rest second l.tail (after n)).symm
        | _ => rfl
      rw [List.append_eq, ← hafter]
      exact h
    | tail h => exact .tail (ih h)

private theorem Occurs.append_right
    (h : Occurs m (.flow second (l.drop first.length)) after (live && !flowDiverts first) s) :
    Occurs m (.flow (first ++ second) l) after live s := by
  induction first generalizing l live with
  | nil => simpa [flowDiverts, Labels.drop] using h
  | cons e rest ih =>
    refine .tail (ih ?_)
    simpa [flowDiverts, Bool.and_assoc, Labels.drop] using h

theorem resumable_splice {e : Element} {id : String} {body tail : Flow}
    (he : e.subFlow? = some (id, body)) (h : Resumable m K (.flow (body ++ tail) l) after live) :
    Resumable m K (.flow (e :: tail) (.cons (.node {} fun _ => l) (l.drop body.length))) after live := by
  intro s hs
  cases hs with
  | @head _ c _ _ _ _ _ hc hs =>
    obtain rfl : c = .flow id body := by
      unfold Element.subFlow? at he
      unfold Element.command? at hc
      split at he
      · rename_i heq
        cases he
        rw [heq] at hc
        exact (Option.some.inj hc).symm
      · cases he
    rw [Labels.sub_cons, Labels.tail_cons] at hs
    cases hs with
    | self => trivial
    | subFlow hs => exact h s hs.append_left
  | tail hs =>
    rw [Labels.tail_cons, diverts_of_subFlow? he] at hs
    exact h s hs.append_right

private theorem resumable_terminal {body : Flow} (hlast : body.getLast?.elim false Element.isTerminal = true)
    {other : After} (hafter : ∀ n ending, (∀ vars, ending ≠ .normal vars) → after n ending = other n ending)
    (h : Resumable m K (.flow body l) after live) : Resumable m K (.flow body l) other live := by
  induction body generalizing l live with
  | nil => cases hlast
  | cons e rest ih =>
    intro s hs
    cases rest with
    | nil =>
      cases hs with
      | @head _ c _ _ _ _ _ he hs =>
        have hc : c.isTerminal = true := by
          simp only [List.getLast?_singleton, Option.elim_some] at hlast
          unfold Element.isTerminal at hlast
          unfold Element.command? at he
          split at he
          · rename_i heq
            cases he
            simpa [heq] using hlast
          · cases he
        cases c with
        | finish _ _ | «break» _ | «continue» _ =>
          cases hs
          trivial
        | _ => cases hc
      | tail hs => cases hs
    | cons next more =>
      have hlast : (next :: more).getLast?.elim false Element.isTerminal = true := by simpa using hlast
      cases hs with
      | head he hs =>
        refine h s (.head he ?_)
        have hbefore : (fun n => before (runFlow m (next :: more) l.tail n) (after n)) =
            fun n => before (runFlow m (next :: more) l.tail n) (other n) := by
          funext n ending
          cases ending with
          | normal vars => exact runFlow_terminal_congr hlast l.tail (hafter n)
          | _ => exact hafter n _ (by simp)
        rw [hbefore]
        exact hs
      | tail hs => exact ih hlast (fun s hs => h s (.tail hs)) s hs

theorem resumable_loopTail {body : Flow} {increment : Fields}
    (h : Resumable m K (.flow (body ++ loopTail body increment) l) after live) :
    Resumable m K (.flow body l)
      (fun n => before (runIncrement m ((l.drop body.length).sub 0).own.path increment) (after n)) live := by
  have hbody : Resumable m K (.flow body l)
      (fun n => before (runFlow m (loopTail body increment) (l.drop body.length) n) (after n)) live :=
    fun s hs => h s hs.append_left
  unfold loopTail at hbody
  split at hbody
  · rename_i hlast
    refine resumable_terminal hlast ?_ hbody
    intro n ending hne
    cases ending with
    | normal vars => exact absurd rfl (hne vars)
    | _ => rfl
  · have hbefore : (fun n => before (runFlow m (incrementFlow increment) (l.drop body.length) n) (after n)) =
        fun n => before (runIncrement m ((l.drop body.length).sub 0).own.path increment) (after n) := by
      funext n ending
      cases ending with
      | normal vars => simp [before, runIncrement, runFlow_incrementFlow_bind]
      | _ => rfl
    rwa [hbefore] at hbody

end Direct

end Colloquy
