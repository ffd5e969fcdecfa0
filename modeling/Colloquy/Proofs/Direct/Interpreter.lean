import Colloquy.Run.Machine

/-!
# Running flows directly

A structured interpreter of flows. A part of a flow ends normally, with the variables for whatever
comes after it, or by a break, or by a continue, or it stops the whole run. Nothing is split into
continuations and nothing is looked up by key, so the interpreter says what a flow means.

What the interpreter does depends on labels only where a label is shown to someone: the path that a
handler is given, the tag of a started dialog and the payload of an action. Labels are kept apart from
the flow, one for each of its positions.
-/

namespace Colloquy

inductive Ending where
  | normal (vars : Value)
  | break (vars : Value)
  | continue (vars : Value)
  /-- A dialog was started or finished, or the user is asked something. -/
  | stopped
  /-- A loop took more rounds than it was given. -/
  | cut

/-- What a position of a flow is called. -/
structure Label where
  path : FlowPath := []
  /-- Tag or payload that leads back to the position. -/
  key : Option String := none
  /-- Where the flow goes on after a message. -/
  next : Option FlowPath := none

/-- Labels of all positions of a part of a flow. -/
def Labels : Type := List Nat → Label

namespace Labels

def blank : Labels := fun _ => {}

def own (l : Labels) : Label := l []

def sub (l : Labels) (i : Nat) : Labels := fun position => l (i :: position)

def tail (l : Labels) : Labels
  | [] => l []
  | i :: position => l ((i + 1) :: position)

/-- Labels of the elements after the first `n`. -/
def drop (l : Labels) : Nat → Labels
  | 0 => l
  | n + 1 => l.tail.drop n

def node (own : Label) (parts : Nat → Labels) : Labels
  | [] => own
  | i :: position => parts i position

/-- Labels of a sequence from those of its first element and those of the others. -/
def cons (head rest : Labels) : Labels
  | [] => rest []
  | 0 :: position => head position
  | (i + 1) :: position => rest (i :: position)

@[simp] theorem own_node (label : Label) (parts : Nat → Labels) : (node label parts).own = label := rfl

@[simp] theorem sub_node (label : Label) (parts : Nat → Labels) (i : Nat) :
    (node label parts).sub i = parts i := rfl

@[simp] theorem sub_cons (head rest : Labels) : (cons head rest).sub 0 = head := rfl

@[simp] theorem tail_cons (head rest : Labels) : (cons head rest).tail = rest := by
  funext position
  cases position <;> rfl

end Labels

namespace Direct

def offer (l : Labels) (a : Action) : Entries :=
  match l.own.key with
  | some key => Entries.put a.info.params "payload" (.str key)
  | none => a.info.params

def offerAll (l : Labels) : List Action → List Entries
  | [] => []
  | a :: rest => offer (l.sub 0) a :: offerAll l.tail rest

def actionPlan (l : Labels) : Actions → ActionPlan
  | .absent => .absent
  | .fixed actions => .fixed (offerAll l actions)
  | .computed handler => .computed handler

def itemPlans (l : Labels) : List Item → List (Entries × ActionPlan)
  | [] => []
  | i :: rest => (i.info.params, actionPlan (l.sub 0) i.actions) :: itemPlans l.tail rest

def itemPlan (l : Labels) : Items → ItemPlan
  | .absent => .absent
  | .fixed items => .fixed (itemPlans l items)
  | .computed handler => .computed handler

def messagePlan (l : Labels) (kind : MessageKind) (body : MessageBody) (actions : Actions) (items : Items) :
    MessagePlan where
  path := l.own.path
  params := body.params kind
  actions := actionPlan (l.sub 0) actions
  items := itemPlan (l.sub 1) items
  next := l.own.next
  dynamic := isDynamic actions items

/-- How many cases stand before the first one that a value matches. -/
def firstMatch (value : Value) : List Value → Outcome Nat
  | [] => .ok 0
  | case :: rest => do
    if ← Machine.matchesCase value case then return 0 else return (← firstMatch value rest) + 1

/-- How many cases stand before the one that a switch takes. A value that cannot be written takes none: a note on the
choice shows it. -/
def choice (value : Value) (cases : List Value) : Outcome Nat := do
  let skipped ← firstMatch value cases
  let _ ← value.repr?
  return skipped

/-- What a switch makes of the end of a case: a break leaves the switch and nothing else. -/
def leaveSwitch : Ending → Ending
  | .break vars => .normal vars
  | ending => ending

/-- Changes variables by the increment of a loop. -/
def increase (m : Machine) (path : FlowPath) (increment : Fields) (vars : Value) : Run Value :=
  if increment.isEmpty then pure vars else m.assign path (incrementValues increment) vars

def runIncrement (m : Machine) (path : FlowPath) (increment : Fields) (vars : Value) : Run Ending := do
  return .normal (← increase m path increment vars)

/-- Goes round a loop, at most `n` times. The increment comes after each round, whether the round came
to its end or to a continue. -/
def iterate (condition : Value → Run Bool) (body : Nat → Value → Run Ending)
    (increment again : Value → Run Value) : Nat → Value → Run Ending
  | 0, _ => pure .cut
  | n + 1, vars => do
    if ← condition vars then
      match ← body n vars with
      | .normal vars => iterate condition body increment again n (← increment vars)
      | .continue vars => iterate condition body increment again n (← again vars)
      | .break vars => return .normal vars
      | ending => return ending
    else return .normal vars

/-- Sends a message. It stops the run if it asks the user something. -/
def runMessage (m : Machine) (l : Labels) (kind : MessageKind) (body : MessageBody) (actions : Actions)
    (items : Items) (vars : Value) : Run Ending := do
  let message ← m.deliver (messagePlan l kind body actions items) vars
  if isDynamic actions items then
    -- whether there is a reply among computed actions is not asked if nothing comes after the message
    if l.own.next.isSome then
      if ← Machine.offersReply message then return .stopped else return .normal vars
    else return .normal vars
  else if awaitsReply actions items then return .stopped
  else return .normal vars

def effect (m : Machine) (path : FlowPath) (vars : Value) (step : Step) (ending : Ending) : Run Ending := do
  let _ ← m.runStep path vars step
  return ending

mutual

def runElement (m : Machine) : Element → Labels → Nat → Value → Run Ending
  | .command c, l, n, vars => runCommand m c l n vars
  | .handler h, l, _, vars => effect m l.own.path vars (.handler h) (.normal vars)
  | .deferred _ e, l, n, vars => runElement m e l n vars
  | .invalid _ cause, _, _, _ => throw cause
termination_by structural e => e

/-- Runs a command; its loops go round at most `n` times. -/
def runCommand (m : Machine) : Command → Labels → Nat → Value → Run Ending
  | .message kind _ body actions items, l, _, vars => runMessage m l kind body actions items vars
  | .conditional _ test yes no, l, n, vars => do
    if ← m.holds l.own.path test vars then runFlow m yes (l.sub 0) n vars
    else runFlow m no (l.sub 1) n vars
  | .switch _ value cases default, l, n, vars => do
    let value ← Run.current (← (m.expander vars l.own.path).expand value)
    let skipped ← Run.ofOutcome (choice value (cases.map Case.matchValue))
    match ← runCases m cases skipped (l.sub 0) n vars with
    | .normal vars => return leaveSwitch (← runDefault m default (l.sub 1) n vars)
    | ending => return leaveSwitch ending
  | .iteration _ init condition increment body, l, n, vars => do
    let vars ← if init.isEmpty then pure vars else m.assign (l.sub 1).own.path init vars
    iterate (m.holds l.own.path condition) (runFlow m body (l.sub 0))
      (increase m (l.sub 2).own.path increment) (increase m (l.sub 3).own.path increment) n vars
  | .start _ target args _, l, _, vars =>
    effect m l.own.path vars (.start l.own.path target args l.own.key) .stopped
  | .finish _ result, l, _, vars => effect m l.own.path vars (.finish l.own.path result) .stopped
  | .set _ values, l, _, vars => do return .normal (← m.assign l.own.path values vars)
  | .exec _ target args, l, _, vars =>
    effect m l.own.path vars (.exec l.own.path target args) (.normal vars)
  | .wait _ seconds, l, _, vars => effect m l.own.path vars (.wait l.own.path seconds) (.normal vars)
  | .break _, _, _, vars => return .break vars
  | .continue _, _, _, vars => return .continue vars
  | .flow _ body, l, n, vars => runFlow m body (l.sub 0) n vars
termination_by structural c => c

/-- Runs the elements of a flow in order, until one does not end normally. -/
def runFlow (m : Machine) : List Element → Labels → Nat → Value → Run Ending
  | [], _, _, vars => return .normal vars
  | e :: rest, l, n, vars => do
    match ← runElement m e (l.sub 0) n vars with
    | .normal vars => runFlow m rest l.tail n vars
    | ending => return ending
termination_by structural flow => flow

/-- Runs the cases of a switch after the first few: each falls through to the next. -/
def runCases (m : Machine) : List Case → Nat → Labels → Nat → Value → Run Ending
  | [], _, _, _, vars => return .normal vars
  | .mk _ _ body :: rest, 0, l, n, vars => do
    match ← runFlow m body (l.sub 0) n vars with
    | .normal vars => runCases m rest 0 l.tail n vars
    | ending => return ending
  | _ :: rest, skipped + 1, l, n, vars => runCases m rest skipped l.tail n vars
termination_by structural cases => cases

def runDefault (m : Machine) : Option (List Element) → Labels → Nat → Value → Run Ending
  | none, _, _, vars => return .normal vars
  | some body, l, n, vars => runFlow m body l n vars
termination_by structural default => default

end

end Direct

end Colloquy
