import Colloquy.Flow.Command

/-!
# Extra fields

Messages, actions and items may carry further fields besides their own, which are sent along. What these
fields are like everywhere in a flow is said by a rule, one property for each kind of owner.
-/

namespace Colloquy

/-- What the extra fields of messages, actions and items are like. -/
structure ExtrasRule where
  message : Fields → Prop
  action : Fields → Prop
  item : Fields → Prop

/-- No extra field names a handler that is executed in place of its owner. -/
def ExtrasRule.noExec : ExtrasRule where
  message extras := ∀ entry ∈ extras, entry.1 ≠ "exec"
  action extras := ∀ entry ∈ extras, entry.1 ≠ "exec"
  item extras := ∀ entry ∈ extras, entry.1 ≠ "exec"

mutual

def Element.Follows (r : ExtrasRule) : Element → Prop
  | .command c => c.Follows r
  | .deferred _ e => e.Follows r
  | _ => True
termination_by structural e => e

def Command.Follows (r : ExtrasRule) : Command → Prop
  | .message _ _ body actions items => r.message body.extras ∧ actions.Follows r ∧ items.Follows r
  | .conditional _ _ yes no => FlowFollows r yes ∧ FlowFollows r no
  | .switch _ _ cases default => CasesFollow r cases ∧ OptionFollows r default
  | .iteration _ _ _ _ body => FlowFollows r body
  | .start _ _ _ resume => OptionFollows r resume
  | .flow _ body => FlowFollows r body
  | _ => True
termination_by structural c => c

def FlowFollows (r : ExtrasRule) : List Element → Prop
  | [] => True
  | e :: rest => e.Follows r ∧ FlowFollows r rest
termination_by structural flow => flow

/-- Extra fields anywhere in a flow that may be missing follow a rule. -/
def OptionFollows (r : ExtrasRule) : Option (List Element) → Prop
  | none => True
  | some flow => FlowFollows r flow
termination_by structural flow => flow

def CasesFollow (r : ExtrasRule) : List Case → Prop
  | [] => True
  | c :: rest => c.Follows r ∧ CasesFollow r rest
termination_by structural cases => cases

def Case.Follows (r : ExtrasRule) : Case → Prop
  | .mk _ _ body => FlowFollows r body
termination_by structural c => c

def Actions.Follows (r : ExtrasRule) : Actions → Prop
  | .fixed actions => ActionsFollow r actions
  | _ => True
termination_by structural actions => actions

/-- Extra fields anywhere in fixed actions follow a rule. -/
def ActionsFollow (r : ExtrasRule) : List Action → Prop
  | [] => True
  | a :: rest => a.Follows r ∧ ActionsFollow r rest
termination_by structural actions => actions

def Action.Follows (r : ExtrasRule) : Action → Prop
  | .mk info flow => r.action info.extras ∧ OptionFollows r flow
termination_by structural a => a

def Items.Follows (r : ExtrasRule) : Items → Prop
  | .fixed items => ItemsFollow r items
  | _ => True
termination_by structural items => items

/-- Extra fields anywhere in fixed items follow a rule. -/
def ItemsFollow (r : ExtrasRule) : List Item → Prop
  | [] => True
  | i :: rest => i.Follows r ∧ ItemsFollow r rest
termination_by structural items => items

def Item.Follows (r : ExtrasRule) : Item → Prop
  | .mk info actions => r.item info.extras ∧ actions.Follows r
termination_by structural i => i

end

/-- Two rules at once. -/
def ExtrasRule.both (r r' : ExtrasRule) : ExtrasRule where
  message extras := r.message extras ∧ r'.message extras
  action extras := r.action extras ∧ r'.action extras
  item extras := r.item extras ∧ r'.item extras

section Both

variable {r r' : ExtrasRule}

mutual

theorem Element.follows_both (e : Element) (h : e.Follows r) (h' : e.Follows r') : e.Follows (r.both r') := by
  cases e with
  | command c => exact Command.follows_both c h h'
  | handler | invalid => trivial
  | deferred source e => exact Element.follows_both e h h'
termination_by structural e

theorem Command.follows_both (c : Command) (h : c.Follows r) (h' : c.Follows r') : c.Follows (r.both r') := by
  cases c with
  | message kind id body actions items =>
    exact ⟨⟨h.1, h'.1⟩, Actions.follows_both actions h.2.1 h'.2.1, Items.follows_both items h.2.2 h'.2.2⟩
  | conditional id test yes no => exact ⟨flow_follows_both yes h.1 h'.1, flow_follows_both no h.2 h'.2⟩
  | switch id value cases default =>
    exact ⟨cases_follow_both cases h.1 h'.1, option_follows_both default h.2 h'.2⟩
  | iteration id init condition increment body => exact flow_follows_both body h h'
  | start id target args resume => exact option_follows_both resume h h'
  | flow id body => exact flow_follows_both body h h'
  | _ => trivial
termination_by structural c

theorem flow_follows_both (flow : List Element) (h : FlowFollows r flow) (h' : FlowFollows r' flow) :
    FlowFollows (r.both r') flow := by
  match flow with
  | [] => trivial
  | e :: rest => exact ⟨Element.follows_both e h.1 h'.1, flow_follows_both rest h.2 h'.2⟩
termination_by structural flow

theorem option_follows_both (flow : Option (List Element)) (h : OptionFollows r flow) (h' : OptionFollows r' flow) :
    OptionFollows (r.both r') flow := by
  match flow with
  | none => trivial
  | some flow => exact flow_follows_both flow h h'
termination_by structural flow

theorem cases_follow_both (cases : List Case) (h : CasesFollow r cases) (h' : CasesFollow r' cases) :
    CasesFollow (r.both r') cases := by
  match cases with
  | [] => trivial
  | c :: rest => exact ⟨Case.follows_both c h.1 h'.1, cases_follow_both rest h.2 h'.2⟩
termination_by structural cases

theorem Case.follows_both (c : Case) (h : c.Follows r) (h' : c.Follows r') : c.Follows (r.both r') := by
  match c with
  | .mk id value body => exact flow_follows_both body h h'
termination_by structural c

theorem Actions.follows_both (actions : Actions) (h : actions.Follows r) (h' : actions.Follows r') :
    actions.Follows (r.both r') := by
  match actions with
  | .fixed list => exact actions_follow_both list h h'
  | .absent | .computed _ => trivial
termination_by structural actions

theorem actions_follow_both (actions : List Action) (h : ActionsFollow r actions) (h' : ActionsFollow r' actions) :
    ActionsFollow (r.both r') actions := by
  match actions with
  | [] => trivial
  | a :: rest => exact ⟨Action.follows_both a h.1 h'.1, actions_follow_both rest h.2 h'.2⟩
termination_by structural actions

theorem Action.follows_both (a : Action) (h : a.Follows r) (h' : a.Follows r') : a.Follows (r.both r') := by
  match a with
  | .mk info flow => exact ⟨⟨h.1, h'.1⟩, option_follows_both flow h.2 h'.2⟩
termination_by structural a

theorem Items.follows_both (items : Items) (h : items.Follows r) (h' : items.Follows r') :
    items.Follows (r.both r') := by
  match items with
  | .fixed list => exact items_follow_both list h h'
  | .absent | .computed _ => trivial
termination_by structural items

theorem items_follow_both (items : List Item) (h : ItemsFollow r items) (h' : ItemsFollow r' items) :
    ItemsFollow (r.both r') items := by
  match items with
  | [] => trivial
  | i :: rest => exact ⟨Item.follows_both i h.1 h'.1, items_follow_both rest h.2 h'.2⟩
termination_by structural items

theorem Item.follows_both (i : Item) (h : i.Follows r) (h' : i.Follows r') : i.Follows (r.both r') := by
  match i with
  | .mk info actions => exact ⟨⟨h.1, h'.1⟩, Actions.follows_both actions h.2 h'.2⟩
termination_by structural i

end

end Both

end Colloquy
