import Colloquy.Flow.Command

/-!
# Weight of flows

A measure of flows that goes down whenever compiling turns to a part of a flow: every command weighs
more than the flows in it, and a loop weighs as much as its body and the increment put after it.
-/

namespace Colloquy

mutual

def Element.weight : Element → Nat
  | .command c => c.weight
  | .handler _ => 1
  | .deferred _ e => 1 + e.weight
  | .invalid .. => 1

def Command.weight : Command → Nat
  | .message _ _ _ actions items => 1 + actions.weight + items.weight
  | .conditional _ _ yes no => 1 + flowWeight yes + flowWeight no
  | .switch _ _ cases default => 1 + casesWeight cases + optionWeight default
  | .iteration _ _ _ _ body => 3 + flowWeight body
  | .start _ _ _ resume => 1 + optionWeight resume
  | .finish .. => 1
  | .set .. => 1
  | .exec .. => 1
  | .wait .. => 1
  | .break .. => 1
  | .continue .. => 1
  | .flow _ body => 1 + flowWeight body

def flowWeight : List Element → Nat
  | [] => 0
  | e :: es => e.weight + flowWeight es

def optionWeight : Option (List Element) → Nat
  | none => 0
  | some es => flowWeight es

def casesWeight : List Case → Nat
  | [] => 0
  | c :: cs => c.weight + casesWeight cs

def Case.weight : Case → Nat
  | .mk _ _ body => 1 + flowWeight body

def Actions.weight : Actions → Nat
  | .absent => 0
  | .fixed actions => actionsWeight actions
  | .computed _ => 0

def Items.weight : Items → Nat
  | .absent => 0
  | .fixed items => itemsWeight items
  | .computed _ => 0

def actionsWeight : List Action → Nat
  | [] => 0
  | a :: as => a.weight + actionsWeight as

def itemsWeight : List Item → Nat
  | [] => 0
  | i :: is => i.weight + itemsWeight is

def Action.weight : Action → Nat
  | .mk _ flow => 1 + optionWeight flow

def Item.weight : Item → Nat
  | .mk _ actions => 1 + actions.weight

end

theorem Command.weight_pos (c : Command) : 0 < c.weight := by
  cases c <;> simp only [Command.weight] <;> omega

theorem Element.weight_pos (e : Element) : 0 < e.weight := by
  cases e with
  | command c => simpa only [Element.weight] using c.weight_pos
  | handler _ => simp [Element.weight]
  | deferred _ e => simp only [Element.weight]; omega
  | invalid _ _ => simp [Element.weight]

@[simp] theorem flowWeight_append (xs ys : List Element) :
    flowWeight (xs ++ ys) = flowWeight xs + flowWeight ys := by
  induction xs with
  | nil => simp [flowWeight]
  | cons x xs ih => simp only [List.cons_append, flowWeight, ih]; omega

namespace Element

def meaning : Element → Element
  | .deferred _ e => e.meaning
  | e => e

theorem weight_meaning_le (e : Element) : e.meaning.weight ≤ e.weight := by
  fun_induction meaning e with
  | case1 _ e ih => simp only [weight]; omega
  | case2 => exact Nat.le_refl _

def fault? (e : Element) : Option Error :=
  match e.meaning with
  | .invalid _ cause => some cause
  | _ => none

end Element

end Colloquy
