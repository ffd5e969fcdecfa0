import Colloquy.Proofs.Compile.DefaultIds
import Colloquy.Proofs.Compile.Growth

/-!
# Plans of messages

What is made of the actions and items of a message depends on little. At the same path of a dialog of the same name
it is the same, whatever was compiled before. If no fixed action leads anywhere, it is the same at every path.
-/

namespace Colloquy

/-- Actions as they are sent if none of them leads anywhere. -/
def Actions.idlePlan : Actions → ActionPlan
  | .absent => .absent
  | .fixed list => .fixed (list.map (·.info.params))
  | .computed handler => .computed handler

/-- Items as they are sent if none of their actions leads anywhere. -/
def Items.idlePlan : Items → ItemPlan
  | .absent => .absent
  | .fixed list => .fixed (list.map fun item => (item.info.params, item.actions.idlePlan))
  | .computed handler => .computed handler

/-- A message as it is sent from a path if none of its actions leads anywhere. -/
def MessageBody.idlePlan (body : MessageBody) (kind : MessageKind) (actions : Actions) (items : Items)
    (path : FlowPath) (next : Option FlowPath) : MessagePlan where
  path := path
  params := body.params kind
  actions := actions.idlePlan
  items := items.idlePlan
  next := next
  dynamic := isDynamic actions items

namespace Compiles

variable {path : FlowPath} {targets : Targets} {p q p' q' : Program}

/-! ## The same path -/

section Unique

variable (hname : p'.dialog.name = p.dialog.name)
include hname

private theorem action_unique {a : Action} {entries entries' : Entries}
    (h : Compiles (.action a path targets entries) p q)
    (h' : Compiles (.action a path targets entries') p' q') : entries' = entries := by
  cases h with
  | inert hk ht =>
    cases h' with
    | inert | postback => rfl
    | reference hk' => simp [hk] at hk'
    | button hk' => simp [hk] at hk'
  | @reference info flow _ _ key _ hk ht hkey =>
    cases h' with
    | @reference _ _ _ _ key' _ _ _ hkey' =>
      have hsame : p'.key info.thenFlow = p.key info.thenFlow := by
        unfold Program.key
        rw [hname]
      obtain rfl : key' = key := by simpa [hkey, hkey'] using hsame
      rfl
    | inert hk' => simp [hk] at hk'
    | postback _ ht' => simp [ht] at ht'
    | button _ ht' => simp [ht] at ht'
  | postback hk ht =>
    cases h' with
    | button _ _ hb => simp [hk] at hb
    | reference _ ht' => simp [ht] at ht'
    | _ => rfl
  | @button info flow _ _ id own key _ q hk ht hb hid hpath inner hkey =>
    cases h' with
    | inert hk' => simp [hk] at hk'
    | reference _ ht' => simp [ht] at ht'
    | postback hk' => simp [hk'] at hb
    | @button _ _ _ _ id' own' key' _ q' _ _ _ hid' hpath' inner' hkey' =>
      obtain rfl : id' = id := by simpa [hid] using hid'.symm
      obtain rfl : own' = own := by simpa [hpath] using hpath'.symm
      have hgrown : q'.dialog.name = q.dialog.name := inner'.grows.name.trans (hname.trans inner.grows.name.symm)
      have hsame := Program.pathKey_congr hgrown own'
      obtain rfl : key' = key := by simpa [hkey, hkey'] using hsame
      rfl

private theorem actionList_unique {list : List Action} {entries entries' : List Entries}
    (h : Compiles (.actionList list path targets entries) p q)
    (h' : Compiles (.actionList list path targets entries') p' q') : entries' = entries := by
  induction list generalizing p p' entries entries' with
  | nil =>
    cases h
    cases h'
    rfl
  | cons a rest ih =>
    cases h with
    | actionCons first later =>
      cases h' with
      | actionCons first' later' =>
        have hgrown := first'.grows.name.trans (hname.trans first.grows.name.symm)
        rw [action_unique hname first first', ih hgrown later later']

theorem actions_unique {actions : Actions} {plan plan' : ActionPlan}
    (h : Compiles (.actions actions path targets plan) p q)
    (h' : Compiles (.actions actions path targets plan') p' q') : plan' = plan := by
  cases h with
  | noActions | computedActions =>
    cases h'
    rfl
  | fixedActions inner =>
    cases h' with
    | fixedActions inner' => rw [actionList_unique hname inner inner']

private theorem itemList_unique {list : List Item} {plans plans' : List (Entries × ActionPlan)}
    (h : Compiles (.itemList list path targets plans) p q)
    (h' : Compiles (.itemList list path targets plans') p' q') : plans' = plans := by
  induction list generalizing p p' plans plans' with
  | nil =>
    cases h
    cases h'
    rfl
  | cons item rest ih =>
    cases h with
    | @itemCons _ _ _ _ _ own _ _ _ _ _ hpath first later =>
      cases h' with
      | @itemCons _ _ _ _ _ own' _ _ _ _ _ hpath' first' later' =>
        obtain rfl : own' = own := by simpa [hpath] using hpath'.symm
        have hgrown := first'.grows.name.trans (hname.trans first.grows.name.symm)
        rw [actions_unique hname first first', ih hgrown later later']

theorem items_unique {items : Items} {plan plan' : ItemPlan} (h : Compiles (.items items path targets plan) p q)
    (h' : Compiles (.items items path targets plan') p' q') : plan' = plan := by
  cases h with
  | noItems | computedItems =>
    cases h'
    rfl
  | fixedItems inner =>
    cases h' with
    | fixedItems inner' => rw [itemList_unique hname inner inner']

end Unique

/-! ## Actions that lead nowhere -/

private theorem action_idle {a : Action} {entries : Entries} (ha : a.info.kind.carriesFlow = false)
    (h : Compiles (.action a path targets entries) p q) : entries = a.info.params := by
  cases h with
  | inert | postback => rfl
  | reference hk => simp [Action.info, hk] at ha
  | button hk => simp [Action.info, hk] at ha

private theorem actionList_idle {list : List Action} {entries : List Entries}
    (hlist : ∀ a ∈ list, a.info.kind.carriesFlow = false)
    (h : Compiles (.actionList list path targets entries) p q) : entries = list.map (·.info.params) := by
  induction list generalizing p entries with
  | nil =>
    cases h
    rfl
  | cons a rest ih =>
    cases h with
    | actionCons first later =>
      rw [action_idle (hlist a List.mem_cons_self) first, ih (fun b hb => hlist b (List.mem_cons_of_mem a hb)) later]
      rfl

theorem actions_idle {actions : Actions} {plan : ActionPlan} (hactions : actions.offersFlow = false)
    (h : Compiles (.actions actions path targets plan) p q) : plan = actions.idlePlan := by
  cases h with
  | noActions | computedActions => rfl
  | fixedActions inner =>
    rw [actionList_idle (fun a ha => by simpa using List.any_eq_false.mp hactions a ha) inner]
    rfl

private theorem itemList_idle {list : List Item} {plans : List (Entries × ActionPlan)}
    (hlist : ∀ item ∈ list, item.actions.offersFlow = false) (h : Compiles (.itemList list path targets plans) p q) :
    plans = list.map fun item => (item.info.params, item.actions.idlePlan) := by
  induction list generalizing p plans with
  | nil =>
    cases h
    rfl
  | cons item rest ih =>
    cases h with
    | itemCons hpath first later =>
      rw [actions_idle (hlist _ List.mem_cons_self) first, ih (fun i hi => hlist i (List.mem_cons_of_mem _ hi)) later]
      rfl

theorem items_idle {items : Items} {plan : ItemPlan} (hitems : ∀ item ∈ items.list, item.actions.offersFlow = false)
    (h : Compiles (.items items path targets plan) p q) : plan = items.idlePlan := by
  cases h with
  | noItems | computedItems => rfl
  | fixedItems inner =>
    rw [itemList_idle hitems inner]
    rfl

end Compiles

end Colloquy
