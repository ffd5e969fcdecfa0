import Colloquy.Proofs.Dialog.Extending
import Colloquy.Proofs.Direct.Soundness

/-!
# Continuations are numbered along their sequence

A sequence is split after each command that breaks it. What follows the first of them is compiled one step further
down, as `flow1`, what follows the next one of these as `flow2` below that, and so on. The flows inside of a breaking
command are compiled at the place that its sequence has reached, under the id of the command. None of this depends on
the commands that come later, as long as there are some.
-/

namespace Colloquy

/-- Commands of a sequence that break it, in their order. -/
def breakers (flow : Flow) : List Command := flow.filterMap fun e => e.command?.filter (·.breaksFlow)

/-- Where a sequence goes on after so many breaks. -/
def FlowPath.numbered (path : FlowPath) : Nat → FlowPath
  | 0 => path
  | i + 1 => numbered path i ++ [.name (continuationId (i + 1))]

/-- Ids under which actions compile their flows. -/
def Actions.anchors : Actions → List String
  | .fixed actions => actions.filterMap (·.info.buttonId)
  | _ => []

/-- Id under which an item compiles the flows of its actions. An item without one leaves it to the actions. -/
def Item.anchors (i : Item) : List String := i.info.id.elim i.actions.anchors fun id => [id]

/-- Ids under which a command compiles its flows. -/
def Command.anchors : Command → List String
  | .message _ _ _ actions items => actions.anchors ++ items.list.flatMap Item.anchors
  | c => [c.id]

namespace FlowPath

/-- Whether ids that come further down are relative, from a path on. -/
abbrev Onward (root : FlowPath) : FlowPath → Prop := root.Leads CompileRule.relative.ids

/-- A path is further down than another one, by way of one of certain ids. -/
def Anchored (path : FlowPath) (ids : List String) (own : FlowPath) : Prop :=
  ∃ id ∈ ids, isAbsolute id = false ∧ ∃ root, append path id = .ok root ∧ root.Onward own

variable {root path own : FlowPath} {ids more : List String}

private theorem Onward.trans (h : root.Onward path) (h' : path.Onward own) : root.Onward own := by
  induction h' with
  | refl => exact h
  | append _ hid hpath ih => exact ih.append hid hpath

private theorem Onward.inner {id : String} (h : root.Onward path) (hid : id ∈ innerIds)
    (hown : append path id = .ok own) :
    root.Onward own := h.append (CompileRule.relative.inner id hid) hown

private theorem Anchored.onward (h : path.Anchored ids own) : path.Onward own := by
  obtain ⟨id, -, hid, root, hroot, hown⟩ := h
  exact Onward.trans (.append .refl hid hroot) hown

private theorem Anchored.mono (h : path.Anchored ids own) (hids : ∀ id ∈ ids, id ∈ more) : path.Anchored more own := by
  obtain ⟨id, hid, hown⟩ := h
  exact ⟨id, hids id hid, hown⟩

end FlowPath

namespace Program

variable {R S : FlowPath → Prop} {p q r : Program}

/-- The keys that a program has in addition come last, and they are those of paths of a certain kind. -/
structure Registers (R : FlowPath → Prop) (p q : Program) : Prop where
  name : q.dialog.name = p.dialog.name
  keys : ∃ new, q.keys = p.keys ++ new ∧ ∀ key ∈ new, ∃ own, R own ∧ FlowKey.ofPath p.dialog.name own = .ok key

private theorem Registers.of_eq (hname : q.dialog.name = p.dialog.name) (hkeys : q.keys = p.keys) : p.Registers R q :=
  ⟨hname, [], by rw [hkeys, List.append_nil], nofun⟩

private theorem Registers.trans (h : p.Registers R q) (h' : q.Registers R r) : p.Registers R r := by
  obtain ⟨hname, new, hkeys, hnew⟩ := h
  obtain ⟨hname', more, hkeys', hmore⟩ := h'
  refine ⟨hname'.trans hname, new ++ more, by rw [hkeys', hkeys, List.append_assoc], fun key hkey => ?_⟩
  rcases List.mem_append.mp hkey with hkey | hkey
  · exact hnew key hkey
  · rw [← hname]
    exact hmore key hkey

private theorem Registers.mono (h : p.Registers R q) (hpaths : ∀ own, R own → S own) : p.Registers S q := by
  obtain ⟨hname, new, hkeys, hnew⟩ := h
  refine ⟨hname, new, hkeys, fun key hkey => ?_⟩
  obtain ⟨own, hown, hkey⟩ := hnew key hkey
  exact ⟨own, hpaths own hown, hkey⟩

private theorem Registers.of_add {path : FlowPath} {key : String} {handler : FlowHandler}
    (hkey : p.pathKey path = .ok key) (hadd : p.add key handler = .ok q) (hpath : R path) : p.Registers R q := by
  obtain ⟨-, rfl⟩ := add_eq_ok.mp hadd
  refine ⟨rfl, [key], by simp [Program.keys], fun own hown => ?_⟩
  obtain rfl := List.mem_singleton.mp hown
  exact ⟨path, hpath, hkey⟩

private theorem Registers.anchored {path root : FlowPath} {id : String} {ids : List String}
    (h : p.Registers root.Onward q)
    (hroot : FlowPath.append path id = .ok root) (hrelative : FlowPath.isAbsolute id = false) (hid : id ∈ ids) :
    p.Registers (path.Anchored ids) q := h.mono fun _ hown => ⟨id, hid, hrelative, root, hroot, hown⟩

/-! ## Entries that were written down -/

private theorem keys_of_enter {entry : Entry} (h : p.enter entry = .ok q) : q.keys = p.keys ++ entry.key?.toList := by
  cases entry with
  | register key handler =>
    obtain ⟨-, rfl⟩ := add_eq_ok.mp h
    simp [keys, Entry.key?]
  | offer kind key path =>
    cases h
    unfold offering
    split <;> simp [keys, Entry.key?]
  | _ =>
    cases h
    exact (List.append_nil _).symm

private theorem keys_of_perform {α : Type} {ending : Except Error α} {a : α} {entries : List Entry}
    (h : p.perform ending entries = .ok a q) : q.keys = p.keys ++ entries.filterMap Entry.key? := by
  induction entries generalizing p with
  | nil =>
    cases ending <;> cases h
    exact (List.append_nil _).symm
  | cons entry rest ih =>
    unfold perform at h
    split at h
    · rename_i s hs
      rw [ih h, keys_of_enter hs, List.append_assoc]
      cases hkey : entry.key? <;> simp [hkey]
    · cases h

private theorem AllSound.leads {rule : CompileRule} {root : FlowPath} {name : String} {known : String → Prop}
    {entries : List Entry} (h : AllSound rule root name known entries) :
    ∀ key ∈ entries.filterMap Entry.key?, ∃ own, root.Leads rule.ids own ∧ FlowKey.ofPath name own = .ok key := by
  induction entries generalizing known with
  | nil => nofun
  | cons entry rest ih =>
    intro key hkey
    obtain ⟨own, hmem, hown⟩ := List.mem_filterMap.mp hkey
    rcases List.mem_cons.mp hmem with rfl | hmem
    · cases h.1 with
      | register hpath hrender =>
        cases hown
        exact ⟨_, hpath, hrender⟩
      | _ => cases hown
    · exact ih h.2 key (List.mem_filterMap.mpr ⟨own, hmem, hown⟩)

end Program

open Compile Program

def RelativeParts (parts : List FlowPart) : Prop := ∀ part ∈ parts, ∀ id ∈ part.ids, FlowPath.isAbsolute id = false

instance (parts : List FlowPart) : Decidable (RelativeParts parts) :=
  inferInstanceAs (Decidable (∀ part ∈ parts, ∀ id ∈ part.ids, FlowPath.isAbsolute id = false))

private theorem RelativeParts.obeys {parts : List FlowPart} (h : RelativeParts parts) :
    ∀ part ∈ parts, part.Obeys .relative :=
  fun part hpart => ⟨h part hpart, fun _ _ => trivial, .inl trivial⟩

private theorem relativeParts_append {parts more : List FlowPart} :
    RelativeParts (parts ++ more) ↔ RelativeParts parts ∧ RelativeParts more := List.forall_mem_append

private theorem relativeParts_cons {part : FlowPart} {parts : List FlowPart} :
    RelativeParts (part :: parts) ↔ (∀ id ∈ part.ids, FlowPath.isAbsolute id = false) ∧ RelativeParts parts :=
  List.forall_mem_cons

/-! ## Where the flows of a command are registered -/

section Anchors

variable {p q : Program} {path root own : FlowPath} {targets : Targets} {index : Nat}

private theorem Compiles.registers_flow {flow : Flow} (h : Compiles (.flow flow own targets index) p q)
    (hids : RelativeParts (flowParts flow)) (hown : root.Onward own) : p.Registers root.Onward q := by
  have hscripted : Scripted .relative root p.dialog.name (fun _ => False) (FlowKey.ofPath p.dialog.name own = .ok ·)
      (compileFlow flow own targets index) := scripted_compileFlow hids.obeys ⟨hown, .inl trivial⟩ targets index
  obtain ⟨entries, ending, hsound, -, -, hperform⟩ := hscripted
  have hq : p.perform ending entries = .ok () q := (hperform p rfl).symm.trans h.succeeds
  exact ⟨name_of_perform hq, _, keys_of_perform hq, hsound.leads⟩

private theorem Compiles.registers_fallback {default : Option Flow} {exit fallback : FlowPath}
    (h : Compiles (.fallback default root targets exit fallback) p q) (hids : RelativeParts (optionParts default)) :
    p.Registers root.Onward q := by
  cases h with
  | noDefault => exact .of_eq rfl rfl
  | default hpath inner => exact inner.registers_flow hids (FlowPath.Onward.inner .refl (by decide) hpath)

private theorem Compiles.registers_cases {cases : List Case} {last first : FlowPath} {paths : List (Value × FlowPath)}
    (h : Compiles (.cases cases root targets last paths first) p q) (hids : RelativeParts (casesParts cases)) :
    p.Registers root.Onward q := by
  induction cases generalizing paths first q with
  | nil =>
    cases h
    exact .of_eq rfl rfl
  | cons c rest ih =>
    cases h with
    | case later hpath inner =>
      obtain ⟨hcase, hrest⟩ := relativeParts_append.mp hids
      obtain ⟨hself, hbody⟩ := relativeParts_cons.mp hcase
      have hown : root.Onward first := .append .refl (hself _ (List.mem_singleton_self _)) hpath
      exact (ih later hrest).trans (inner.registers_flow hbody hown)

private theorem Compiles.registers_action {a : Action} {entries : Entries}
    (h : Compiles (.action a path targets entries) p q)
    (hids : RelativeParts a.parts) : p.Registers (path.Anchored a.info.buttonId.toList) q := by
  cases h with
  | inert | postback => exact .of_eq rfl rfl
  | reference => exact .of_eq rfl rfl
  | @button info flow _ _ id own key _ q _ _ _ hid hpath inner hkey =>
    obtain ⟨hself, hflow⟩ := relativeParts_cons.mp hids
    have hid : id ∈ info.buttonId.toList := Option.mem_toList.mpr hid
    rw [← flowParts_getD] at hflow
    have hinner := (inner.registers_flow hflow .refl).anchored hpath (hself id hid) hid
    have hoffer : q.Registers (path.Anchored info.buttonId.toList) (q.offering info.kind key own) := by
      unfold offering
      split <;> exact .of_eq rfl rfl
    exact hinner.trans hoffer

private theorem Compiles.registers_actionList {actions : List Action} {entries : List Entries}
    (h : Compiles (.actionList actions path targets entries) p q) (hids : RelativeParts (actionsParts actions)) :
    p.Registers (path.Anchored (Actions.fixed actions).anchors) q := by
  induction actions generalizing entries p with
  | nil =>
    cases h
    exact .of_eq rfl rfl
  | cons a rest ih =>
    cases h with
    | actionCons first later =>
      obtain ⟨hself, hrest⟩ := relativeParts_append.mp hids
      have hids : ∀ id ∈ a.info.buttonId.toList, id ∈ (Actions.fixed (a :: rest)).anchors := fun id hid =>
        List.mem_filterMap.mpr ⟨a, List.mem_cons_self, Option.mem_toList.mp hid⟩
      have hfirst := (first.registers_action hself).mono fun own => (FlowPath.Anchored.mono · hids)
      refine hfirst.trans ((ih later hrest).mono fun own => (·.mono fun id hid => ?_))
      obtain ⟨b, hb, hid⟩ := List.mem_filterMap.mp hid
      exact List.mem_filterMap.mpr ⟨b, List.mem_cons_of_mem _ hb, hid⟩

private theorem Compiles.registers_actions {actions : Actions} {plan : ActionPlan}
    (h : Compiles (.actions actions path targets plan) p q) (hids : RelativeParts actions.parts) :
    p.Registers (path.Anchored actions.anchors) q := by
  cases h with
  | noActions | computedActions => exact .of_eq rfl rfl
  | fixedActions inner => exact inner.registers_actionList hids

private theorem Compiles.registers_item {info : ItemInfo} {actions : Actions} {plan : ActionPlan}
    (h : Compiles (.actions actions own targets plan) p q) (hpath : info.actionRoot actions path = .ok own)
    (hids : RelativeParts (Item.mk info actions).parts) : p.Registers (path.Anchored (Item.mk info actions).anchors) q := by
  obtain ⟨hself, hactions⟩ := relativeParts_cons.mp hids
  have hinner := h.registers_actions hactions
  unfold ItemInfo.actionRoot at hpath
  unfold Item.anchors
  match actions, hid : info.id with
  | .fixed list, some id =>
    rw [hid] at hpath
    have hrelative := hself id (by simp [FlowPart.ids, hid])
    exact (hinner.mono fun _ => FlowPath.Anchored.onward).anchored hpath hrelative (List.mem_singleton_self id)
  | .fixed list, none =>
    rw [hid] at hpath
    cases hpath
    exact hinner
  | .absent, _ | .computed _, _ =>
    cases h
    exact .of_eq rfl rfl

private theorem Compiles.registers_itemList {items : List Item} {plans : List (Entries × ActionPlan)}
    (h : Compiles (.itemList items path targets plans) p q) (hids : RelativeParts (itemsParts items)) :
    p.Registers (path.Anchored (items.flatMap Item.anchors)) q := by
  induction items generalizing plans p with
  | nil =>
    cases h
    exact .of_eq rfl rfl
  | cons item rest ih =>
    cases h with
    | itemCons hpath first later =>
      obtain ⟨hself, hrest⟩ := relativeParts_append.mp hids
      have hfirst := first.registers_item hpath hself
      rw [List.flatMap_cons]
      refine (hfirst.mono fun own => (·.mono fun id => List.mem_append_left _)).trans ?_
      exact (ih later hrest).mono fun own => (·.mono fun id => List.mem_append_right _)

private theorem Compiles.registers_items {items : Items} {plan : ItemPlan}
    (h : Compiles (.items items path targets plan) p q)
    (hids : RelativeParts items.parts) : p.Registers (path.Anchored (items.list.flatMap Item.anchors)) q := by
  cases h with
  | noItems | computedItems => exact .of_eq rfl rfl
  | fixedItems inner => exact inner.registers_itemList hids

/-- A command registers its flows under its id, a message those of its actions under the ids of these or of the items
that they belong to. -/
theorem Compiles.registers_command {c : Command} {step : Step} (h : Compiles (.command c path targets step) p q)
    (hids : RelativeParts c.parts) : p.Registers (path.Anchored c.anchors) q := by
  have hself : FlowPath.isAbsolute c.id = false := hids _ c.self_mem_parts c.id (List.mem_singleton_self _)
  have hempty : RelativeParts (flowParts []) := nofun
  have hinner {root own : FlowPath} {id : String} (hid : id ∈ innerIds) (hown : FlowPath.append root id = .ok own) :
      root.Onward own := .inner .refl hid hown
  cases h with
  | message hpath first later =>
    obtain ⟨hactions, hitems⟩ := relativeParts_append.mp (relativeParts_cons.mp hids).2
    refine ((first.registers_actions hactions).mono fun own => (·.mono fun id => List.mem_append_left _)).trans ?_
    exact (later.registers_items hitems).mono fun own => (·.mono fun id => List.mem_append_right _)
  | conditional hroot hyes hno first second =>
    obtain ⟨htrue, hfalse⟩ := relativeParts_append.mp (relativeParts_cons.mp hids).2
    have hfirst := first.registers_flow htrue (hinner (by decide) hyes)
    exact (hfirst.trans (second.registers_flow hfalse (hinner (by decide) hno))).anchored hroot hself
      (List.mem_singleton_self _)
  | switch hroot hexit exits falls selects =>
    obtain ⟨hcases, hdefault⟩ := relativeParts_append.mp (relativeParts_cons.mp hids).2
    have hexits := exits.registers_flow hempty (hinner (by decide) hexit)
    exact ((hexits.trans (falls.registers_fallback hdefault)).trans (selects.registers_cases hcases)).anchored hroot hself
      (List.mem_singleton_self _)
  | @iteration _ _ _ increment body _ _ _ _ _ _ _ _ _ _ _ _ _ _ _ hroot hloop hbody hagain hexit _ exits repeats continues
      hkey hadd hinit =>
    have hrepeated : RelativeParts (flowParts (body ++ loopTail body increment)) := by
      rw [flowParts_append]
      exact relativeParts_append.mpr ⟨(relativeParts_cons.mp hids).2, fun part hpart =>
        (loopTail_obeys (r := .relative) body increment part hpart).ids⟩
    have hincrement : RelativeParts (flowParts (incrementFlow increment)) := fun part hpart =>
      (incrementFlow_obeys (r := .relative) increment part hpart).ids
    have hexits := exits.registers_flow hempty (hinner (by decide) hexit)
    have hrepeats := repeats.registers_flow hrepeated (hinner (by decide) hbody)
    have hcontinues := continues.registers_flow hincrement (hinner (by decide) hagain)
    refine (((hexits.trans hrepeats).trans hcontinues).trans ?_).anchored hroot hself (List.mem_singleton_self _)
    exact .of_add hkey hadd (hinner (by decide) hloop)
  | @start _ _ _ resume _ _ _ _ _ _ hcheck hpath hresume resumes htag =>
    have hbody : RelativeParts (optionParts resume) := (relativeParts_cons.mp hids).2
    rw [← flowParts_getD] at hbody
    exact ((resumes.registers_flow hbody .refl).anchored hpath hself (List.mem_singleton_self _)).trans (.of_eq rfl rfl)
  | subFlow hpath inner =>
    exact (inner.registers_flow (relativeParts_cons.mp hids).2 .refl).anchored hpath hself (List.mem_singleton_self _)
  | startLast | finish | set | exec | wait | «break» | «continue» => exact .of_eq rfl rfl

end Anchors

/-! ## Numbered continuations -/

/-- The commands of a sequence are registered as one flow, which runs these commands and nothing else. -/
structure Program.RunsAt (q : Program) (flow : Flow) (path : FlowPath) (targets : Targets) : Prop where
  registered : ∃ key steps, q.pathKey path = .ok key ∧
    q.flows.lookup key = some (.sequence key path steps targets)
  runs : ∀ m : Machine, q.Extends m.program → ∃ l : Labels, ∀ n after, m.Realizes n targets after → ∀ vars,
    m.Agrees n path vars (Direct.runFlow m flow l n vars >>= after)

private theorem Compiles.runsAt {flow : Flow} {path : FlowPath} {targets : Targets} {index : Nat} {p q r : Program}
    (h : Compiles (.flow flow path targets index) p q) (hext : q.Extends r) : r.RunsAt flow path targets where
  registered := by
    cases h with
    | flow sound hown elements hkey hadd =>
      have hsame := (Program.pathKey_congr elements.grows.name path).symm.trans hkey
      obtain rfl := Except.ok.inj (hown.symm.trans hsame)
      have hname := (Program.extends_of_add hadd).name
      exact ⟨_, _, (Program.pathKey_congr (hext.name.trans hname) path).trans hkey,
        hext.flows _ _ (Program.lookup_of_add hadd)⟩
  runs m hm := by
    obtain ⟨l, hruns, -⟩ := Direct.means_of_compiles (K := fun _ => True) h (hext.trans hm) fun _ _ => trivial
    exact ⟨l, hruns⟩

variable {front rest : Flow} {e : Element} {c : Command} {path : FlowPath} {targets : Targets}

private theorem breakers_cons_of_command {f : Element} {d : Command} (hf : f.command? = some d)
    (hd : d.breaksFlow = true) (flow : Flow) : breakers (f :: flow) = d :: breakers flow :=
  List.filterMap_cons_some (by rw [hf]; simp [hd])

private theorem breakers_cons_of_plain {f : Element} (hf : ∀ d, f.command? = some d → d.breaksFlow = false)
    (flow : Flow) :
    breakers (f :: flow) = breakers flow := by
  refine List.filterMap_cons_none ?_
  cases hd : f.command? with
  | none => rfl
  | some d => simp [hf d hd]

private theorem FlowPath.append_numbered {next : FlowPath} {i : Nat}
    (h : append (path.numbered i) ("flow" ++ toString (i + 1)) = .ok next) : next = path.numbered (i + 1) :=
  (append_relative (continuationId_relative (i + 1)) h).1

/-- A sequence in which some breaks have been made goes on from there: at each further one the rest of it is compiled
one step further down, and then the command that breaks it. -/
theorem Compiles.reaches {i : Nat} {steps : List Step} {p q : Program} (he : e.command? = some c)
    (hbreaks : c.breaksFlow = true) (hpasses : ∀ b ∈ breakers (front ++ [e]), b.isTerminal = false) (hrest : rest ≠ [])
    (hflat : ∀ f ∈ front ++ e :: rest, f.subFlow? = none)
    (h : Compiles (.elements (front ++ e :: rest) (path.numbered i) targets i steps) p q) :
    let last := i + (breakers front).length
    ∃ r s t step, p.Extends r ∧ Compiles (.flow rest (path.numbered (last + 1)) targets (last + 1)) r s ∧
      Compiles (.command c (path.numbered last) { targets with next := some (path.numbered (last + 1)) } step) s t ∧
      t.Extends q := by
  induction front generalizing i steps p q with
  | nil =>
    cases h with
    | handler hnone => simp [he] at hnone
    | plain hsome hb => simp_all
    | last => exact absurd rfl hrest
    | terminal hsome _ _ hterminal => simp_all [breakers]
    | broken hsome hb ht later first =>
      obtain rfl := Option.some.inj (he.symm.trans hsome)
      cases later with
      | spliced hs => simp_all
      | unspliced hs hpath continued =>
        obtain rfl := FlowPath.append_numbered hpath
        exact ⟨_, _, _, _, .refl p, continued, first, .refl q⟩
  | cons f front ih =>
    obtain ⟨g, more, hcut⟩ : ∃ g more, front ++ e :: rest = g :: more := List.exists_cons_of_ne_nil (by simp)
    rw [List.cons_append, hcut] at h hflat
    rw [hcut] at ih
    have hflat := (List.forall_mem_cons.mp hflat).2
    cases h with
    | handler hnone later =>
      have hplain := breakers_cons_of_plain (f := f) fun d hd => by cases hnone.symm.trans hd
      rw [List.cons_append, hplain] at hpasses
      rw [hplain]
      exact ih hpasses hflat later
    | plain hsome hb first later =>
      have hplain := breakers_cons_of_plain (f := f) fun d hd => by cases hsome.symm.trans hd; exact hb
      rw [List.cons_append, hplain] at hpasses
      rw [hplain]
      obtain ⟨r, s, t, step, hr, hflow, hcommand, ht⟩ := ih hpasses hflat later
      exact ⟨r, s, t, step, first.grows.trans hr, hflow, hcommand, ht⟩
    | terminal hsome hb _ hterminal =>
      rw [List.cons_append, breakers_cons_of_command hsome hb] at hpasses
      simp [hpasses] at hterminal
    | broken hsome hb ht later first =>
      rw [List.cons_append, breakers_cons_of_command hsome hb] at hpasses
      rw [breakers_cons_of_command hsome hb, List.length_cons, ← Nat.add_assoc, Nat.add_right_comm]
      -- the sequence goes on in the continuation, with one more break behind it
      cases later with
      | spliced hs => simp [hflat g List.mem_cons_self] at hs
      | unspliced hs hpath continued =>
        obtain rfl := FlowPath.append_numbered hpath
        cases continued with
        | flow sound hown elements hkey hadd =>
          obtain ⟨r, s, t, step, hr, hflow, hcommand, ht⟩ := ih (List.forall_mem_cons.mp hpasses).2 hflat elements
          exact ⟨r, s, t, step, hr, hflow, hcommand, ht.trans ((Program.extends_of_add hadd).trans first.grows)⟩

private theorem exists_keys_compileCommand (c : Command) (path : FlowPath) (targets : Targets) (name : String) :
    ∃ own : List String, ∀ p q step, p.dialog.name = name → compileCommand c path targets p = .ok step q →
      q.keys = p.keys ++ own := by
  have hwrites : Writes .free path name (fun _ => False) (compileCommand c path targets) :=
    writes_compileCommand (fun part _ => part.obeys_free) (.refl trivial) targets
  obtain ⟨entries, ending, -, -, -, hperform⟩ := hwrites
  refine ⟨entries.filterMap Entry.key?, fun p q step hname h => ?_⟩
  rw [hperform p hname] at h
  exact keys_of_perform h

private theorem FlowPath.Anchored.below {ids : List String} {own : FlowPath} {name key : String}
    (h : path.Anchored ids own) (hkey : FlowKey.ofPath name own = .ok key) : ∃ id ∈ ids, ∃ base,
      FlowKey.ofPath name (path ++ [.name id]) = .ok base ∧ FlowKey.Below base key := by
  obtain ⟨id, hid, hrelative, root, hroot, hown⟩ := h
  obtain ⟨rfl, -⟩ := append_relative hrelative hroot
  obtain ⟨more, rfl, hmore⟩ := hown.relative
  obtain ⟨base, hbase⟩ := FlowKey.exists_ofPath_of_append (by simp) hmore hkey
  exact ⟨id, hid, base, hbase, FlowKey.below_of_append hmore hbase hkey⟩

/-- Take a sequence with a command that breaks it, and let no command up to this one end the sequence for good. There
are `i` further breaks before this one. Whatever commands come after it, as long as there are some, no explicit flows
among the commands of the sequence and no absolute ids in them: if the sequence can be compiled at a path, then the
commands after this one are registered as one flow at `path.flow1.flow2...`, up to the number `i + 1`, and this flow
runs these commands and nothing else. The flows of the command itself are registered at the place before, the one with
the number `i`, under the id of the command, or for a message under the id of one of its actions or items. Their keys
are the same whatever comes after the command, and whatever was registered before. -/
theorem continuations_are_numbered (name : String) (front : Flow) {e : Element} {c : Command}
    (he : e.command? = some c) (hbreaks : c.breaksFlow = true)
    (hpasses : ∀ b ∈ breakers (front ++ [e]), b.isTerminal = false) (path : FlowPath) (targets : Targets) :
    let i := (breakers front).length
    ∃ own : List String, ∀ (rest : Flow) (p q : Program), rest ≠ [] →
      (∀ f ∈ front ++ e :: rest, f.subFlow? = none) → RelativeParts (flowParts (front ++ e :: rest)) →
      p.dialog.name = name → compileFlow (front ++ e :: rest) path targets 0 p = .ok () q →
        q.RunsAt rest (path.numbered (i + 1)) targets ∧
        (∃ r s step, p.Extends r ∧
          compileCommand c (path.numbered i) { targets with next := some (path.numbered (i + 1)) } r = .ok step s ∧
          s.Extends q ∧ s.keys = r.keys ++ own) ∧
        ∀ key ∈ own, ∃ anchor ∈ c.anchors, ∃ base,
          FlowKey.ofPath name (path.numbered i ++ [.name anchor]) = .ok base ∧ FlowKey.Below base key := by
  intro i
  obtain ⟨own, hown⟩ := exists_keys_compileCommand c (path.numbered i)
    { targets with next := some (path.numbered (i + 1)) } name
  refine ⟨own, fun rest p q hrest hflat hids hname hcompile => ?_⟩
  cases compiles_of_compileFlow hcompile with
  | flow sound howns elements hkey hadd =>
    obtain ⟨r, s, t, step, hr, hflow, hcommand, ht⟩ := elements.reaches (i := 0) he hbreaks hpasses hrest hflat
    rw [Nat.zero_add] at hflow hcommand
    have hq := ht.trans (Program.extends_of_add hadd)
    have hs : s.dialog.name = name := hflow.grows.name.trans (hr.name.trans hname)
    have hkeys := hown s t step hs hcommand.succeeds
    refine ⟨hflow.runsAt (hcommand.grows.trans hq), ⟨s, t, step, hr.trans hflow.grows, hcommand.succeeds, hq, hkeys⟩, ?_⟩
    have hparts : RelativeParts c.parts := by
      rw [flowParts_append, relativeParts_append, flowParts, relativeParts_append, Element.parts_of_command? he] at hids
      exact hids.2.1
    obtain ⟨-, new, hnew, hplaces⟩ := hcommand.registers_command hparts
    obtain rfl := List.append_cancel_left (hkeys.symm.trans hnew)
    intro key hkey
    obtain ⟨at_, hat, hkey⟩ := hplaces key hkey
    exact hat.below (hs ▸ hkey)

def saying (text : String) : Element := .command (.message .text "text" { text := .str text } .absent .absent)

/-- A greeting and a question that waits for its answer. -/
def greeting : Flow :=
  [saying "Hello", .command (.message .text "text" { text := .str "Ready?" }
    (.fixed [.mk { id := some "yes", kind := .reply, text := .str "Yes" } none]) .absent)]

/-- A choice between two flows. -/
def readiness : Command := .conditional "if" (.bool true) [saying "Good"] []

private theorem compiles_greeting : ∃ q, compileFlow (greeting ++ .command readiness :: [saying "Bye"]) [.name "main"]
    {} 0 { dialog := { name := "Trial" } } = .ok () q := by
  have h : Compiles (.flow (greeting ++ .command readiness :: [saying "Bye"]) [.name "main"] {} 0)
      { dialog := { name := "Trial" } } _ :=
    .flow rfl rfl
      (.plain rfl rfl (.message rfl .noActions .noItems)
        (.broken rfl rfl rfl
          (.unspliced rfl rfl
            (.flow rfl rfl
              (.broken rfl rfl rfl
                (.unspliced rfl rfl
                  (.flow rfl rfl (.plain rfl rfl (.message rfl .noActions .noItems) .nil) rfl
                    (Program.add_eq_ok.mpr ⟨rfl, rfl⟩)))
                (.conditional rfl rfl rfl
                  (.flow rfl rfl (.plain rfl rfl (.message rfl .noActions .noItems) .nil) rfl
                    (Program.add_eq_ok.mpr ⟨rfl, rfl⟩))
                  (.flow rfl rfl .nil rfl (Program.add_eq_ok.mpr ⟨rfl, rfl⟩))))
              rfl (Program.add_eq_ok.mpr ⟨rfl, rfl⟩)))
          (.message rfl
            (.fixedActions (.actionCons
              (.button rfl rfl rfl rfl rfl (.flow rfl rfl .nil rfl (Program.add_eq_ok.mpr ⟨rfl, rfl⟩)) rfl) .actionNil))
            .noItems)))
      rfl (Program.add_eq_ok.mpr ⟨rfl, rfl⟩)
  exact ⟨_, h.succeeds⟩

/-- After a question and a choice, the sequence goes on as its second continuation. -/
theorem readiness_after_greeting_is_numbered : ∃ (q : Program) (own : List String),
    compileFlow (greeting ++ .command readiness :: [saying "Bye"]) [.name "main"] {} 0 { dialog := { name := "Trial" } } =
      .ok () q ∧
    q.RunsAt [saying "Bye"] [.name "main", .name "flow1", .name "flow2"] {} ∧
    (∃ r s step, compileCommand readiness [.name "main", .name "flow1"]
      { next := some [.name "main", .name "flow1", .name "flow2"] } r = .ok step s ∧ s.Extends q ∧ s.keys = r.keys ++ own) ∧
    ∀ key ∈ own, FlowKey.Below "Trial:main.flow1.if" key := by
  obtain ⟨q, hq⟩ := compiles_greeting
  obtain ⟨own, hown⟩ := continuations_are_numbered "Trial" greeting (e := .command readiness) (c := readiness) rfl rfl
    (by decide) [.name "main"] {}
  obtain ⟨hruns, ⟨r, s, step, -, hcompile, hs, hkeys⟩, hbelow⟩ :=
    hown [saying "Bye"] _ q (by decide) (by decide) (by decide) rfl hq
  refine ⟨q, own, hq, hruns, ⟨r, s, step, hcompile, hs, hkeys⟩, fun key hkey => ?_⟩
  obtain ⟨anchor, hanchor, base, hbase, hkey⟩ := hbelow key hkey
  obtain rfl := List.mem_singleton.mp hanchor
  cases hbase
  exact hkey

end Colloquy
