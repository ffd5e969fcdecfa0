import Colloquy.Proofs.Run.FanOut
import Colloquy.Proofs.Value.Anonymous

/-!
# Expansion without side effects

Where the works of a parameter have no side effects, it does not matter when they happen: a parameter that expands
together with others expands alone, too, and to a value that agrees, and if each of several parameters expands alone
then they expand together.
-/

namespace Colloquy

open Run

private theorem exists_of_forall₂ {α β : Type} {r : α → β → Prop} {as : List α} {bs : List β} (h : List.Forall₂ r as bs)
    {a : α} (ha : a ∈ as) : ∃ b, r a b := by
  induction h with
  | nil => cases ha
  | cons hfirst _ ih =>
    obtain rfl | ha := List.mem_cons.mp ha
    · exact ⟨_, hfirst⟩
    · exact ih ha

theorem forall₂_of_mem {α β : Type} {r r' : α → β → Prop} {as : List α} {bs : List β} (h : List.Forall₂ r as bs)
    (himp : ∀ a ∈ as, ∀ b, r a b → r' a b) : List.Forall₂ r' as bs := by
  induction h with
  | nil => exact .nil
  | cons hfirst _ ih =>
    obtain ⟨himp, hrest⟩ := List.forall_mem_cons.mp himp
    exact .cons (himp _ hfirst) (ih hrest)

/-- A later world in which everything is as before, but for what is noted down of the run and for new objects. -/
structure World.Unaffected (w w' : World) : Prop where
  session : w'.session = w.session
  contents : w'.heap.contents = w.heap.contents
  templateLimit : w'.templateLimit = w.templateLimit
  next : w.heap.next ≤ w'.heap.next

private theorem World.Unaffected.refl (w : World) : w.Unaffected w := ⟨rfl, rfl, rfl, Nat.le_refl _⟩

theorem World.Unaffected.current {w w' : World} (h : w.Unaffected w') : w'.heap.current = w.heap.current :=
  Heap.current_congr h.contents

/-- Works that differ at most in arguments that agree. -/
inductive Work.Alike (heap : Heap) : Work → Work → Prop where
  | refl (work : Work) : Alike heap work work
  | named (name : String) {own other : Value} (h : heap.Agrees own other) :
      Alike heap (.named name (some own)) (.named name (some other))

/-- Nothing changed the objects of a parameter. -/
def Heap.Keeps (heap : Heap) (param : Value) : Prop := ∀ part, PartOf param part → heap.current part = part

/-- A parameter that is neither a marker nor a collection. -/
def Value.isSimple : Value → Bool
  | .negated _ | .list .. | .tuple _ | .dict .. => false
  | _ => true

namespace Expander

variable {x : Expander} {I : World → Prop} {F : Prop} {w w' : World} {param v v' : Value}

/-! ## Values that a parameter can have -/

def Came (x : Expander) (I : World → Prop) (work : Work) (v : Value) : Prop :=
  ∃ w w', I w ∧ x.perform work w = .ok v w'

/-- A value that the tree of a parameter gives by works that are possible. -/
def Grants (x : Expander) (I : World → Prop) (param v : Value) : Prop := ∃ trace, Yielded x I param trace v

private theorem possible_append_iff {trace more : Trace} :
    Possible x I (trace ++ more) ↔ Possible x I trace ∧ Possible x I more := List.forall_mem_append

private theorem possible_singleton_iff {work : Work} : Possible x I
    [(work, v)] ↔ Came x I work v := List.forall_mem_singleton

private theorem grants_of_fannedAll {params vs : List Value} {trace : Trace} (h : FannedAll params trace vs)
    (hpossible : Possible x I trace) : List.Forall₂ (Grants x I) params vs := by
  induction params generalizing trace vs with
  | nil =>
    cases h
    exact .nil
  | cons param rest ih =>
    cases h with
    | cons hown hrest hall =>
      exact .cons ⟨_, hown, fun step hstep => hpossible step (hall.mem_iff.mpr (.inl hstep))⟩
        (ih hrest fun step hstep => hpossible step (hall.mem_iff.mpr (.inr hstep)))

private theorem grants_negated (h : Grants x I (.negated param) v) :
    ∃ own, Grants x I param own ∧ Came x I (.inversion own) v := by
  obtain ⟨trace, hfanned, hpossible⟩ := h
  cases hfanned with
  | leaf h => cases h
  | text h => cases h
  | handler h => cases h
  | negated hown =>
    obtain ⟨hbefore, hcame⟩ := possible_append_iff.mp hpossible
    exact ⟨_, ⟨_, hown, hbefore⟩, possible_singleton_iff.mp hcame⟩

private theorem grants_items {items : List Value} (hitems : param.sequence? = some items) (h : Grants x I param v) :
    ∃ vs, List.Forall₂ (Grants x I) items vs ∧ v = .ofList vs := by
  obtain ⟨trace, hfanned, hpossible⟩ := h
  cases hfanned with
  | leaf h | text h | handler h =>
    cases param with
    | list | tuple => cases h
    | _ => cases hitems
  | list hall | tuple hall =>
    obtain rfl := Option.some.inj hitems
    exact ⟨_, grants_of_fannedAll hall hpossible, rfl⟩
  | _ => cases hitems

private theorem grants_dict {id : Identity} {entries : Entries} (hexec : entries.hasName "exec" = false)
    (h : Grants x I (.dict id entries) v) :
    ∃ vs, List.Forall₂ (Grants x I) (entries.map (·.2)) vs ∧
      v = .dict .anonymous (((entries.map (·.1)).zip vs).filter fun (_, v) => !v.isNone) := by
  obtain ⟨trace, hfanned, hpossible⟩ := h
  obtain ⟨vs, hall, rfl⟩ := fanned_dict hexec hfanned
  exact ⟨vs, grants_of_fannedAll hall hpossible, rfl⟩

private theorem grants_exec {id : Identity} {entries : Entries} {name args : Value}
    (htarget : Executes entries name args) (h : Grants x I (.dict id entries) v) : ∃ s, name.text? = some s ∧
      ((args.isNone = true ∧ Came x I (.named s none) v) ∨
        args.isNone = false ∧ ∃ own, Grants x I args own ∧ Came x I (.named s (some own)) v) := by
  obtain ⟨trace, hfanned, hpossible⟩ := h
  cases hfanned with
  | leaf h => cases h
  | text h => cases h
  | handler h => cases h
  | dict hexec => cases hexec.symm.trans htarget.hasName
  | bare htarget' hname hargs =>
    obtain ⟨rfl, rfl⟩ := Prod.mk.inj (htarget.execTarget_eq.symm.trans htarget'.execTarget_eq)
    exact ⟨_, hname, .inl ⟨hargs, possible_singleton_iff.mp hpossible⟩⟩
  | overlaid htarget' hname hargs hown =>
    obtain ⟨rfl, rfl⟩ := Prod.mk.inj (htarget.execTarget_eq.symm.trans htarget'.execTarget_eq)
    obtain ⟨hbefore, hcame⟩ := possible_append_iff.mp hpossible
    exact ⟨_, hname, .inr ⟨hargs, _, ⟨_, hown, hbefore⟩, possible_singleton_iff.mp hcame⟩⟩

/-- What a simple parameter asks for, if it does not stand for itself. -/
def asked (param : Value) : Option Work :=
  match param.text? with
  | some s => some (.text s)
  | none => if calls param then some (.handler param) else none

private theorem asked_eq_none_iff (h : param.isSimple = true) : asked param = none ↔ param.isLeaf = true := by
  have hleaf : param.isLeaf = (param.text?.isNone && !calls param) := by
    cases param with
    | negated | list | tuple | dict => cases h
    | _ => rfl
  rw [hleaf]
  unfold asked
  cases param.text? <;> cases calls param <;> simp

private theorem asked_of_calls (h : calls param = true) : asked param = some (.handler param) := by
  have htext : param.text? = none := by
    cases param with
    | str | markup => cases h
    | _ => rfl
  rw [asked, htext, h]
  rfl

private theorem grants_simple (hsimple : param.isSimple = true) (h : Grants x I param v) :
    (asked param = none ∧ v = param) ∨ ∃ work, asked param = some work ∧ Came x I work v := by
  obtain ⟨trace, hfanned, hpossible⟩ := h
  cases hfanned with
  | leaf h => exact .inl ⟨(asked_eq_none_iff hsimple).mpr h, rfl⟩
  | text h => exact .inr ⟨_, by rw [asked, h], possible_singleton_iff.mp hpossible⟩
  | handler h => exact .inr ⟨_, asked_of_calls h, possible_singleton_iff.mp hpossible⟩
  | _ => cases hsimple

/-! ## Works without side effects -/

/-- The works of a parameter have no side effects: one that comes to an end leaves everything as it was, and wherever
nothing has been changed it comes to an end, too, and so does any other that only differs in arguments that agree, with
a value that agrees. -/
def Harmless (x : Expander) (w : World) (param : Value) : Prop :=
  ∀ work other, Arises x w.Unaffected param work → Arises x w.Unaffected param other → Work.Alike w.heap work other →
    ∀ w₁ w₂ v w', w.Unaffected w₁ → w.Unaffected w₂ → x.perform work w₁ = .ok v w' →
      w.Unaffected w' ∧ ∃ u w'', x.perform other w₂ = .ok u w'' ∧ w.heap.Agrees v u

private theorem Harmless.of_holds {own : Value} (h : Harmless x w param) (hpart : Holds param own) : Harmless x w own :=
  fun work other hwork hother => h work other (hwork.of_holds hpart) (hother.of_holds hpart)

private theorem Harmless.of_partOf {part : Value} (h : Harmless x w param) (hpart : PartOf param part) :
    Harmless x w part := by
  induction hpart with
  | refl => exact h
  | tail _ hown ih => exact ih.of_holds hown

private theorem Harmless.agrees (h : Harmless x w param) {work other : Work} (hwork : Arises x w.Unaffected param work)
    (hother : Arises x w.Unaffected param other) (halike : work.Alike w.heap other) {v u : Value}
    (hv : Came x w.Unaffected work v) (hu : Came x w.Unaffected other u) : w.heap.Agrees v u := by
  obtain ⟨w₁, w₁', hw₁, hv⟩ := hv
  obtain ⟨w₂, w₂', hw₂, hu⟩ := hu
  obtain ⟨-, u', w', hu', hagrees⟩ := h work other hwork hother halike w₁ w₂ v w₁' hw₁ hw₂ hv
  cases hu'.symm.trans hu
  exact hagrees

private theorem arises_of_asked {work : Work} (h : asked param = some work) : Arises x I param work := by
  unfold asked at h
  cases hs : param.text? with
  | some s =>
    rw [hs] at h
    obtain rfl := Option.some.inj h
    exact .text .refl hs
  | none =>
    rw [hs] at h
    cases hcalls : calls param with
    | true =>
      rw [hcalls] at h
      obtain rfl := Option.some.inj h
      exact .handler .refl hcalls
    | false =>
      rw [hcalls] at h
      cases h

/-- A parameter without parts has no side effects if the work for which it asks gives the same wherever nothing has
changed, and changes nothing. -/
theorem harmless_of_asked {work : Work} (hparts : ∀ own, ¬ Holds param own)
    (hasked : asked param = some work)
    (h : ∀ w₁, w.Unaffected w₁ → ∃ w', x.perform work w₁ = .ok v w' ∧ w.Unaffected w') : x.Harmless w param := by
  have hself {part : Value} (hpart : PartOf param part) : part = param := by
    obtain heq | ⟨own, hown, -⟩ := hpart.cases_head
    · exact heq.symm
    · exact (hparts own hown).elim
  have honly {other : Work} (hother : Arises x w.Unaffected param other) : other = work := by
    cases hother with
    | text hpart hs =>
      obtain rfl := hself hpart
      rw [asked, hs] at hasked
      exact Option.some.inj hasked
    | handler hpart hcalls =>
      obtain rfl := hself hpart
      exact Option.some.inj ((asked_of_calls hcalls).symm.trans hasked)
    | bare hpart => cases hself hpart ▸ hasked
    | overlaid hpart => cases hself hpart ▸ hasked
  intro work₁ work₂ hwork₁ hwork₂ _ w₁ w₂ v₁ w' hw₁ hw₂ hv₁
  obtain rfl := honly hwork₁
  obtain rfl := honly hwork₂
  obtain ⟨w₁', hv, hw₁'⟩ := h w₁ hw₁
  obtain ⟨w₂', hu, -⟩ := h w₂ hw₂
  cases hv₁.symm.trans hv
  exact ⟨hw₁', v, w₂', hu, rfl⟩

private theorem agrees_elements {params vs us : List Value} (h : List.Forall₂ (Grants x w.Unaffected) params vs)
    (h' : List.Forall₂ (Grants x w.Unaffected) params us)
    (hparams : ∀ param ∈ params, ∀ v u, Grants x w.Unaffected param v → Grants x w.Unaffected param u →
      w.heap.Agrees v u) : List.Forall₂ w.heap.Agrees vs us := by
  induction h generalizing us with
  | nil =>
    cases h'
    exact .nil
  | cons hv _ ih =>
    cases h' with
    | cons hu hus =>
      obtain ⟨hfirst, hrest⟩ := List.forall_mem_cons.mp hparams
      exact .cons (hfirst _ _ hv hu) (ih hus hrest)

private theorem agrees_entries {heap : Heap} {vs us : List Value} (keys : List Value)
    (h : List.Forall₂ heap.Agrees vs us) :
    heap.Agrees (.dict .anonymous ((keys.zip vs).filter fun (_, v) => !v.isNone))
      (.dict .anonymous ((keys.zip us).filter fun (_, v) => !v.isNone)) := by
  have hentries : Value.anonymizeEntries heap.knows ((keys.zip vs).filter fun (_, v) => !v.isNone) =
      Value.anonymizeEntries heap.knows ((keys.zip us).filter fun (_, v) => !v.isNone) := by
    induction h generalizing keys with
    | nil => rfl
    | @cons v u _ _ hv _ ih =>
      cases keys with
      | nil => rfl
      | cons key rest =>
        have hvalue : v.anonymize heap.knows = u.anonymize heap.knows := hv
        simp only [List.zip_cons_cons, List.filter_cons, hv.isNone]
        split
        · rw [Value.anonymizeEntries, Value.anonymizeEntries, hvalue, ih]
        · exact ih rest
  rw [Heap.Agrees, Value.anonymize, Value.anonymize, hentries]

private theorem Harmless.agrees_exec {id : Identity} {entries : Entries} {name args : Value}
    (hharmless : Harmless x w (.dict id entries)) (htarget : Executes entries name args)
    (hargs : ∀ own, Holds (.dict id entries) own → ∀ v u, Grants x w.Unaffected own v → Grants x w.Unaffected own u →
      w.heap.Agrees v u) (h : Grants x w.Unaffected (.dict id entries) v)
    (h' : Grants x w.Unaffected (.dict id entries) v') : w.heap.Agrees v v' := by
  obtain ⟨s, hs, hv⟩ := grants_exec htarget h
  obtain ⟨s', hs', hv'⟩ := grants_exec htarget h'
  obtain rfl := Option.some.inj (hs.symm.trans hs')
  obtain ⟨hnone, hcame⟩ | ⟨hsome, own, hown, hcame⟩ := hv
  · obtain ⟨-, hcame'⟩ | ⟨hsome, -⟩ := hv'
    · have harises : Arises x w.Unaffected (.dict id entries) (.named s none) := .bare .refl htarget hs hnone
      exact hharmless.agrees harises harises (.refl _) hcame hcame'
    · cases hsome.symm.trans hnone
  · obtain ⟨hnone, -⟩ | ⟨-, other, hother, hcame'⟩ := hv'
    · cases hsome.symm.trans hnone
    · have hagrees := hargs args (.args htarget hsome) own other hown hother
      obtain ⟨trace, hfanned, hpossible⟩ := hown
      obtain ⟨trace', hfanned', hpossible'⟩ := hother
      exact hharmless.agrees (.overlaid .refl htarget hs hsome hfanned hpossible)
        (.overlaid .refl htarget hs hsome hfanned' hpossible') (.named s hagrees) hcame hcame'

private theorem Grants.agrees (hharmless : Harmless x w param) (h : Grants x w.Unaffected param v)
    (h' : Grants x w.Unaffected param v') : w.heap.Agrees v v' := by
  induction hn : param.size using Nat.strongRecOn generalizing param v v' with
  | _ n ih =>
    subst hn
    have hparts (own : Value) (hpart : Holds param own) (v u : Value) (hv : Grants x w.Unaffected own v)
        (hu : Grants x w.Unaffected own u) : w.heap.Agrees v u :=
      ih _ (Value.size_lt_of_holds hpart) (hharmless.of_holds hpart) hv hu rfl
    have hitems {items : List Value} (hitems : param.sequence? = some items)
        (hholds : ∀ own ∈ items, Holds param own) : w.heap.Agrees v v' := by
      obtain ⟨vs, hvs, rfl⟩ := grants_items hitems h
      obtain ⟨us, hus, rfl⟩ := grants_items hitems h'
      exact Heap.agrees_ofList (agrees_elements hvs hus fun own hmem => hparts own (hholds own hmem))
    cases param with
    | negated param =>
      obtain ⟨own, hown, w₁, w₁', hw₁, hv⟩ := grants_negated h
      obtain ⟨other, hother, w₂, w₂', hw₂, hv'⟩ := grants_negated h'
      have hsame := (hparts param .negated own other hown hother).current.truthy
      obtain ⟨rfl, -⟩ := EStateM.Result.ok.inj hv
      obtain ⟨rfl, -⟩ := EStateM.Result.ok.inj hv'
      rw [hw₁.current, hw₂.current, hsame]
      rfl
    | list id items => exact hitems rfl fun _ => .item
    | tuple items => exact hitems rfl fun _ => .member
    | dict id entries =>
      cases hexec : Entries.hasName entries "exec" with
      | false =>
        obtain ⟨vs, hvs, rfl⟩ := grants_dict hexec h
        obtain ⟨us, hus, rfl⟩ := grants_dict hexec h'
        refine agrees_entries _ (agrees_elements hvs hus ?_)
        exact fun own hmem => hparts own ((holds_dict_iff hexec).mpr hmem)
      | true => exact hharmless.agrees_exec (executes_execTarget hexec) hparts h h'
    | _ =>
      obtain ⟨hnone, rfl⟩ | ⟨work, hwork, hcame⟩ := grants_simple rfl h
      · obtain ⟨-, rfl⟩ | ⟨other, hother, -⟩ := grants_simple rfl h'
        · rfl
        · cases hnone.symm.trans hother
      · obtain ⟨hnone, -⟩ | ⟨other, hother, hcame'⟩ := grants_simple rfl h'
        · cases hnone.symm.trans hwork
        · obtain rfl := Option.some.inj (hwork.symm.trans hother)
          exact hharmless.agrees (arises_of_asked hwork) (arises_of_asked hwork) (.refl _) hcame hcame'

/-! ## Alone and together -/

private theorem Grants.of_partOf {part : Value} (h : Grants x I param v) (hpart : PartOf param part) :
    ∃ u, Grants x I part u := by
  induction hpart with
  | refl => exact ⟨v, h⟩
  | tail _ hown ih =>
    obtain ⟨u, hu⟩ := ih
    cases hown with
    | item hmem =>
      obtain ⟨us, hus, -⟩ := grants_items rfl hu
      exact exists_of_forall₂ hus hmem
    | member hmem =>
      obtain ⟨us, hus, -⟩ := grants_items rfl hu
      exact exists_of_forall₂ hus hmem
    | negated =>
      obtain ⟨own, hown, -⟩ := grants_negated hu
      exact ⟨own, hown⟩
    | entry hexec hmem =>
      obtain ⟨us, hus, -⟩ := grants_dict hexec hu
      exact exists_of_forall₂ hus (List.mem_map_of_mem hmem)
    | args htarget hsome =>
      obtain ⟨s, -, ⟨hnone, -⟩ | ⟨-, own, hown, -⟩⟩ := grants_exec htarget hu
      · cases hsome.symm.trans hnone
      · exact ⟨own, hown⟩

private theorem Grants.came_asked (h : Grants x I param v) {work : Work} (hwork : asked param = some work) :
    Came x I work v := by
  have hsimple : param.isSimple = true := by
    cases param with
    | negated | list | tuple | dict => cases hwork
    | _ => rfl
  obtain ⟨hnone, -⟩ | ⟨other, hother, hcame⟩ := grants_simple hsimple h
  · cases hnone.symm.trans hwork
  · obtain rfl := Option.some.inj (hwork.symm.trans hother)
    exact hcame

private theorem Grants.came (hharmless : Harmless x w param) (h : Grants x w.Unaffected param v) {work : Work}
    (hwork : Arises x w.Unaffected param work) :
    ∃ other u, Arises x w.Unaffected param other ∧ Work.Alike w.heap other work ∧ Came x w.Unaffected other u := by
  cases hwork with
  | text hpart hs =>
    obtain ⟨u, hu⟩ := h.of_partOf hpart
    exact ⟨_, u, .text hpart hs, .refl _, hu.came_asked (by rw [asked, hs])⟩
  | handler hpart hcalls =>
    obtain ⟨u, hu⟩ := h.of_partOf hpart
    exact ⟨_, u, .handler hpart hcalls, .refl _, hu.came_asked (asked_of_calls hcalls)⟩
  | bare hpart htarget hname hargs =>
    obtain ⟨u, hu⟩ := h.of_partOf hpart
    obtain ⟨s, hs, ⟨-, hcame⟩ | ⟨hsome, -⟩⟩ := grants_exec htarget hu
    · obtain rfl := Option.some.inj (hs.symm.trans hname)
      exact ⟨_, u, .bare hpart htarget hname hargs, .refl _, hcame⟩
    · cases hsome.symm.trans hargs
  | overlaid hpart htarget hname hargs hown hpossible =>
    obtain ⟨u, hu⟩ := h.of_partOf hpart
    obtain ⟨s, hs, ⟨hnone, -⟩ | ⟨-, other, hother, hcame⟩⟩ := grants_exec htarget hu
    · cases hnone.symm.trans hargs
    · obtain rfl := Option.some.inj (hs.symm.trans hname)
      have hbelow : PartOf param _ := hpart.tail (.args htarget hargs)
      have hagrees := hother.agrees (hharmless.of_partOf hbelow) ⟨_, hown, hpossible⟩
      obtain ⟨trace, hfanned, hpossible'⟩ := hother
      exact ⟨_, u, .overlaid hpart htarget hname hargs hfanned hpossible', .named _ hagrees, hcame⟩

private theorem Grants.manages (hkept : w.heap.Keeps param) (hharmless : Harmless x w param)
    (h : Grants x w.Unaffected param v) : Manages x w.Unaffected False param where
  kept part hpart w₁ hw₁ := by rw [hw₁.current, hkept part hpart]
  names id entries name args hpart htarget := by
    obtain ⟨u, hu⟩ := h.of_partOf hpart
    obtain ⟨s, hs, -⟩ := grants_exec htarget hu
    exact .inl (Option.isSome_of_eq_some hs)
  returns work hwork w₁ hw₁ := by
    obtain ⟨other, u, hother, halike, w₂, w₂', hw₂, hu⟩ := h.came hharmless hwork
    obtain ⟨-, u', w₁', hu', -⟩ := hharmless other work hother hwork halike w₂ w₁ u w₂' hw₂ hw₁ hu
    exact .inl ⟨u', w₁', hu', (hharmless work work hwork hwork (.refl work) w₁ w₁ u' w₁' hw₁ hw₁ hu').1⟩

private theorem Harmless.manages (hkept : w.heap.Keeps param) (hharmless : Harmless x w param) :
    Manages x w.Unaffected True param where
  kept part hpart w₁ hw₁ := by rw [hw₁.current, hkept part hpart]
  names _ _ _ _ _ _ := .inr trivial
  returns work hwork w₁ hw₁ := by
    cases hrun : x.perform work w₁ with
    | ok v w₁' =>
      exact .inl ⟨v, w₁', rfl, (hharmless work work hwork hwork (.refl work) w₁ w₁ v w₁' hw₁ hw₁ hrun).1⟩
    | error e w₁' => exact .inr ⟨trivial, e, w₁', rfl⟩

private theorem Attains.eq_ok {α : Type} {r : Run α} {Good : Trace → α → Prop} {Bad : α → Prop}
    (h : Attains x I False r Good Bad w) : ∃ a trace w', r w = .ok a w' ∧ I w' ∧ Good trace a := by
  obtain ⟨a, trace, w', hr, -, -, hw', ha⟩ | ⟨hF, -⟩ := h
  · exact ⟨a, trace, w', hr, hw', ha⟩
  · exact hF.elim

private theorem Attains.of_eq_ok {α : Type} {r : Run α} {Good : Trace → α → Prop} {a : α}
    (h : Attains x I F r Good (fun _ => False) w) (hr : r w = .ok a w') : I w' ∧ ∃ trace, Good trace a := by
  obtain ⟨b, trace, w₁, hr', -, -, hw', ha⟩ | ⟨-, hbad⟩ := h
  · cases hr.symm.trans hr'
    exact ⟨hw', trace, ha⟩
  · exact (hbad a w' hr).elim

private theorem Harmless.grants (hkept : w.heap.Keeps param) (hharmless : Harmless x w param)
    (h : x.expand param w = .ok v w') : Grants x w.Unaffected param v := by
  obtain ⟨-, trace, hv⟩ := (attains_expand (hharmless.manages hkept) (.refl w)).of_eq_ok h
  exact ⟨trace, hv⟩

private theorem attains_expandAll {params : List Value} (h : ∀ param ∈ params, Manages x I F param) (hw : I w) :
    Attains x I F (x.expandAll params) (fun trace vs => FannedAll params trace vs ∧ Possible x I trace)
      (fun _ => False) w := by
  have hkept : ∀ param ∈ params, ∀ w, I w → w.heap.current param = param :=
    fun param hmem => (h param hmem).kept _ .refl
  have hcurrent : w.heap.current (.ofList params) = .ofList params := by
    have hparams : params.map w.heap.current = params := by
      refine (List.map_congr_left fun param hmem => ?_).trans (List.map_id params)
      exact hkept param hmem w hw
    rw [Value.ofList, Heap.current_list, hparams]
  obtain ⟨finish, hstart, hfinish⟩ : ∃ finish : Value → Run (List Value), x.expandAll params w =
      (x.gather .items [] params >>= x.complete (rounds (.ofList params)) >>= finish) w ∧
        ∀ vs, finish (.ofList vs) = pure vs := by
    rw [expandAll, bind_ok (current_eq _ w), hcurrent]
    exact ⟨_, (congrFun (bind_assoc _ _ _) w).symm, fun _ => rfl⟩
  unfold Attains
  rw [hstart]
  have hafter : Continues x I F (Built x I .items params) (Built x I .items params) [] := continues_nil
  have hgather := attains_elements (fun param hmem => (h param hmem).begins) hkept hafter hw
  have hcomplete : Attains x I F (x.gather .items [] params >>= x.complete (rounds (.ofList params)))
      (Built x I .items params) (fun _ => False) w := by
    refine hgather.bind (fun trace t ht w' hw' => ht.complete ?_ hw') fun _ t ht => ht.complete _
    rw [Value.ofList, rounds, Value.size]
    · omega
    · intro param h
      cases h
  refine hcomplete.bind (fun trace v hv w' hw' => ?_) fun _ _ h => h.elim
  obtain ⟨vs, hvs, hpossible, rfl⟩ := hv
  change Attains x I F (finish (.ofList vs)) _ _ w'
  rw [hfinish]
  exact .pure hw' (by simpa using ⟨hvs, hpossible⟩)

private theorem expandAll_eq_ok {params vs : List Value} (hkept : ∀ param ∈ params, w.heap.Keeps param)
    (hharmless : ∀ param ∈ params, Harmless x w param) (h : x.expandAll params w = .ok vs w') :
    w.Unaffected w' ∧ List.Forall₂ (Grants x w.Unaffected) params vs := by
  have hmanages (param : Value) (hmem : param ∈ params) := (hharmless param hmem).manages (hkept param hmem)
  obtain ⟨hw', trace, hvs, hpossible⟩ := (attains_expandAll hmanages (.refl w)).of_eq_ok h
  exact ⟨hw', grants_of_fannedAll hvs hpossible⟩

theorem expandAll_of_expand {params vs : List Value} (hkept : ∀ param ∈ params, w.heap.Keeps param)
    (hharmless : ∀ param ∈ params, Harmless x w param)
    (h : List.Forall₂ (fun param v => ∃ w', x.expand param w = .ok v w') params vs) :
    ∃ us w', x.expandAll params w = .ok us w' ∧ w.Unaffected w' ∧ List.Forall₂ w.heap.Agrees vs us := by
  have hgrants : List.Forall₂ (Grants x w.Unaffected) params vs :=
    forall₂_of_mem h fun param hmem v hv => by
      obtain ⟨w', hv⟩ := hv
      exact (hharmless param hmem).grants (hkept param hmem) hv
  have hmanages (param : Value) (hmem : param ∈ params) : Manages x w.Unaffected False param := by
    obtain ⟨v, hv⟩ := exists_of_forall₂ hgrants hmem
    exact hv.manages (hkept param hmem) (hharmless param hmem)
  obtain ⟨us, trace, w', hus, hw', hfanned, hpossible⟩ := (attains_expandAll hmanages (.refl w)).eq_ok
  refine ⟨us, w', hus, hw', agrees_elements hgrants (grants_of_fannedAll hfanned hpossible) fun param hmem v u => ?_⟩
  exact Grants.agrees (hharmless param hmem)

theorem expand_of_expandAll {params vs : List Value} (hkept : ∀ param ∈ params, w.heap.Keeps param)
    (hharmless : ∀ param ∈ params, Harmless x w param) (h : x.expandAll params w = .ok vs w') :
    ∀ param ∈ params, ∃ u w'', x.expand param w = .ok u w'' := by
  intro param hmem
  obtain ⟨-, hgrants⟩ := expandAll_eq_ok hkept hharmless h
  obtain ⟨v, hv⟩ := exists_of_forall₂ hgrants hmem
  obtain ⟨u, trace, w'', hu, -, -⟩ :=
    (attains_expand (hv.manages (hkept param hmem) (hharmless param hmem)) (.refl w)).eq_ok
  exact ⟨u, w'', hu⟩

end Expander

end Colloquy
