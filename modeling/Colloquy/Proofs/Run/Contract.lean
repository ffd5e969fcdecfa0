import Colloquy.Proofs.Flow.Reads
import Colloquy.Proofs.Value.Receiver
import Colloquy.Run.Accessor

/-!
# Contracts of runs

What runs have in common, whatever they give: how they may change the world, and which errors may stop
them. Everything that evaluates values, calls functions or follows accessors leaves the session alone and
fails with ordinary errors, as long as the functions of the application keep to the contract. The same
contract then covers all that is made of these parts.
-/

namespace Colloquy

/-- Where a run may begin, how it may change the world, and what may stop it. -/
structure Contract where
  holds : World → Prop
  allows : World → World → Prop
  stops : Error → Prop
  holds_of_allows : ∀ {w w'}, holds w → allows w w' → holds w'
  trans : ∀ {w w₁ w₂}, allows w w₁ → allows w₁ w₂ → allows w w₂
  /-- Everything but the session may change, as long as shared objects change as objects do. -/
  aside : ∀ {w w'}, w'.session = w.session → w.heap.Grows w'.heap → allows w w'
  ordinary : ∀ {e}, e.isOrdinary = true → stops e

theorem Contract.refl (c : Contract) (w : World) : c.allows w w := c.aside rfl (.refl _)

namespace Run

variable {α β : Type} {c : Contract} {w w' : World}

theorem bind_ok {x : Run α} {f : α → Run β} {a : α} (h : x w = .ok a w') : (x >>= f) w = f a w' := by
  change EStateM.bind x f w = _
  simp only [EStateM.bind, h]

theorem bind_error {x : Run α} {f : α → Run β} {e : Error} (h : x w = .error e w') :
    (x >>= f) w = .error e w' := by
  change EStateM.bind x f w = _
  simp only [EStateM.bind, h]

theorem bind_eq_ok {x : Run α} {f : α → Run β} {b : β} (h : (x >>= f) w = .ok b w') :
    ∃ a w₁, x w = .ok a w₁ ∧ f a w₁ = .ok b w' := by
  cases hx : x w with
  | ok a w₁ =>
    rw [bind_ok hx] at h
    exact ⟨a, w₁, rfl, h⟩
  | error e w₁ =>
    rw [bind_error hx] at h
    cases h

theorem mapM_ok {α β : Type} {f : α → Run β} {g : α → β} {list : List α}
    (h : ∀ a ∈ list, f a w = .ok (g a) w) : list.mapM f w = .ok (list.map g) w := by
  induction list with
  | nil => rfl
  | cons a rest ih =>
    obtain ⟨hfirst, hrest⟩ := List.forall_mem_cons.mp h
    rw [List.mapM_cons, bind_ok hfirst, bind_ok (ih hrest)]
    rfl

theorem current_eq (v : Value) (w : World) : Run.current v w = .ok (w.heap.current v) w := rfl

theorem onSession_ok {effect : Effect α} {a : α} {s : Session} (h : effect w.session = .ok a s) :
    onSession effect w = .ok a { w with session := s } := by
  simp only [onSession, h]

theorem onSession_error {effect : Effect α} {e : Error} {s : Session} (h : effect w.session = .error e s) :
    onSession effect w = .error e { w with session := s } := by
  simp only [onSession, h]

/-- Whatever a run gives has a property. -/
def Yields (x : Run α) (P : α → Prop) : Prop := ∀ w v w', x w = .ok v w' → P v

theorem Yields.pure {P : α → Prop} {a : α} (h : P a) : Yields (pure a) P := by
  rintro w _ _ ⟨⟩
  exact h

theorem Yields.throw {P : α → Prop} (e : Error) : Yields (throw e) P := by
  rintro w _ _ ⟨⟩

theorem Yields.bind_of {P : α → Prop} {Q : β → Prop} {x : Run α} {f : α → Run β} (hx : x.Yields P)
    (hf : ∀ a, P a → (f a).Yields Q) : (x >>= f).Yields Q := by
  intro w v w' hv
  cases h : x w with
  | ok a w₁ =>
    rw [bind_ok h] at hv
    exact hf a (hx w a w₁ h) w₁ v w' hv
  | error e w₁ =>
    rw [bind_error h] at hv
    cases hv

theorem Yields.bind {P : β → Prop} {x : Run α} {f : α → Run β} (h : ∀ a, (f a).Yields P) :
    (x >>= f).Yields P :=
  Yields.bind_of (fun _ _ _ _ => trivial) fun a (_ : True) => h a

@[simp] theorem ofExcept_ok (a : α) : ofExcept (.ok a) = pure a := rfl

/-- How a run ended keeps to a contract, and what it gives has a property. -/
def Kept (c : Contract) (P : α → Prop) (w : World) : EStateM.Result Error World α → Prop
  | .ok a w' => c.allows w w' ∧ P a
  | .error e w' => c.allows w w' ∧ c.stops e

/-- Wherever a run may begin it keeps to the contract, and what it gives has a property. -/
def Ensures (c : Contract) (P : α → Prop) (x : Run α) : Prop := ∀ w, c.holds w → Kept c P w (x w)

namespace Ensures

variable {P : α → Prop} {Q : β → Prop}

theorem pure {a : α} (h : P a) : Ensures c P (pure a) := fun w _ => ⟨c.refl w, h⟩

theorem throw {e : Error} (h : c.stops e) : Ensures c P (throw e : Run α) := fun w _ => ⟨c.refl w, h⟩

theorem bind {x : Run α} {f : α → Run β} (hx : Ensures c P x) (hf : ∀ a, P a → Ensures c Q (f a)) :
    Ensures c Q (x >>= f) := by
  intro w hw
  have hfirst := hx w hw
  cases h : x w with
  | error e w₁ =>
    rw [bind_error h]
    rw [h] at hfirst
    exact hfirst
  | ok a w₁ =>
    rw [bind_ok h]
    rw [h] at hfirst
    have hsecond := hf a hfirst.2 w₁ (c.holds_of_allows hw hfirst.1)
    cases hr : f a w₁ with
    | ok b w₂ =>
      rw [hr] at hsecond
      exact ⟨c.trans hfirst.1 hsecond.1, hsecond.2⟩
    | error e w₂ =>
      rw [hr] at hsecond
      exact ⟨c.trans hfirst.1 hsecond.1, hsecond.2⟩

private theorem mono {P' : α → Prop} {x : Run α} (hx : Ensures c P x) (h : ∀ a, P a → P' a) : Ensures c P' x := by
  intro w hw
  have hkept := hx w hw
  cases hr : x w with
  | ok a w' =>
    rw [hr] at hkept
    exact ⟨hkept.1, h a hkept.2⟩
  | error e w' =>
    rw [hr] at hkept
    exact hkept

private theorem and_yields {x : Run α} {P' : α → Prop} (hx : Ensures c P x) (hy : x.Yields P') :
    Ensures c (fun a => P a ∧ P' a) x := by
  intro w hw
  have hkept := hx w hw
  cases hr : x w with
  | ok a w' =>
    rw [hr] at hkept
    exact ⟨hkept.1, hkept.2, hy w a w' hr⟩
  | error e w' =>
    rw [hr] at hkept
    exact hkept

end Ensures

/-- A run keeps to a contract, whatever it gives. -/
def Meets (c : Contract) (x : Run α) : Prop := Ensures c (fun _ => True) x

theorem Ensures.meets {P : α → Prop} {x : Run α} (h : Ensures c P x) : Meets c x := h.mono fun _ _ => trivial

namespace Meets

theorem pure (a : α) : Meets c (pure a) := Ensures.pure trivial

theorem throw {e : Error} (h : c.stops e) : Meets c (throw e : Run α) := Ensures.throw h

theorem fault (f : Fault) : Meets c (MonadExcept.throw (.fault f) : Run α) := throw (c.ordinary rfl)

theorem bind {x : Run α} {f : α → Run β} (hx : Meets c x) (hf : ∀ a, Meets c (f a)) : Meets c (x >>= f) :=
  Ensures.bind hx fun a _ => hf a

theorem andThen {P : β → Prop} {x : Run α} {f : α → Run β} (hx : Meets c x) (hf : ∀ a, Ensures c P (f a)) :
    Ensures c P (x >>= f) := Ensures.bind hx fun a _ => hf a

theorem bind_of {P : α → Prop} {x : Run α} {f : α → Run β} (hx : Meets c x) (hy : x.Yields P)
    (hf : ∀ a, P a → Meets c (f a)) : Meets c (x >>= f) :=
  (hx.and_yields hy).bind fun a ha => hf a ha.2

theorem ite {p : Prop} [Decidable p] {x y : Run α} (hx : Meets c x) (hy : Meets c y) :
    Meets c (if p then x else y) := by
  split
  · exact hx
  · exact hy

theorem map {x : Run α} (hx : Meets c x) (f : α → β) : Meets c (do return f (← x)) :=
  hx.bind fun _ => pure _

theorem of_ok {x : Run α} (h : ∀ w, ∃ a w', x w = .ok a w' ∧ w'.session = w.session ∧ w.heap.Grows w'.heap) :
    Meets c x := by
  intro w _
  obtain ⟨a, w', hx, hs, hheap⟩ := h w
  rw [hx]
  exact ⟨c.aside hs hheap, trivial⟩

theorem ofOutcome (x : Outcome α) : Meets c (ofOutcome x) := by
  cases x with
  | ok a => exact pure a
  | error f => exact fault f

private theorem ofExcept {x : Except Error α} (h : ∀ e, x = .error e → e.isOrdinary = true) :
    Meets c (ofExcept x) := by
  cases x with
  | ok a => exact pure a
  | error e => exact throw (c.ordinary (h e rfl))

theorem mapM {f : α → Run β} {list : List α} (h : ∀ a ∈ list, Meets c (f a)) : Meets c (list.mapM f) := by
  induction list with
  | nil => exact pure []
  | cons a rest ih =>
    rw [List.mapM_cons]
    refine bind (h a List.mem_cons_self) fun b => bind (ih fun a ha => ?_) fun bs => pure _
    exact h a (List.mem_cons_of_mem _ ha)

theorem foldlM {f : β → α → Run β} (h : ∀ b a, Meets c (f b a)) (list : List α) (b : β) :
    Meets c (list.foldlM f b) := by
  induction list generalizing b with
  | nil => exact pure b
  | cons a rest ih =>
    rw [List.foldlM_cons]
    exact bind (h b a) ih

theorem filterM {f : α → Run Bool} (h : ∀ a, Meets c (f a)) (list : List α) : Meets c (list.filterM f) := by
  have hloop (list kept : List α) : Meets c (list.filterAuxM f kept) := by
    induction list generalizing kept with
    | nil => exact pure kept
    | cons a rest ih => exact bind (h a) fun b => ih _
  exact bind (hloop list []) fun _ => pure _

end Meets

theorem meets_current (v : Value) : Meets c (current v) := .of_ok fun _ => ⟨_, _, rfl, rfl, .refl _⟩

theorem meets_store (v : Value) : Meets c (store v) := .of_ok fun _ => ⟨_, _, rfl, rfl, .of_contents rfl⟩

theorem meets_log (severity : Severity) (message : String) : Meets c (log severity message) :=
  .of_ok fun _ => ⟨_, _, rfl, rfl, .refl _⟩

theorem write_changed {v changed : Value} (h : Heap.Changed (w.heap.current v) changed) :
    ∃ w', write changed w = .ok () w' ∧ w'.session = w.session ∧ w.heap.Grows w'.heap := by
  have hgrows (n : Nat) (hn : changed.IsObject n) := h.grows hn
  generalize w.heap.current v = current at h
  cases h with
  | list id items items' =>
    cases id with
    | object n => exact ⟨_, rfl, rfl, hgrows n (.inl ⟨_, rfl⟩)⟩
    | _ => exact ⟨w, rfl, rfl, .refl _⟩
  | dict id entries entries' =>
    cases id with
    | object n => exact ⟨_, rfl, rfl, hgrows n (.inr ⟨_, rfl⟩)⟩
    | _ => exact ⟨w, rfl, rfl, .refl _⟩

end Run

def Application.Meets (c : Contract) (app : Application) : Prop := ∀ f bound, Run.Meets c (app.behave f bound)

open Run

variable {c : Contract} {app : Application}

section Calls

variable (happ : app.Meets c)
include happ

private theorem meets_runFunction (f : Function) (args : Arguments) : Meets c (runFunction app f args) := by
  have hlog : Meets c (Run.logCall ⟨f.name, args.positional.length, sortedNames (args.named.map (·.1))⟩) :=
    .of_ok fun _ => ⟨_, _, rfl, rfl, .refl _⟩
  exact hlog.bind fun _ => (Meets.ofOutcome _).bind fun bound => happ f bound

private theorem meets_callFunction (f : Function) (args : Arguments) : Meets c (callFunction app f args) := by
  unfold callFunction
  split
  · exact .pure _
  · exact meets_runFunction happ f args

private theorem meets_awaited (v : Value) : Meets c (awaited app v) := by
  unfold awaited
  split
  · exact meets_runFunction happ _ _
  · exact .pure _

end Calls

private theorem meets_callMethod (v : Value) (name : String) (args : Arguments) :
    Meets c (do callMethod (← Run.current v) name args) := by
  intro w hw
  rw [bind_ok (show Run.current v w = .ok (w.heap.current v) w from rfl)]
  unfold callMethod
  cases hcall : (w.heap.current v).callMethod Value.memberNamed name args with
  | error f => exact Meets.fault (c := c) (α := Value) f w hw
  | ok called =>
    obtain ⟨result, changed⟩ := called
    cases changed with
    | none => exact ⟨c.refl w, trivial⟩
    | some receiver =>
      obtain ⟨w', hwrite, hsession, hheap⟩ := write_changed (keepsObject_callMethod _ _ name args result receiver hcall)
      change Kept c _ w ((Run.write receiver >>= fun _ => pure result) w)
      rw [bind_ok hwrite]
      exact ⟨c.aside hsession hheap, trivial⟩

mutual

private theorem meets_followSteps (happ : app.Meets c) (vars v : Value) (steps : List Access) :
    Meets c (followSteps app vars v steps) := by
  match steps with
  | [] => exact meets_current v
  | s :: ss => exact (meets_followStep happ vars v s).bind fun v => meets_followSteps happ vars v ss
termination_by structural steps

theorem meets_followStep (happ : app.Meets c) (vars v : Value) (step : Access) :
    Meets c (followStep app vars v step) := by
  match step with
  | .member name => exact (meets_current v).bind fun _ => .ofOutcome _
  | .item index => exact (meets_current v).bind fun _ => .ofOutcome _
  | .apply fn args =>
    refine (meets_resolveAll happ vars args).bind fun args => ?_
    exact (meets_current v).bind fun v => meets_applyTo happ fn v args
  | .call name args =>
    have hargs := meets_resolveAll happ vars args
    unfold followStep
    cases name.text? with
    | none => exact .fault _
    | some name =>
      refine (meets_current v).bind fun v => ?_
      split
      · exact .pure _
      · split
        · exact hargs.bind fun args => meets_callMethod v name ⟨args, []⟩
        · exact hargs.bind fun args => meets_callFunction happ _ ⟨args, []⟩
        · exact hargs.bind fun args => .ofOutcome _
        · exact .pure _
  | .compare op other =>
    exact (meets_resolve happ vars other).bind fun w => (meets_current v).bind fun v => .ofOutcome _
  | .test p => exact (meets_current v).map _
  | .compute op other =>
    exact (meets_resolve happ vars other).bind fun w => (meets_current v).bind fun v => .ofOutcome _
termination_by structural step

theorem meets_resolve (happ : app.Meets c) (vars v : Value) : Meets c (resolve app vars v) := by
  cases v with
  | accessor id steps => exact meets_followSteps happ vars vars steps
  | _ => exact meets_current _
termination_by structural v

theorem meets_resolveAll (happ : app.Meets c) (vars : Value) (vs : List Value) :
    Meets c (resolveAll app vars vs) := by
  match vs with
  | [] => exact .pure _
  | v :: vs => exact (meets_resolve happ vars v).bind fun w => (meets_resolveAll happ vars vs).map _
termination_by structural vs

theorem meets_applyTo (happ : app.Meets c) (fn v : Value) (args : List Value) :
    Meets c (applyTo app fn v args) := by
  cases fn with
  | accessor id steps => exact meets_followSteps happ v v steps
  | function f => exact meets_callFunction happ f ⟨v :: args, []⟩
  | builtin b => exact .ofOutcome _
  | method receiver name =>
    exact meets_callMethod receiver name ⟨v :: args, []⟩
  | _ => exact .fault _
termination_by structural fn

end

section Handlers

variable (happ : app.Meets c)
include happ

theorem meets_callValue (fn : Value) (args : Arguments) : Meets c (callValue app fn args) := by
  cases fn with
  | accessor id steps =>
    unfold callValue
    dsimp only
    split
    · exact meets_followSteps happ _ _ steps
    · exact .fault _
  | function f => exact meets_callFunction happ f args
  | builtin b => exact .ofOutcome _
  | method receiver name =>
    exact meets_callMethod receiver name args
  | _ => exact .fault _

theorem meets_callHandler (fn vars session path : Value) : Meets c (callHandler app fn vars session path) :=
  (meets_callValue happ fn _).bind fun v => meets_awaited happ v

theorem meets_executeHandler (handlers : Handlers) (name : Value) (vars : Entries) :
    Meets c (executeHandler app handlers name vars) := by
  have hfind : Meets c (Run.ofExcept (findHandler handlers name)) := by
    refine .ofExcept fun e he => ?_
    unfold findHandler at he
    split at he
    · cases he
      rfl
    · split at he
      · cases he
      · cases he
        rfl
  refine hfind.bind fun fn => ?_
  dsimp only
  split
  · exact (Meets.fault _).bind fun _ => (meets_callValue happ _ _).bind fun v => meets_awaited happ v
  · exact (meets_callValue happ _ _).bind fun v => meets_awaited happ v

end Handlers

end Colloquy
