import Colloquy.Proofs.Flow.Naming

/-!
# Authoring errors

What can be wrong with a flow as its author wrote it has errors of its own. Everything else that may go wrong while a
flow is read or compiled is a fault.
-/

namespace Colloquy

/-- Whether an error tells of a mistake in a flow: of a command or something that it holds, of an id or a key, or of a
reference, a signal or a start that leads nowhere. -/
def Error.isAuthoring : Error → Bool
  | .unrecognized .. | .notFlows _ | .notCases _ | .caseWithoutId _ | .notItems _ | .notItem _ | .invalidItem ..
  | .notActions _ | .invalidAction .. | .untypedAction _ | .notAction .. | .badPathId _ | .badSegment ..
  | .severalColons _ | .foreignKey .. | .emptyPath | .unexpectedPath _ | .duplicateKey _ | .undefinedFlow ..
  | .outsideLoop .. | .invalidStart _ | .actionWithoutFlow .. | .actionWithoutId _ => true
  | _ => false

/-- What is read has a property, or reading fails with an authoring error. -/
def Authored {α : Type} (P : α → Prop) : Except Error α → Prop
  | .ok a => P a
  | .error e => e.isAuthoring = true

namespace Authored

variable {α β : Type} {P : α → Prop} {Q : β → Prop}

theorem bind {x : Except Error α} {f : α → Except Error β} (hx : Authored P x) (hf : ∀ a, P a → Authored Q (f a)) :
    Authored Q (x >>= f) := by
  cases x with
  | ok a => exact hf a hx
  | error e => exact hx

theorem ite {p : Prop} [Decidable p] {x y : Except Error α} (hx : p → Authored P x) (hy : ¬p → Authored P y) :
    Authored P (if p then x else y) := by
  split
  · exact hx ‹_›
  · exact hy ‹_›

theorem mapM {f : α → Except Error β} {list : List α} (h : ∀ a ∈ list, Authored Q (f a)) :
    Authored (fun bs => ∀ b ∈ bs, Q b) (list.mapM f) := by
  induction list with
  | nil => exact fun _ hb => by cases hb
  | cons a rest ih =>
    rw [List.mapM_cons]
    refine bind (h a List.mem_cons_self) fun b hb => ?_
    refine bind (ih fun a ha => h a (List.mem_cons_of_mem _ ha)) fun bs hbs => ?_
    exact List.forall_mem_cons.mpr ⟨hb, hbs⟩

theorem ok {x : Except Error α} (h : Authored P x) {a : α} (ha : x = .ok a) : P a := by
  subst ha
  exact h

theorem error {x : Except Error α} (h : Authored P x) {e : Error} (he : x = .error e) : e.isAuthoring = true := by
  subst he
  exact h

end Authored

/-- What fails only because of a mistake of the author. -/
abbrev BlamesAuthor {α : Type} (x : Except Error α) : Prop := Authored (fun _ => True) x

theorem Error.isAuthoring_of_isNaming {e : Error} (h : e.isNaming = true) : e.isAuthoring = true := by
  cases e <;> first | rfl | cases h

theorem Misnames.blamesAuthor {α : Type} {x : Except Error α} (h : Misnames x) : BlamesAuthor x := by
  cases x with
  | ok a => trivial
  | error e => exact Error.isAuthoring_of_isNaming (h e rfl)

theorem StartParam.check_blamesAuthor (param : Value) : BlamesAuthor (check param) :=
  .ite (fun _ => trivial) fun _ => rfl

end Colloquy
