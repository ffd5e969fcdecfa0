import Mathlib.Logic.Relation
import Colloquy.Proofs.Compile.Script

/-!
# What compiling changes

Compiling may fail at any point, and what it did before stays. So whatever part of a flow is compiled, and however
that ends, the program went through a sequence of small changes: a flow is registered somewhere below the path, a
warning or a reference is noted down, or a flow that is registered is entered in a table of the dialog. What each
change preserves is preserved by all of compiling.
-/

namespace Colloquy

namespace Program

inductive Change (ids : String → Prop) (root : FlowPath) : Program → Program → Prop where
  | register {p q path key handler} (hpath : root.Leads ids path) (hkey : p.pathKey path = .ok key)
      (hadd : p.add key handler = .ok q) : Change ids root p q
  | warn (p message) : Change ids root p (p.warned message)
  | refer (p key) : Change ids root p (p.referring key)
  | await {p path tag} (target) (hkey : p.pathKey path = .ok tag) (hl : p.flows.lookup tag ≠ none) :
      Change ids root p (p.awaiting target tag path)
  | offer {p path key} (kind) (hkey : p.pathKey path = .ok key) (hl : p.flows.lookup key ≠ none) :
      Change ids root p (p.offering kind key path)

abbrev Changes (ids : String → Prop) (root : FlowPath) : Program → Program → Prop :=
  Relation.ReflTransGen (Change ids root)

end Program

namespace Compile

variable {α β : Type} {r : CompileRule} {root : FlowPath} {p : Program}

/-- How compiling may end: the program went through changes, and errors are those of the rule. -/
def Outcome (r : CompileRule) (root : FlowPath) (p : Program) : EStateM.Result Error Program α → Prop
  | .ok _ q => p.Changes r.ids root q
  | .error e q => p.Changes r.ids root q ∧ r.fails e

private theorem Outcome.after {q : Program} {x : EStateM.Result Error Program α} (h : Outcome r root q x)
    (hq : p.Changes r.ids root q) : Outcome r root p x := by
  cases x with
  | ok a s => exact Relation.ReflTransGen.trans hq h
  | error e s => exact ⟨Relation.ReflTransGen.trans hq h.1, h.2⟩

/-- Compiling makes changes only and fails as the rule allows. -/
def Makes (r : CompileRule) (root : FlowPath) (x : Compile α) (p : Program) : Prop := Outcome r root p (x p)

namespace Makes

theorem pure (a : α) : Makes r root (pure a : Compile α) p := .refl

private theorem throw {e : Error} (h : r.fails e) : Makes r root (throw e : Compile α) p := ⟨.refl, h⟩

theorem bind {x : Compile α} {f : α → Compile β} (hx : Makes r root x p)
    (hf : ∀ a q, x p = .ok a q → Makes r root (f a) q) : Makes r root (x >>= f) p := by
  change Outcome r root p (EStateM.bind x f p)
  unfold EStateM.bind
  unfold Makes at hx
  cases hr : x p with
  | error e q =>
    rw [hr] at hx
    exact hx
  | ok a q =>
    rw [hr] at hx
    exact (hf a q hr).after hx

private theorem ofExcept {x : Except Error α} (h : BlamesAuthor x) : Makes r root (ofExcept x) p := by
  cases x with
  | ok a => exact .pure a
  | error e => exact .throw (r.authoring e h)

theorem append {path : FlowPath} {id : String} {f : FlowPath → Compile α}
    (hf : ∀ own, FlowPath.append path id = .ok own → Makes r root (f own) p) :
    Makes r root (append path id >>= f) p := by
  refine .bind (.ofExcept (FlowKey.misnames_append path id).blamesAuthor) fun own q h => ?_
  obtain ⟨hpath, rfl⟩ := append_eq_ok.mp h
  exact hf own hpath

end Makes

end Compile

namespace Program

variable {α : Type} {r : CompileRule} {root : FlowPath} {known : String → Prop} {p q : Program} {entry : Entry}

private theorem Entry.Sound.change (h : entry.Sound r root p.dialog.name known)
    (hknown : ∀ key, known key → p.flows.lookup key ≠ none)
    (henter : p.enter entry = .ok q) : p.Change r.ids root q := by
  cases h with
  | register hpath hkey => exact .register hpath hkey henter
  | warn message =>
    cases henter
    exact .warn p message
  | refer key =>
    cases henter
    exact .refer p key
  | await hkey htag =>
    cases henter
    exact .await _ hkey (hknown _ htag)
  | offer hkey hown =>
    cases henter
    exact .offer _ hkey (hknown _ hown)

theorem lookup_of_enter {key : String} (henter : p.enter entry = .ok q)
    (h : p.flows.lookup key ≠ none ∨ entry.key? = some key) : q.flows.lookup key ≠ none := by
  cases entry with
  | register own handler =>
    have hadd : p.add own handler = .ok q := henter
    rcases h with h | h
    · obtain ⟨old, hold⟩ := Option.ne_none_iff_exists'.mp h
      rw [(extends_of_add hadd).flows key old hold]
      exact Option.some_ne_none old
    · cases h
      simp [lookup_of_add hadd]
  | offer kind own path =>
    cases henter
    unfold offering
    split <;> exact h.resolve_right nofun
  | _ =>
    cases henter
    exact h.resolve_right nofun

private theorem outcome_perform {entries : List Entry} {ending : Except Error α}
    (h : AllSound r root p.dialog.name known entries) (hfails : ∀ e, ending = .error e → r.fails e)
    (hknown : ∀ key, known key → p.flows.lookup key ≠ none) :
    Compile.Outcome r root p (p.perform ending entries) := by
  induction entries generalizing p known with
  | nil =>
    cases ending with
    | ok a => exact .refl
    | error e => exact ⟨.refl, hfails e rfl⟩
  | cons entry rest ih =>
    rw [perform]
    cases hs : p.enter entry with
    | error e =>
      obtain ⟨key, handler, -, -, rfl⟩ := enter_eq_error hs
      exact ⟨.refl, r.authoring _ rfl⟩
    | ok q =>
      have hsound : AllSound r root q.dialog.name (fun key => known key ∨ entry.key? = some key) rest := by
        rw [name_of_enter hs]
        exact h.2
      have hrest := ih hsound fun key hkey => lookup_of_enter hs (hkey.imp_left (hknown key))
      exact hrest.after (.single (h.1.change hknown hs))

end Program

open Compile

theorem makes_compileFlow {r : CompileRule} {root path : FlowPath} {flow : Flow}
    (h : ∀ part ∈ flowParts flow, part.Obeys r) (hpath : r.Places root path) (targets : Targets) (index : Nat)
    (p : Program) : Makes r root (compileFlow flow path targets index) p := by
  have hscripted : Scripted r root p.dialog.name (fun _ => False) (FlowKey.ofPath p.dialog.name path = .ok ·)
      (compileFlow flow path targets index) := scripted_compileFlow h hpath targets index
  obtain ⟨entries, ending, hsound, hfails, -, hperform⟩ := hscripted
  unfold Makes
  rw [hperform p rfl]
  exact Program.outcome_perform hsound hfails nofun

end Colloquy
