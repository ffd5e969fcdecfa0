import Mathlib.Logic.Relation
import Colloquy.Proofs.Run.Expansion

/-!
# What an expansion does

An expansion calls handlers, renders texts, executes named handlers and inverts values. What belongs to a parameter is
read off its tree: the works of the parts of a collection may come in any order as long as each part keeps its own, and
the value has the shape of the parameter.
-/

namespace Colloquy

open Run

/-! ## Interleaving -/

/-- Two lists put together into one that keeps the order of each of them. -/
inductive Interleaved {α : Type} : List α → List α → List α → Prop where
  | nil : Interleaved [] [] []
  | left {a : α} {l r all : List α} (h : Interleaved l r all) : Interleaved (a :: l) r (a :: all)
  | right {a : α} {l r all : List α} (h : Interleaved l r all) : Interleaved l (a :: r) (a :: all)

namespace Interleaved

variable {α : Type} {l r all l' r' all' : List α} {a : α}

private theorem append_left (l : List α) (h : Interleaved l' r all) : Interleaved (l ++ l') r (l ++ all) := by
  induction l with
  | nil => exact h
  | cons a rest ih => exact .left ih

private theorem append_right (r : List α) (h : Interleaved l r' all) : Interleaved l (r ++ r') (r ++ all) := by
  induction r with
  | nil => exact h
  | cons a rest ih => exact .right ih

theorem append (h : Interleaved l r all) (h' : Interleaved l' r' all') :
    Interleaved (l ++ l') (r ++ r') (all ++ all') := by
  induction h with
  | nil => exact h'
  | left _ ih => exact .left ih
  | right _ ih => exact .right ih

theorem concat (l r : List α) : Interleaved l r (l ++ r) := by
  have hnil : Interleaved ([] : List α) [] [] := .nil
  simpa using (hnil.append_right r).append_left l

theorem mem_iff (h : Interleaved l r all) : a ∈ all ↔ a ∈ l ∨ a ∈ r := by
  induction h with
  | nil => simp
  | left _ ih => simp [ih, or_assoc]
  | right _ ih => simp [ih, or_left_comm]

end Interleaved

/-! ## Parts of a parameter -/

/-- Name and arguments that an `exec` mapping gives: those of a pair come before those of the key `args`. -/
inductive Executes (entries : Entries) : Value → Value → Prop where
  | pair {target name args : Value} (htarget : entries.named? "exec" = some target)
      (hpair : target.sequence? = some [name, args]) : Executes entries name args
  | single {target name : Value} (htarget : entries.named? "exec" = some target)
      (hsingle : target.sequence? = some [name]) : Executes entries name (entries.named "args")
  | plain {target : Value} (htarget : entries.named? "exec" = some target)
      (hsingle : ∀ name, target.sequence? ≠ some [name]) (hpair : ∀ name args, target.sequence? ≠ some [name, args]) :
      Executes entries target (entries.named "args")

theorem Executes.hasName {entries : Entries} {name args : Value} (h : Executes entries name args) :
    entries.hasName "exec" = true := by
  cases h with
  | pair htarget | single htarget | plain htarget => rw [Entries.hasName, htarget]; rfl

theorem Executes.execTarget_eq {entries : Entries} {name args : Value} (h : Executes entries name args) :
    Expander.execTarget entries = (name, args) := by
  have hnamed {target : Value} (htarget : entries.named? "exec" = some target) : entries.named "exec" = target := by
    rw [Entries.named, htarget]
    rfl
  cases h with
  | pair htarget hpair => rw [Expander.execTarget, hnamed htarget, hpair]
  | single htarget hsingle => rw [Expander.execTarget, hnamed htarget, hsingle]
  | plain htarget hsingle hpair =>
    unfold Expander.execTarget
    rw [hnamed htarget]
    dsimp only
    split
    · rename_i hs
      exact absurd hs (hsingle _)
    · rename_i hs
      exact absurd hs (hpair _ _)
    · rfl

theorem executes_execTarget {entries : Entries} (h : entries.hasName "exec" = true) :
    Executes entries (Expander.execTarget entries).1 (Expander.execTarget entries).2 := by
  obtain ⟨target, htarget⟩ := Option.isSome_iff_exists.mp h
  have hall : ∃ name args, Executes entries name args := by
    by_cases hsingle : ∃ name, target.sequence? = some [name]
    · obtain ⟨name, hsingle⟩ := hsingle
      exact ⟨_, _, .single htarget hsingle⟩
    · by_cases hpair : ∃ name args, target.sequence? = some [name, args]
      · obtain ⟨name, args, hpair⟩ := hpair
        exact ⟨_, _, .pair htarget hpair⟩
      · exact ⟨_, _, .plain htarget (not_exists.mp hsingle) fun name args h => hpair ⟨name, args, h⟩⟩
  obtain ⟨name, args, hall⟩ := hall
  rw [hall.execTarget_eq]
  exact hall

/-- A value whose expansion is part of the expansion of another. -/
inductive Holds : Value → Value → Prop where
  | item {id : Identity} {items : List Value} {v : Value} (h : v ∈ items) : Holds (.list id items) v
  | member {items : List Value} {v : Value} (h : v ∈ items) : Holds (.tuple items) v
  | negated {param : Value} : Holds (.negated param) param
  | entry {id : Identity} {entries : Entries} {e : Value × Value} (hexec : entries.hasName "exec" = false)
      (h : e ∈ entries) : Holds (.dict id entries) e.2
  | args {id : Identity} {entries : Entries} {name args : Value} (h : Executes entries name args)
      (hsome : args.isNone = false) : Holds (.dict id entries) args

section Holds

variable {own : Value} {id : Identity} {entries : Entries}

theorem holds_list_iff {items : List Value} : Holds (.list id items) own ↔ own ∈ items :=
  ⟨fun h => by cases h with | item h => exact h, .item⟩

theorem holds_dict_iff (hexec : entries.hasName "exec" = false) :
    Holds (.dict id entries) own ↔ own ∈ entries.map (·.2) := by
  rw [List.mem_map]
  constructor
  · intro h
    cases h with
    | entry _ h => exact ⟨_, h, rfl⟩
    | args h => cases hexec.symm.trans h.hasName
  · rintro ⟨e, he, rfl⟩
    exact .entry hexec he

theorem holds_exec_iff {name args : Value} (h : Executes entries name args) :
    Holds (.dict id entries) own ↔ own = args ∧ args.isNone = false := by
  constructor
  · intro hown
    cases hown with
    | entry hno => cases hno.symm.trans h.hasName
    | args hown hsome =>
      obtain ⟨rfl, rfl⟩ := Prod.mk.inj (h.execTarget_eq.symm.trans hown.execTarget_eq)
      exact ⟨rfl, hsome⟩
  · rintro ⟨rfl, hsome⟩
    exact .args h hsome

end Holds

/-- The parts of a parameter, itself included. -/
abbrev PartOf (param part : Value) : Prop := Relation.ReflTransGen Holds param part

namespace Value

private theorem size_lt_of_sequence? {v : Value} {items : List Value} (h : v.sequence? = some items) {item : Value}
    (hmem : item ∈ items) : item.size < v.size := by
  have hle := size_le_sizeAll hmem
  cases v with
  | list | tuple =>
    obtain rfl := Option.some.inj h
    rw [size]
    omega
  | _ => cases h

private theorem size_le_sizeEntries {entries : Entries} {e : Value × Value} (h : e ∈ entries) :
    e.2.size ≤ sizeEntries entries := by
  induction entries with
  | nil => cases h
  | cons first rest ih =>
    rw [sizeEntries]
    obtain rfl | h := List.mem_cons.mp h
    · omega
    · have := ih h
      omega

private theorem size_le_of_named? {entries : Entries} {name : String} {v : Value} (h : entries.named? name = some v) :
    v.size ≤ sizeEntries entries := by
  obtain ⟨e, he, rfl⟩ := Option.map_eq_some_iff.mp h
  exact size_le_sizeEntries (List.mem_of_find?_eq_some he)

private theorem size_lt_of_executes {entries : Entries} {name args : Value} (h : Executes entries name args)
    (hsome : args.isNone = false) (id : Identity) : args.size < (dict id entries).size := by
  have hargs : (entries.named "args").isNone = false →
      (entries.named "args").size < (dict id entries).size := by
    intro hsome
    cases hnamed : entries.named? "args" with
    | none =>
      rw [Entries.named, hnamed] at hsome
      cases hsome
    | some v =>
      have hle := size_le_of_named? hnamed
      rw [Entries.named, hnamed, size]
      exact Nat.lt_of_le_of_lt hle (by omega)
  cases h with
  | pair htarget hpair =>
    have hle := size_le_of_named? htarget
    have hlt := size_lt_of_sequence? hpair (List.mem_cons_of_mem _ (List.mem_singleton_self args))
    rw [size]
    omega
  | single => exact hargs hsome
  | plain => exact hargs hsome

theorem size_lt_of_holds {v part : Value} (h : Holds v part) : part.size < v.size := by
  cases h with
  | item h =>
    have := size_le_sizeAll h
    rw [size]
    omega
  | member h =>
    have := size_le_sizeAll h
    rw [size]
    omega
  | negated =>
    rw [size]
    omega
  | entry _ h =>
    have := size_le_sizeEntries h
    rw [size]
    omega
  | args h hsome => exact size_lt_of_executes h hsome _

end Value

/-! ## Works -/

/-- One thing that an expansion asks for. -/
inductive Work where
  /-- A leaf that is called. -/
  | handler (fn : Value)
  | text (s : String)
  /-- A named handler, with arguments that are laid over the variables. -/
  | named (name : String) (args : Option Value)
  | inversion (v : Value)

/-- Works in the order in which they happen, each with its result. -/
abbrev Trace := List (Work × Value)

namespace Expander

/-- Does one thing: everything is done with the same variables, session and path. -/
def perform (x : Expander) : Work → Run Value
  | .handler fn => callHandler x.app fn x.vars x.session x.path
  | .text s => Template.render x.app s x.vars
  | .named name none => x.execute name (.dict .anonymous [])
  | .named name (some args) => do x.execute name (← Run.store args)
  | .inversion v => do return .bool !(← Run.current v).truthy

/-- From one world to another, exactly these works happen, with these results. -/
inductive Happens (x : Expander) : World → Trace → World → Prop where
  | nil {w : World} : Happens x w [] w
  | cons {w w₁ w' : World} {work : Work} {v : Value} {trace : Trace} (h : x.perform work w = .ok v w₁)
      (hrest : Happens x w₁ trace w') : Happens x w ((work, v) :: trace) w'

theorem Happens.append {x : Expander} {w w₁ w' : World} {trace more : Trace} (h : Happens x w trace w₁)
    (h' : Happens x w₁ more w') : Happens x w (trace ++ more) w' := by
  induction h with
  | nil => exact h'
  | cons h _ ih => exact .cons h (ih h')

end Expander

def Value.isLeaf : Value → Bool
  | .negated _ | .list .. | .tuple _ | .dict .. => false
  | v => v.text?.isNone && !Expander.calls v

mutual

/-- What the expansion of a parameter does, and the value it gives. -/
inductive Fanned : Value → Trace → Value → Prop where
  | leaf {v : Value} (h : v.isLeaf = true) : Fanned v [] v
  | text {param v : Value} {s : String} (h : param.text? = some s) : Fanned param [(.text s, v)] v
  | handler {fn v : Value} (h : Expander.calls fn = true) : Fanned fn [(.handler fn, v)] v
  | negated {param v u : Value} {trace : Trace} (h : Fanned param trace v) :
      Fanned (.negated param) (trace ++ [(.inversion v, u)]) u
  | list {id : Identity} {items vs : List Value} {trace : Trace} (h : FannedAll items trace vs) :
      Fanned (.list id items) trace (.ofList vs)
  | tuple {items vs : List Value} {trace : Trace} (h : FannedAll items trace vs) :
      Fanned (.tuple items) trace (.ofList vs)
  | dict {id : Identity} {entries : Entries} {vs : List Value} {trace : Trace}
      (hexec : entries.hasName "exec" = false) (h : FannedAll (entries.map (·.2)) trace vs) :
      Fanned (.dict id entries) trace
        (.dict .anonymous (((entries.map (·.1)).zip vs).filter fun (_, v) => !v.isNone))
  | bare {id : Identity} {entries : Entries} {name args v : Value} {s : String} (htarget : Executes entries name args)
      (hname : name.text? = some s) (hargs : args.isNone = true) :
      Fanned (.dict id entries) [(.named s none, v)] v
  | overlaid {id : Identity} {entries : Entries} {name args own v : Value} {s : String} {trace : Trace}
      (htarget : Executes entries name args) (hname : name.text? = some s) (hargs : args.isNone = false)
      (h : Fanned args trace own) : Fanned (.dict id entries) (trace ++ [(.named s (some own), v)]) v

/-- What the expansions of several parameters do side by side, and the values they give. -/
inductive FannedAll : List Value → Trace → List Value → Prop where
  | nil : FannedAll [] [] []
  | cons {param v : Value} {params vs : List Value} {own others all : Trace} (h : Fanned param own v)
      (hrest : FannedAll params others vs) (hall : Interleaved own others all) :
      FannedAll (param :: params) all (v :: vs)

end

end Colloquy
