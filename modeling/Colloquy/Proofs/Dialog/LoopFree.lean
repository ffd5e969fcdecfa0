import Mathlib.Data.List.Basic
import Mathlib.Data.List.Perm.Subperm
import Colloquy.Proofs.Compile.Order
import Colloquy.Proofs.Dialog.ClosedRuns
import Colloquy.Proofs.Direct.Simulation

/-!
# Runs of dialogs without loops

Without loops each flow jumps only to flows that were registered before it. So no run enters a flow twice, and each
comes to its end after fewer jumps than there are flows, whatever handlers give.
-/

namespace Colloquy

def Contract.anything : Contract where
  holds _ := True
  allows _ _ := True
  stops _ := True
  holds_of_allows _ _ := trivial
  trans _ _ := trivial
  aside _ _ := trivial
  ordinary _ := trivial

private theorem Contract.meets_anything {α : Type} (x : Run α) : Run.Meets .anything x := fun w _ => by
  cases x w <;> exact ⟨trivial, trivial⟩

private theorem Contract.anything_admits : Contract.anything.Admits where
  save _ := meets_anything _
  send _ := meets_anything _
  start _ _ _ := meets_anything _
  finish _ := meets_anything _
  sleep _ := meets_anything _

namespace Program

variable {p : Program}

/-- How many flows were registered before that of a key. -/
def rank (p : Program) (key : String) : Nat := p.keys.idxOf key

private theorem rank_lt_rank {before after : List (String × FlowHandler)} {key next : String} {handler : FlowHandler}
    (hflows : p.flows = before ++ (key, handler) :: after) (hkey : key ∉ before.map (·.1))
    (hnext : next ∈ before.map (·.1)) : p.rank next < p.rank key := by
  have hkeys : p.keys = before.map (·.1) ++ key :: after.map (·.1) := by simp [keys, hflows]
  have hlt := List.idxOf_lt_length_iff.mpr hnext
  rw [rank, rank, hkeys, List.idxOf_append_of_mem hnext, List.idxOf_append_of_notMem hkey]
  omega

end Program

namespace Machine

variable {m : Machine} {flows : List (String × FlowHandler)}

def withFlows (m : Machine) (flows : List (String × FlowHandler)) : Machine :=
  { m with program := { m.program with flows := flows } }

private theorem runStep_withFlows (path : FlowPath) (vars : Value) (step : Step) :
    (m.withFlows flows).runStep path vars step = m.runStep path vars step := by
  cases step <;> rfl

private theorem runSteps_withFlows (key : String) (path : FlowPath) (targets : Targets) (vars : Value)
    (steps : List Step) :
    (m.withFlows flows).runSteps key path targets vars steps = m.runSteps key path targets vars steps := by
  induction steps generalizing vars with
  | nil => rfl
  | cons step rest ih => simp only [runSteps_cons, runStep_withFlows, ih]

private theorem runHandler_withFlows (path vars : Value) (handler : FlowHandler) :
    (m.withFlows flows).runHandler path vars handler = m.runHandler path vars handler := by
  cases handler with
  | sequence key own steps targets => exact runSteps_withFlows key own targets vars steps
  | loop id at_ condition body exit => rfl
  | external fn => rfl

private theorem hop_descends (hordered : m.program.Ordered) {path vars target vars' : Value} {key : String}
    {w w' : World} (hkey : m.program.key path = .ok key) (hhop : m.hop path vars w = .ok (some (target, vars')) w') :
    ∃ next, m.program.key target = .ok next ∧ m.program.rank next < m.program.rank key := by
  obtain ⟨handler, w₁, hfind, hhop⟩ := Run.bind_eq_ok hhop
  obtain ⟨result, w₂, hrun, hland⟩ := Run.bind_eq_ok hhop
  have hl : m.program.flows.lookup key = some handler := by
    cases hfound : m.program.find path with
    | error e =>
      rw [hfound] at hfind
      cases hfind
    | ok own =>
      rw [hfound] at hfind
      cases hfind
      obtain ⟨own, hown, hl⟩ := Program.find_eq_ok.mp hfound
      exact Except.ok.inj (hown.symm.trans hkey) ▸ hl
  obtain ⟨before, after, hflows, hfirst, hclosed⟩ := Program.Descends.lookup hordered hl
  have hkept := ensures_runHandler (m := m.withFlows before) (fun _ _ => Contract.meets_anything _)
    Contract.anything_admits hclosed path vars w₁ trivial
  rw [runHandler_withFlows, hrun] at hkept
  cases result with
  | jump target vars' =>
    cases hland
    obtain ⟨own, rfl, next, hnext, hregistered⟩ := hkept.2
    exact ⟨next, hnext, Program.rank_lt_rank hflows hfirst (Program.lookup_ne_none_iff.mp hregistered)⟩
  | signal s => exact hkept.2.elim
  | done | update => cases hland

/-! ## Runs -/

/-- Keys of the flows that a run enters, in order; at most `fuel` of them. -/
def entered (m : Machine) : Nat → Option (Value × Value) → World → List String
  | 0, _, _ => []
  | _ + 1, none, _ => []
  | fuel + 1, some (path, vars), w =>
    match m.program.key path with
    | .error _ => []
    | .ok key => key ::
      match m.hop path vars w with
      | .ok next w' => m.entered fuel next w'
      | .error _ _ => []

private theorem entered_descends (hordered : m.program.Ordered) (fuel : Nat) {path : Value} {key : String}
    (hkey : m.program.key path = .ok key) (vars : Value) (w : World) :
    ∃ later, m.entered (fuel + 1) (some (path, vars)) w = key :: later ∧
      (key :: later).Pairwise fun own next => m.program.rank next < m.program.rank own := by
  induction fuel generalizing path key vars w with
  | zero =>
    refine ⟨[], ?_, List.pairwise_singleton _ _⟩
    simp only [entered, hkey]
    cases m.hop path vars w <;> rfl
  | succ fuel ih =>
    rw [entered]
    simp only [hkey]
    cases hhop : m.hop path vars w with
    | error e w' => exact ⟨[], rfl, List.pairwise_singleton _ _⟩
    | ok next w' =>
      match next with
      | none => exact ⟨[], rfl, List.pairwise_singleton _ _⟩
      | some (target, vars') =>
        obtain ⟨own, hown, hlt⟩ := hop_descends hordered hkey hhop
        obtain ⟨later, hlater, hpairs⟩ := ih hown vars' w'
        refine ⟨own :: later, congrArg (key :: ·) hlater, List.pairwise_cons.mpr ⟨fun other hother => ?_, hpairs⟩⟩
        rcases List.mem_cons.mp hother with rfl | hother
        · exact hlt
        · exact Nat.lt_trans ((List.pairwise_cons.mp hpairs).1 other hother) hlt

private theorem follow_ends (hordered : m.program.Ordered) {fuel : Nat} {jump : Option (Value × Value)}
    (hjump : ∀ path vars, jump = some (path, vars) →
      ∃ key, m.program.key path = .ok key ∧ m.program.rank key < fuel) (w : World) :
    ∀ next w', m.follow fuel jump w ≠ .ok (some next) w' := by
  induction fuel generalizing jump w with
  | zero =>
    cases jump with
    | none => rintro next w' ⟨⟩
    | some jump =>
      obtain ⟨key, -, hlt⟩ := hjump jump.1 jump.2 rfl
      cases hlt
  | succ fuel ih =>
    match jump with
    | none => rintro next w' ⟨⟩
    | some (path, vars) =>
      intro next w' hfollow
      obtain ⟨key, hkey, hlt⟩ := hjump path vars rfl
      obtain ⟨after, w₁, hhop, hfollow⟩ := Run.bind_eq_ok hfollow
      refine ih (fun target vars' hafter => ?_) w₁ next w' hfollow
      subst hafter
      obtain ⟨own, hown, hbelow⟩ := hop_descends hordered hkey hhop
      exact ⟨own, hown, by omega⟩

private theorem entered_spec (hordered : m.program.Ordered) {path : Value} (hadmits : m.program.Admits path)
    (fuel : Nat) (vars : Value) (w : World) :
    (m.entered fuel (some (path, vars)) w).Nodup ∧ m.entered fuel (some (path, vars)) w ⊆ m.program.keys := by
  cases fuel with
  | zero => exact ⟨List.nodup_nil, List.nil_subset _⟩
  | succ fuel =>
    cases hkey : m.program.key path with
    | error e =>
      have hnone : m.entered (fuel + 1) (some (path, vars)) w = [] := by simp only [entered, hkey]
      exact hnone ▸ ⟨List.nodup_nil, List.nil_subset _⟩
    | ok key =>
      have hmem := Program.lookup_ne_none_iff.mp (hadmits key hkey)
      obtain ⟨later, hlater, hpairs⟩ := entered_descends hordered fuel hkey vars w
      rw [hlater]
      refine ⟨hpairs.imp fun hlt heq => ?_, List.cons_subset.mpr ⟨hmem, fun own hown => ?_⟩⟩
      · exact absurd (heq ▸ hlt) (Nat.lt_irrefl _)
      · have hlt := (List.pairwise_cons.mp hpairs).1 own hown
        exact List.idxOf_lt_length_iff.mp (Nat.lt_trans hlt (List.idxOf_lt_length_iff.mpr hmem))

/-- A run that starts at a registered flow comes to its end within as many flows as there are. -/
theorem follow_length_ends (hordered : m.program.Ordered) {path : Value} (hadmits : m.program.Admits path)
    (hpos : 0 < m.program.keys.length) (vars : Value) (w : World) :
    ∀ next w', m.follow m.program.keys.length (some (path, vars)) w ≠ .ok (some next) w' := by
  cases hkey : m.program.key path with
  | error e =>
    intro next w' hfollow
    obtain ⟨fuel, hfuel⟩ : ∃ fuel, m.program.keys.length = fuel + 1 := ⟨_, (Nat.succ_pred_eq_of_pos hpos).symm⟩
    rw [hfuel] at hfollow
    obtain ⟨after, w₁, hhop, -⟩ := Run.bind_eq_ok hfollow
    obtain ⟨handler, w₂, hfind, -⟩ := Run.bind_eq_ok hhop
    have hfails : m.program.find path = .error e := by simp [Program.find, hkey, bind, Except.bind]
    rw [hfails] at hfind
    cases hfind
  | ok key =>
    refine follow_ends hordered (fun target vars' hjump => ?_) w
    cases hjump
    exact ⟨key, hkey, List.idxOf_lt_length_iff.mpr (Program.lookup_ne_none_iff.mp (hadmits key hkey))⟩

end Machine

/-- The flows of a dialog without loops jump to flows that were registered before them. -/
theorem build_ordered {name source modelName : Value} {settings : Settings} {p : Program}
    {entries : List (String × FlowPath)} (hbuild : Program.build name source modelName settings = .ok (p, entries))
    (hfree : ∀ flows, Normal.described source = .ok flows →
      ∀ entry ∈ flows, ∀ part ∈ flowParts entry.2, part.isLoop = false) : p.Ordered := by
  refine build_induction hbuild (fun p hmake => ?_) (fun flows hflows entry hentry path p q hjob hp => ?_)
    fun p entries hp => ?_
  · obtain ⟨own, rfl⟩ := make_eq hmake
    exact .nil
  · exact hjob.ordered (hfree flows hflows entry hentry) (.blank p) hp
  · exact hp.of_same (p.extends_startingWith entries).name (p.startingWith_flows entries)

end Colloquy
