import Colloquy.Proofs.Compile.DefaultIds
import Colloquy.Proofs.Dialog.ClosedRuns

/-!
# Dialogs with default ids

A dialog is refused if two flows were to be registered under one key. With default ids this never happens: the
entry points are told apart by their own ids, and everything else is compiled in a region of its own.
-/

namespace Colloquy

open Compile

private theorem within_entryPoints {flows : List (String × Flow)} (hdistinct : (flows.map (·.1)).Nodup)
    (hrelative : ∀ entry ∈ flows, FlowPath.isAbsolute entry.1 = false)
    (htrees : ∀ entry ∈ flows, FlowTakesDefaultIds entry.2) :
    Within (FlowPath.Beneath [] (· ∈ flows.map (·.1))) (entryPoints flows) := by
  induction flows with
  | nil =>
    rw [entryPoints]
    exact .pure _
  | cons entry rest ih =>
    obtain ⟨id, flow⟩ := entry
    obtain ⟨hfresh, hdistinct⟩ := List.nodup_cons.mp hdistinct
    obtain ⟨hid, hrelative⟩ := List.forall_mem_cons.mp hrelative
    obtain ⟨htree, htrees⟩ := List.forall_mem_cons.mp htrees
    have hrest := ih hdistinct hrelative htrees
    rw [entryPoints]
    refine .append (List.forall_mem_nil _) hid fun hpath => ?_
    have hown := (within_compileFlow htree hpath {} 0).beneath
    refine (hown.beside (fun _ => hrest.before fun _ => .pure _) ?_).mono fun _ hin => hin.mono fun other hother => ?_
    · rintro _ rfl
      exact hfresh
    · exact List.mem_cons.mpr hother

private theorem quiet_checkReferences : Quiet checkReferences := by
  intro p hfree
  rcases checkReferences_cases p with ⟨hok, -⟩ | ⟨key, hmissing⟩
  · rw [hok]
    exact Within.pure () p hfree
  · rw [hmissing]
    exact fun _ h => by cases h

/-- A dialog is never refused because a flow key is taken, if its entry points have ids of their own and all
commands in its flows that compile flows have their default ids, with nothing but the cases of a switch told
apart by what is written. -/
theorem default_ids_never_collide {source : Value} {flows : List (String × Flow)}
    (hdescribed : Normal.described source = .ok flows) (hdistinct : (flows.map (·.1)).Nodup)
    (hrelative : ∀ entry ∈ flows, FlowPath.isAbsolute entry.1 = false)
    (htrees : ∀ entry ∈ flows, FlowTakesDefaultIds entry.2) (name modelName : Value) (settings : Settings)
    (key : String) : Program.build name source modelName settings ≠ .error (.duplicateKey key) := by
  have hentries := within_entryPoints hdistinct hrelative htrees
  have hflows : Within (FlowPath.Beneath [] (· ∈ flows.map (·.1))) (Compile.flows source) := by
    unfold Compile.flows
    rw [hdescribed, show Compile.ofExcept (.ok flows : Except Error _) = pure flows from rfl, pure_bind]
    have hstarts (entries : List (String × FlowPath)) : Quiet (modify fun p => p.startingWith entries) := by
      refine .modify (fun p => ?_) fun p => p.startingWith_flows entries
      exact (p.extends_startingWith entries).name
    refine hentries.before fun entries => quiet_checkReferences.before fun _ => ?_
    exact (hstarts entries).before fun _ => .pure _
  intro hbuild
  unfold Program.build at hbuild
  cases hmake : Program.make name modelName settings with
  | error e =>
    rw [hmake] at hbuild
    obtain rfl : e = .duplicateKey key := Except.error.inj hbuild
    unfold Program.make Dialog.make at hmake
    split at hmake
    · split at hmake <;> cases hmake
    · cases hmake
  | ok p =>
    have hadds := hflows p fun path _ _ ⟨own, _, hl⟩ => hl (by rw [(make_eq_ok hmake).1]; rfl)
    rw [hmake] at hbuild
    simp only [bind, Except.bind] at hbuild
    cases hresult : Compile.flows source p with
    | ok entries q =>
      rw [hresult] at hbuild
      cases hbuild
    | error e q =>
      rw [hresult] at hbuild hadds
      exact hadds key (Except.error.inj hbuild)

/-- A loop with a `break` inside and a text after it collides with nothing. -/
theorem leftLoop_never_collides : (leftLoopFlow ≠ [] ∧ FlowTakesDefaultIds leftLoopFlow) ∧
    ∀ key, Program.build (.str "Trial") leftLoop .none {} ≠ .error (.duplicateKey key) := by
  have htree : FlowTakesDefaultIds leftLoopFlow := ⟨⟨rfl, trivial, trivial⟩, ⟨rfl, nofun⟩, trivial⟩
  refine ⟨⟨by simp [leftLoopFlow], htree⟩, fun key => ?_⟩
  exact default_ids_never_collide described_leftLoop (by simp) (by simp [FlowPath.isAbsolute])
    (by simpa using htree) _ _ _ key

end Colloquy
