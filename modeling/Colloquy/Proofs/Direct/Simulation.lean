import Colloquy.Proofs.Direct.Interpreter
import Colloquy.Proofs.Run.Contract

/-!
# The machine follows the interpreter

When a run of the machine and a direct run are the same, and how agreement is put together: from an
action that both begin with, from one hop of the machine, from the targets of a flow. The machine may
need any number of jumps. If a loop of the direct run was cut off after `n` rounds, the machine has
made `n` jumps or more when it gets there, so two endless runs agree as far as one cares to look.
-/

namespace Colloquy

/-- The jump that the machine is left with fits the ending of a direct run, in the same world. -/
inductive Fits : EStateM.Result Error World (Option (Value × Value)) → EStateM.Result Error World Ending → Prop
  | ended {ending : Ending} {w : World} (h : ending ≠ .cut) : Fits (.ok none w) (.ok ending w)
  | cut {jump : Value × Value} {w : World} : Fits (.ok (some jump) w) (.ok .cut w)
  | failed {e : Error} {w : World} : Fits (.error e w) (.error e w)

namespace Run

/-- The end of a run, as far as one can see of the world. -/
def seen {α : Type} (view : World → World) : EStateM.Result Error World α → EStateM.Result Error World α
  | .ok a w => .ok a (view w)
  | .error e w => .error e (view w)

private theorem seen_id {α : Type} (r : EStateM.Result Error World α) : seen id r = r := by
  cases r <;> rfl

theorem ofOutcome_map {α β : Type} (f : α → β) (x : Outcome α) :
    ofOutcome (x.map f) = (do return f (← ofOutcome x)) := by
  cases x <;> rfl

end Run

theorem Fits.exists_ending {w : World} {r : EStateM.Result Error World Ending} (h : Fits (.ok none w) r) :
    ∃ ending, r = .ok ending w := by
  cases h with
  | ended h => exact ⟨_, rfl⟩

theorem Fits.seen {r : EStateM.Result Error World (Option (Value × Value))} {s : EStateM.Result Error World Ending}
    (h : Fits r s) (view : World → World) : Fits (Run.seen view r) (Run.seen view s) := by
  cases h with
  | ended h => exact .ended h
  | cut => exact .cut
  | failed => exact .failed

namespace Machine

@[simp] theorem follow_none (m : Machine) (k : Nat) : m.follow k none = pure none := by
  cases k <;> rfl

@[simp] theorem follow_zero (m : Machine) (jump : Value × Value) : m.follow 0 (some jump) = pure (some jump) :=
  rfl

theorem follow_succ (m : Machine) (k : Nat) (path vars : Value) :
    m.follow (k + 1) (some (path, vars)) = m.hop path vars >>= m.follow k := rfl

private theorem follow_add (m : Machine) (k j : Nat) (jump : Option (Value × Value)) :
    m.follow (k + j) jump = m.follow k jump >>= m.follow j := by
  induction k generalizing jump with
  | zero => cases jump <;> simp
  | succ k ih =>
    cases jump with
    | none => simp
    | some jump =>
      obtain ⟨path, vars⟩ := jump
      rw [Nat.succ_add, follow_succ, follow_succ, bind_assoc]
      exact bind_congr fun jump => ih jump

/-- A machine that has come to its end makes no further jumps. -/
theorem follow_of_le {m : Machine} {k j : Nat} {jump : Option (Value × Value)} {w : World} (hkj : k ≤ j)
    (hend : ∀ rest w', m.follow k jump w ≠ .ok (some rest) w') : m.follow j jump w = m.follow k jump w := by
  obtain ⟨i, rfl⟩ := Nat.exists_eq_add_of_le hkj
  rw [follow_add]
  cases hk : m.follow k jump w with
  | error e w' => exact Run.bind_error hk
  | ok rest w' =>
    cases rest with
    | some rest => exact absurd hk (hend rest w')
    | none =>
      rw [Run.bind_ok hk, follow_none]
      rfl

def Leads (m : Machine) (n : Nat) (x : Run (Option (Value × Value))) (r : Run Ending) : Prop :=
  ∀ w, ∃ k, n ≤ k ∧ Fits ((x >>= m.follow k) w) (r w)

def Agrees (m : Machine) (n : Nat) (path : FlowPath) (vars : Value) (r : Run Ending) : Prop :=
  m.Leads n (pure (some (path.toValue, vars))) r

variable {m : Machine} {n : Nat}

theorem Leads.mono {k : Nat} {x : Run (Option (Value × Value))} {r : Run Ending} (h : m.Leads n x r)
    (hk : k ≤ n) : m.Leads k x r := by
  intro w
  obtain ⟨j, hj, hfits⟩ := h w
  exact ⟨j, Nat.le_trans hk hj, hfits⟩

theorem Leads.bind_of {α : Type} {P : α → Prop} {a : Run α} {f : α → Run (Option (Value × Value))}
    {g : α → Run Ending} (ha : a.Yields P) (h : ∀ v, P v → m.Leads n (f v) (g v)) :
    m.Leads n (a >>= f) (a >>= g) := by
  intro w
  cases hw : a w with
  | ok v w' =>
    obtain ⟨k, hk, hfits⟩ := h v (ha w v w' hw) w'
    refine ⟨k, hk, ?_⟩
    rw [bind_assoc, Run.bind_ok hw, Run.bind_ok hw]
    exact hfits
  | error e w' =>
    refine ⟨n, Nat.le_refl n, ?_⟩
    rw [bind_assoc, Run.bind_error hw, Run.bind_error hw]
    exact .failed

theorem Leads.bind {α : Type} {a : Run α} {f : α → Run (Option (Value × Value))} {g : α → Run Ending}
    (h : ∀ v, m.Leads n (f v) (g v)) : m.Leads n (a >>= f) (a >>= g) :=
  .bind_of (P := fun _ => True) (fun _ _ _ _ => trivial) fun v _ => h v

theorem Leads.ended {ending : Ending} (h : ending ≠ .cut) : m.Leads n (pure none) (pure ending) := by
  intro w
  refine ⟨n, Nat.le_refl n, ?_⟩
  rw [pure_bind, follow_none]
  exact .ended h

theorem Agrees.cut {path : FlowPath} {vars : Value} : m.Agrees 0 path vars (pure .cut) := by
  intro w
  exact ⟨0, Nat.le_refl 0, .cut⟩

theorem Agrees.of_find {path : FlowPath} {vars : Value} {handler : FlowHandler} {r : Run Ending}
    (hfind : m.program.find path.toValue = .ok handler)
    (h : m.Leads n (m.runHandler path.toValue vars handler >>= m.landing path.toValue) r) :
    m.Agrees (n + 1) path vars r := by
  intro w
  obtain ⟨k, hk, hfits⟩ := h w
  refine ⟨k + 1, Nat.succ_le_succ hk, ?_⟩
  rw [pure_bind, follow_succ]
  unfold hop
  rw [hfind, Run.ofExcept_ok, pure_bind]
  exact hfits

/-- The targets of a flow lead to what comes after it. -/
structure Realizes (m : Machine) (n : Nat) (targets : Targets) (after : Ending → Run Ending) : Prop where
  next : ∀ vars, m.Leads n (pure (targets.next.map fun target => (target.toValue, vars))) (after (.normal vars))
  breaks : ∀ target vars, targets.breakTo = some target → m.Agrees n target vars (after (.break vars))
  continues : ∀ target vars, targets.continueTo = some target →
    m.Agrees n target vars (after (.continue vars))
  stops : after .stopped = pure .stopped
  cuts : after .cut = pure .cut

theorem Realizes.mono {k : Nat} {targets : Targets} {after : Ending → Run Ending}
    (h : m.Realizes n targets after) (hk : k ≤ n) : m.Realizes k targets after where
  next vars := (h.next vars).mono hk
  breaks target vars ht := Leads.mono (h.breaks target vars ht) hk
  continues target vars ht := Leads.mono (h.continues target vars ht) hk
  stops := h.stops
  cuts := h.cuts

/-- Nothing comes after a flow without targets. -/
theorem Realizes.blank : m.Realizes n {} pure where
  next _ := .ended (by simp)
  breaks _ _ ht := by cases ht
  continues _ _ ht := by cases ht
  stops := rfl
  cuts := rfl

def before (rest : Value → Run Ending) (after : Ending → Run Ending) : Ending → Run Ending
  | .normal vars => rest vars >>= after
  | ending => after ending

theorem Realizes.before {targets : Targets} {after : Ending → Run Ending} {rest : Value → Run Ending}
    {next : FlowPath} (h : m.Realizes n targets after)
    (hnext : ∀ vars, m.Agrees n next vars (rest vars >>= after)) :
    m.Realizes n { targets with next := some next } (before rest after) where
  next vars := hnext vars
  breaks target vars ht := h.breaks target vars ht
  continues target vars ht := h.continues target vars ht
  stops := h.stops
  cuts := h.cuts

/-! ## Whole runs -/

/-- The outcome of a call of the machine is that of a direct run. -/
inductive SameOutcome : EStateM.Result Error World Unit → EStateM.Result Error World Ending → Prop
  | ended {ending : Ending} {w : World} (h : ending ≠ .cut) : SameOutcome (.ok () w) (.ok ending w)
  | failed {e : Error} {w : World} : SameOutcome (.error e w) (.error e w)

/-- The machine does what direct runs do from a path and variables on, as far as one can see of the world. -/
structure Does (m : Machine) (view : World → World) (entry : Run (Value × Value)) (direct : Nat → Run Ending) :
    Prop where
  /-- A direct run that comes to its end is that of the machine, if this may make enough jumps. -/
  complete : ∀ n w, (∀ w', direct n w ≠ .ok .cut w') → ∃ k, ∀ j, k ≤ j →
    SameOutcome (Run.seen view ((entry >>= fun e => m.invoke j e.1 e.2) w)) (Run.seen view (direct n w))
  /-- A run of the machine that comes to its end is a direct run. -/
  sound : ∀ k w, (∀ jump w', (entry >>= fun e => m.follow k (some e)) w ≠ .ok (some jump) w') →
    SameOutcome (Run.seen view ((entry >>= fun e => m.invoke k e.1 e.2) w)) (Run.seen view (direct k w))
  /-- Where a direct run is cut off because a loop takes more than `n` rounds, the machine is on its way
  after `n` jumps or more, having done the same. -/
  endless : ∀ n w w', direct n w = .ok .cut w' → ∃ k jump w'', n ≤ k ∧
    (entry >>= fun e => m.follow k (some e)) w = .ok (some jump) w'' ∧ view w'' = view w'

variable {view : World → World} {entry : Run (Value × Value)} {direct : Nat → Run Ending}

private theorem sameOutcome_of_fits {k : Nat} {w : World} {r : EStateM.Result Error World Ending}
    (hend : ∀ jump w', (entry >>= fun e => m.follow k (some e)) w ≠ .ok (some jump) w')
    (h : Fits (Run.seen view ((entry >>= fun e => m.follow k (some e)) w)) r) :
    SameOutcome (Run.seen view ((entry >>= fun e => m.invoke k e.1 e.2) w)) r := by
  have hinvoke : (entry >>= fun e => m.invoke k e.1 e.2) =
      (entry >>= fun e => m.follow k (some e)) >>= fun rest =>
        if rest.isSome then throw (.fault .outOfFuel) else pure () := by
    rw [bind_assoc]
    refine bind_congr fun e => bind_congr fun rest => ?_
    cases rest <;> rfl
  rw [hinvoke]
  cases hk : (entry >>= fun e => m.follow k (some e)) w with
  | error e w' =>
    rw [hk] at h
    rw [Run.bind_error hk]
    cases h
    exact .failed
  | ok rest w' =>
    rw [hk] at h
    cases rest with
    | some jump => exact absurd hk (hend jump w')
    | none =>
      rw [Run.bind_ok hk]
      cases h with
      | ended h => exact .ended h

private theorem entry_follow_of_le {k j : Nat} {w : World} (hkj : k ≤ j)
    (hend : ∀ jump w', (entry >>= fun e => m.follow k (some e)) w ≠ .ok (some jump) w') :
    (entry >>= fun e => m.follow j (some e)) w = (entry >>= fun e => m.follow k (some e)) w := by
  cases he : entry w with
  | error e w' => rw [Run.bind_error he, Run.bind_error he]
  | ok e w' =>
    rw [Run.bind_ok he] at hend
    rw [Run.bind_ok he, Run.bind_ok he]
    exact follow_of_le hkj hend

/-- The machine does what direct runs do if it gets, at some time, to where each of them gets. -/
theorem Does.of_fits (h : ∀ n w, ∃ k, n ≤ k ∧
    Fits (Run.seen view ((entry >>= fun e => m.follow k (some e)) w)) (Run.seen view (direct n w))) :
    m.Does view entry direct where
  complete n w hcut := by
    obtain ⟨k, -, hfits⟩ := h n w
    have hend : ∀ jump w', (entry >>= fun e => m.follow k (some e)) w ≠ .ok (some jump) w' := by
      intro jump w' hw
      rw [hw] at hfits
      cases hr : direct n w with
      | error e w'' =>
        rw [hr] at hfits
        cases hfits
      | ok ending w'' =>
        simp only [hr, Run.seen] at hfits
        generalize view w'' = u at hfits
        cases hfits
        exact hcut _ hr
    refine ⟨k, fun j hj => sameOutcome_of_fits ?_ ?_⟩
    · rwa [entry_follow_of_le hj hend]
    · rwa [entry_follow_of_le hj hend]
  sound k w hend := by
    obtain ⟨j, hj, hfits⟩ := h k w
    rw [entry_follow_of_le hj hend] at hfits
    exact sameOutcome_of_fits hend hfits
  endless n w w' hcut := by
    obtain ⟨k, hk, hfits⟩ := h n w
    rw [hcut] at hfits
    cases hf : (entry >>= fun e => m.follow k (some e)) w with
    | error e w'' =>
      rw [hf] at hfits
      cases hfits
    | ok rest w'' =>
      rw [hf] at hfits
      simp only [Run.seen] at hfits
      generalize view w' = u at hfits ⊢
      cases hfits with
      | ended h => exact absurd rfl h
      | cut => exact ⟨k, _, w'', hk, hf, rfl⟩

theorem Does.of_leads (h : ∀ n, m.Leads n (entry >>= fun e => pure (some e)) (direct n)) :
    m.Does id entry direct := by
  refine .of_fits fun n w => ?_
  obtain ⟨k, hk, hfits⟩ := h n w
  refine ⟨k, hk, ?_⟩
  rw [Run.seen_id, Run.seen_id]
  simpa only [bind_assoc, pure_bind] using hfits

end Machine

end Colloquy
