import Colloquy.Proofs.Flow.Canonical
import Colloquy.Proofs.Number.Double
import Colloquy.Proofs.Run.Steps

/-!
# How long a flow waits

A wait takes the number of seconds that its value stands for, no less than zero and no more than the longest wait that
the settings allow. What stands for no number is refused before anything else happens. Three kinds of values fall outside
of this: integers that are out of the range of double precision, what reads as `nan`, which no bound holds back, and what
stands for no number and cannot be written either.
-/

namespace Colloquy

open Number Run

/-! ## The bound -/

private theorem Record.field_cases {α : Type} {entries : Entries} {names : List String} {missing : Except FieldDefect α}
    {read : Value → Except (List FieldFault) α} {default : α} {P : α → Prop} (hmissing : ∀ a, missing = .ok a → P a)
    (hread : ∀ v a, read v = .ok a → P a)
    (hdefault : P default) : P (Record.field entries names missing read default).2 := by
  unfold Record.field
  split
  · split
    · exact hmissing _ rfl
    · exact hdefault
  · split
    · exact hread _ _ ‹_›
    · exact hdefault

namespace Settings

/-- A bound of waits is zero or more, if there is one. -/
def Bounds (longest : Option Float) : Prop := ∀ most, longest = some most → 0.0 ≤ most

private theorem bounds_of_readWait {v : Value} {longest : Option Float} (h : readWait v = .ok longest) :
    Bounds longest := by
  rintro most rfl
  unfold readWait at h
  split at h
  · cases h
  · obtain ⟨x, -, h⟩ := Normal.bind_eq_ok.mp h
    split at h
    · rename_i hge
      cases h
      exact hge
    · cases h

/-- Settings that were read never bound waits by less than zero. -/
theorem bounds_of_read {v : Value} {s : Settings} (h : read v = .ok s) : Bounds s.maxWait := by
  unfold read at h
  split at h
  · cases h
    intro most hmost
    obtain ⟨longest, hlongest, rfl⟩ := Option.bind_eq_some_iff.mp hmost
    unfold Except.toOption at hlongest
    split at hlongest
    · cases hlongest
      exact bounds_of_readWait ‹_› most rfl
    · cases hlongest
  · rename_i id entries
    have hwait : Bounds (Record.field entries ["max_wait_seconds"] (.ok none) (Record.simple readWait) none).2 := by
      refine Record.field_cases ?_ ?_ nofun
      · rintro _ ⟨⟩
        exact nofun
      · intro v longest hread
        unfold Record.simple at hread
        split at hread
        · cases hread
          exact bounds_of_readWait ‹_›
        · cases hread
    dsimp only at h
    split at h
    · cases h
      exact hwait
    · cases h
  · cases h

end Settings

/-! ## The seconds -/

/-- The number of seconds that a value stands for; one that counts as false stands for none at all. -/
def Value.seconds (v : Value) : Outcome Float := toFloating (if v.truthy then v else .int 0)

private theorem toFloat_eq (n : Int) :
    Numeral.toFloat n = if n.natAbs < intLimit then .ok (floatOfInt n) else .error .overflow := by
  unfold Numeral.toFloat
  simp only [isFinite_floatOfInt]

private theorem toFloating_eq_overflow {v : Value} :
    toFloating v = .error .overflow ↔ ∃ n, v = .int n ∧ intLimit ≤ n.natAbs := by
  constructor
  · intro h
    cases v with
    | int n =>
      refine ⟨n, rfl, Nat.le_of_not_lt fun hlt => ?_⟩
      change Numeral.toFloat n = _ at h
      rw [toFloat_eq, if_pos hlt] at h
      cases h
    | bool b =>
      have hlt : (if b then 1 else 0 : Int).natAbs < intLimit := by
        have hlimit := one_lt_intLimit
        cases b <;> simp <;> omega
      change Numeral.toFloat (if b then 1 else 0) = _ at h
      rw [toFloat_eq, if_pos hlt] at h
      cases h
    | str s | markup s | bytes s =>
      unfold toFloating at h
      dsimp only at h
      split at h <;> cases h
    | _ => cases h
  · rintro ⟨n, rfl, hle⟩
    change Numeral.toFloat n = _
    rw [toFloat_eq, if_neg (Nat.not_lt.mpr hle)]

private theorem Value.seconds_eq_overflow {v : Value} :
    v.seconds = .error .overflow ↔ ∃ n, v = .int n ∧ intLimit ≤ n.natAbs := by
  have hlimit := one_lt_intLimit
  unfold Value.seconds
  rw [toFloating_eq_overflow]
  cases htruthy : v.truthy with
  | true => exact Iff.rfl
  | false =>
    constructor
    · rintro ⟨n, heq, hle⟩
      cases heq
      exact absurd hle (by simp; omega)
    · rintro ⟨n, rfl, hle⟩
      have hzero : n = 0 := by simpa [Value.truthy] using htruthy
      subst hzero
      exact absurd hle (by simp; omega)

/-! ## The wait -/

/-- How long a wait takes that is asked to take some seconds. -/
def Settings.waitLength (s : Settings) (seconds : Float) : Float :=
  let seconds := if 0.0 > seconds then 0.0 else seconds
  match s.maxWait with
  | some most => if seconds > most then most else seconds
  | none => seconds

namespace Settings

variable {s : Settings} {x : Float}

private theorem waitLength_of_isNaN (h : x.isNaN = true) : s.waitLength x = x := by
  unfold waitLength
  rw [if_neg (not_lt_of_isNaN h).1]
  cases s.maxWait with
  | none => rfl
  | some most => exact if_neg (not_lt_of_isNaN h).2

private theorem waitLength_bounded (hbounds : Bounds s.maxWait) (h : x.isNaN = false) :
    0.0 ≤ s.waitLength x ∧ ∀ most, s.maxWait = some most → s.waitLength x ≤ most := by
  have hzero : (0.0 : Float).isNaN = false := by decide
  have hasked : 0.0 ≤ (if 0.0 > x then 0.0 else x) := by
    split
    · decide
    · exact le_of_not_lt hzero h ‹_›
  unfold waitLength
  generalize (if 0.0 > x then 0.0 else x) = asked at hasked
  cases hmost : s.maxWait with
  | none => exact ⟨hasked, nofun⟩
  | some most =>
    have hle := hbounds most hmost
    have hasked' := (isNaN_of_le hasked).2
    have hmost' := (isNaN_of_le hle).2
    refine ⟨?_, ?_⟩
    · dsimp only
      split
      · exact hle
      · exact hasked
    · rintro _ ⟨⟩
      dsimp only
      split
      · exact le_of_not_lt hmost' hmost' not_lt_self
      · exact le_of_not_lt hasked' hmost' ‹_›

/-- Within the bounds a wait takes exactly as long as it is asked to take. -/
theorem waitLength_eq_self (hzero : 0.0 ≤ x) (hmost : ∀ most, s.maxWait = some most → x ≤ most) :
    s.waitLength x = x := by
  unfold waitLength
  rw [if_neg (not_lt_of_le hzero)]
  cases h : s.maxWait with
  | none => rfl
  | some most => exact if_neg (not_lt_of_le (hmost most h))

end Settings

def World.waited (w : World) (told : List LogRecord) (seconds : Float) : World :=
  { w with
    logs := w.logs ++ told
    slept := w.slept ++ [seconds]
    session := w.session.record (.waited seconds) }

/-- The values that are neither taken for a number of seconds to wait nor refused. -/
inductive Value.Unfit (v : Value) : Prop where
  | huge {n : Int} (h : v = .int n) (hlimit : intLimit ≤ n.natAbs)
  | nan {x : Float} (h : v.seconds = .ok x) (hnan : x.isNaN = true)
  | unwritable {f : Fault} (h : v.seconds = .error f) (hlong : v.unwritable = true)

namespace Machine

variable {m : Machine} {value : Value} {w : World}

/-- What is left of a wait once its seconds are known. -/
def pause (m : Machine) (asked : Float) : Run Unit := do
  let seconds := if 0.0 > asked then 0.0 else asked
  match m.program.settings.maxWait with
  | some most =>
    if seconds > most then
      Run.log .warning ("Clamping wait of " ++ floatText seconds ++ "s to " ++ floatText most ++ "s")
      Run.sleep most
    else Run.sleep seconds
  | none => Run.sleep seconds

private theorem pause_eq (m : Machine) (asked : Float) (w : World) :
    ∃ told, m.pause asked w = .ok () (w.waited told (m.program.settings.waitLength asked)) := by
  have hsleep (seconds : Float) : Run.sleep seconds w = .ok () (w.waited [] seconds) := by
    unfold World.waited
    rw [List.append_nil]
    rfl
  unfold pause Settings.waitLength
  dsimp only
  generalize (if 0.0 > asked then 0.0 else asked) = seconds
  cases m.program.settings.maxWait with
  | none => exact ⟨[], hsleep seconds⟩
  | some most =>
    dsimp only
    split
    · exact ⟨_, rfl⟩
    · exact ⟨[], hsleep seconds⟩

private theorem wait_of_seconds {x : Float} (h : value.seconds = .ok x) : m.wait value w = m.pause x w := by
  unfold Value.seconds at h
  unfold wait
  rw [h]
  rfl

private theorem wait_of_overflow (h : value.seconds = .error .overflow) : m.wait value w = .error
    (.fault .overflow) w := by
  unfold Value.seconds at h
  unfold wait
  rw [h]
  rfl

private theorem wait_of_error {f : Fault} (h : value.seconds = .error f) (hf : f ≠ .overflow) :
    m.wait value w = .error (if value.unwritable then .fault .badValue else .invalidWait value) w := by
  unfold Value.seconds at h
  unfold wait
  rw [h]
  cases f with
  | overflow => exact absurd rfl hf
  | _ => rfl

/-- A run waits once, for some time within the bounds, or it refuses a value and has not waited. -/
def WaitsOrRefuses (m : Machine) (value : Value) (w : World) : EStateM.Result Error World StepResult → Prop
  | .ok _ w' => ∃ told seconds, w' = w.waited told seconds ∧ 0.0 ≤ seconds ∧
      ∀ most, m.program.settings.maxWait = some most → seconds ≤ most
  | .error e w' => e = .invalidWait value ∧ w' = w

variable {own : FlowPath} {seconds vars v : Value} {w₁ : World}

section Step

variable (hvalue : (m.expander vars own).expand seconds w = .ok v w₁)
include hvalue

private theorem runStep_wait_of_seconds (path : FlowPath) {x : Float} (h : (w₁.heap.current v).seconds = .ok x) :
    ∃ told, m.runStep path vars (.wait own seconds) w =
      .ok .done (w₁.waited told (m.program.settings.waitLength x)) := by
  obtain ⟨told, hpause⟩ := m.pause_eq x w₁
  refine ⟨told, ?_⟩
  rw [runStep, bind_ok hvalue, bind_ok (current_eq v w₁), bind_ok ((wait_of_seconds h).trans hpause)]
  rfl

private theorem runStep_wait_of_error (path : FlowPath) {e : Error} (h : m.wait (w₁.heap.current v) w₁ = .error e w₁) :
    m.runStep path vars (.wait own seconds) w = .error e w₁ := by
  rw [runStep, bind_ok hvalue, bind_ok (current_eq v w₁), bind_error h]

private theorem runStep_wait_of_huge (path : FlowPath) {n : Int} (hn : w₁.heap.current v = .int n)
    (hlimit : intLimit ≤ n.natAbs) :
    m.runStep path vars (.wait own seconds) w = .error (.fault .overflow) w₁ :=
  runStep_wait_of_error hvalue path (wait_of_overflow (Value.seconds_eq_overflow.mpr ⟨n, hn, hlimit⟩))

private theorem runStep_wait_of_fault (path : FlowPath) {f : Fault} (h : (w₁.heap.current v).seconds = .error f)
    (hf : f ≠ .overflow) : m.runStep path vars (.wait own seconds) w =
      .error (if (w₁.heap.current v).unwritable then .fault .badValue else .invalidWait (w₁.heap.current v)) w₁ :=
  runStep_wait_of_error hvalue path (wait_of_error h hf)

private theorem not_waitsOrRefuses_of_unfit (path : FlowPath) (hunfit : (w₁.heap.current v).Unfit) :
    ¬m.WaitsOrRefuses (w₁.heap.current v) w₁ (m.runStep path vars (.wait own seconds) w) := by
  intro hkept
  cases hunfit with
  | huge h hlimit =>
    rw [runStep_wait_of_huge hvalue path h hlimit] at hkept
    cases hkept.1
  | nan h hnan =>
    obtain ⟨told, hrun⟩ := runStep_wait_of_seconds hvalue path h
    rw [hrun, Settings.waitLength_of_isNaN hnan] at hkept
    obtain ⟨told', seconds, hworld, hzero, -⟩ := hkept
    have hslept : w₁.slept ++ [_] = w₁.slept ++ [seconds] := congrArg World.slept hworld
    obtain ⟨rfl, -⟩ := List.cons.inj (List.append_cancel_left hslept)
    rw [(isNaN_of_le hzero).2] at hnan
    cases hnan
  | @unwritable f h hlong =>
    by_cases hf : f = .overflow
    · obtain ⟨n, hn, hlimit⟩ := Value.seconds_eq_overflow.mp (hf ▸ h)
      rw [runStep_wait_of_huge hvalue path hn hlimit] at hkept
      cases hkept.1
    · rw [runStep_wait_of_fault hvalue path h hf, if_pos hlong] at hkept
      cases hkept.1

private theorem waitsOrRefuses_of_fit (path : FlowPath) (hbounds : Settings.Bounds m.program.settings.maxWait)
    (hfit : ¬(w₁.heap.current v).Unfit) :
    m.WaitsOrRefuses (w₁.heap.current v) w₁ (m.runStep path vars (.wait own seconds) w) := by
  cases h : (w₁.heap.current v).seconds with
  | ok x =>
    obtain ⟨told, hrun⟩ := runStep_wait_of_seconds hvalue path h
    have hnan : x.isNaN = false := Bool.eq_false_iff.mpr fun hnan => hfit (.nan h hnan)
    rw [hrun]
    exact ⟨told, _, rfl, Settings.waitLength_bounded hbounds hnan⟩
  | error f =>
    have hf : f ≠ .overflow := by
      rintro rfl
      obtain ⟨n, hn, hlimit⟩ := Value.seconds_eq_overflow.mp h
      exact hfit (.huge hn hlimit)
    have hshort : ¬(w₁.heap.current v).unwritable = true := fun hlong => hfit (.unwritable h hlong)
    rw [runStep_wait_of_fault hvalue path h hf, if_neg hshort]
    exact ⟨rfl, rfl⟩

end Step

end Machine

end Colloquy
