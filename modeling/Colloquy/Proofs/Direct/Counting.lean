import Colloquy.Proofs.Direct.Rounds
import Colloquy.Proofs.Direct.Soundness
import Colloquy.Proofs.Run.Counter
import Mathlib.Data.Rat.Floor

/-!
# Counting loops

A loop that counts in a variable runs its body for every number from the first one up to the limit, as long as the
body leaves the counter alone and does not leave the loop. The increment comes once in each round, whether the body
came to its end or to a continue.
-/

namespace Colloquy.Direct

open Run

variable {m : Machine} {body : Flow} {l : Labels} {v : String} {a n i k : Int} {w w' w₁ : World} {vars vars' vars₁ : Value}

/-- The body of a loop comes to its end or to a continue; `at_` is where the increment that follows is. -/
inductive Completes (m : Machine) (body : Flow) (l : Labels) (w : World) (vars : Value) (w' : World) (vars' : Value) :
    FlowPath → Prop
  | normal (h : RunsTo m body (l.sub 0) w vars (.normal vars') w') : Completes m body l w vars w' vars' (l.sub 2).own.path
  | continue (h : RunsTo m body (l.sub 0) w vars (.continue vars') w') :
    Completes m body l w vars w' vars' (l.sub 3).own.path

/-- Rounds of a loop that counts in `v` in steps of `k`. At the start of each of them the counter is at the next
number, and at the end of each of them the step is added to it. -/
inductive Rounds (m : Machine) (body : Flow) (l : Labels) (v : String) (k : Int) :
    Int → Nat → World → Value → World → Value → Prop
  | none {i : Int} {w : World} {vars : Value} : Rounds m body l v k i 0 w vars w vars
  | next {i : Int} {rounds : Nat} {w w₁ w₂ w' : World} {vars vars₁ vars₂ vars' : Value} {at_ : FlowPath}
    (counts : Counts v i w vars) (completes : Completes m body l w vars w₁ vars₁ at_)
    (increment : m.assign at_ (incrementValues [(v, .int k)]) vars₁ w₁ = .ok vars₂ w₂)
    (later : Rounds m body l v k (i + k) rounds w₂ vars₂ w' vars') :
    Rounds m body l v k i (rounds + 1) w vars w' vars'

/-- Wherever a round of a loop begins, the body comes to its end or to a continue. It leaves the counter as it was and
the session open. -/
def Undisturbed (m : Machine) (body : Flow) (l : Labels) (v : String) (k n i : Int) (w : World) (vars : Value) : Prop :=
  ∀ (rounds : Nat) w₁ vars₁, i + k * rounds < n → Rounds m body l v k i rounds w vars w₁ vars₁ →
    Counts v (i + k * rounds) w₁ vars₁ →
    ∃ w₂ vars₂ at_, Completes m body l w₁ vars₁ w₂ vars₂ at_ ∧ Counts v (i + k * rounds) w₂ vars₂

private theorem Undisturbed.of_forall
    (h : ∀ j w₁ vars₁, Counts v j w₁ vars₁ →
      ∃ w₂ vars₂ at_, Completes m body l w₁ vars₁ w₂ vars₂ at_ ∧ Counts v j w₂ vars₂) (k n i : Int) (w : World)
    (vars : Value) : Undisturbed m body l v k n i w vars :=
  fun rounds w₁ vars₁ _ _ hcounts => h (i + k * rounds) w₁ vars₁ hcounts

private theorem Undisturbed.next {at_ : FlowPath} {w₂ : World} {vars₂ : Value} (h : Undisturbed m body l v k n i w vars)
    (counts : Counts v i w vars) (completes : Completes m body l w vars w₁ vars₁ at_)
    (increment : m.assign at_ (incrementValues [(v, .int k)]) vars₁ w₁ = .ok vars₂ w₂) :
    Undisturbed m body l v k n (i + k) w₂ vars₂ := by
  intro rounds w₃ vars₃ hbelow hrounds hcounts
  have hnumber : i + k + k * rounds = i + k * (rounds + 1 : Nat) := by
    push_cast
    ring
  rw [hnumber] at hbelow hcounts ⊢
  exact h (rounds + 1) w₃ vars₃ hbelow (.next counts completes increment hrounds) hcounts

def counting (m : Machine) (body : Flow) (l : Labels) (condition : Value) (v : String) (k : Int) :
    Nat → Value → Run Ending :=
  iterate (m.holds l.own.path condition) (runFlow m body (l.sub 0))
    (increase m (l.sub 2).own.path [(v, .int k)]) (increase m (l.sub 3).own.path [(v, .int k)])

private theorem counting_next {condition : Value} {at_ : FlowPath} {w₂ : World} {vars₂ : Value}
    (hholds : m.holds l.own.path condition vars w = .ok true w) (completes : Completes m body l w vars w₁ vars₁ at_)
    (increment : m.assign at_ (incrementValues [(v, .int k)]) vars₁ w₁ = .ok vars₂ w₂) :
    ∃ fuel, ∀ f, fuel ≤ f →
      counting m body l condition v k (f + 1) vars w = counting m body l condition v k f vars₂ w₂ := by
  have hincrease : increase m at_ [(v, .int k)] vars₁ w₁ = .ok vars₂ w₂ := increment
  cases completes with
  | normal h | «continue» h =>
    obtain ⟨fuel, hrun⟩ := h.eventually
    refine ⟨fuel, fun f hf => ?_⟩
    rw [counting, iterate, bind_ok hholds, if_pos rfl, bind_ok (hrun f hf)]
    exact bind_ok hincrease

private theorem counting_done {condition : Value} (hholds : m.holds l.own.path condition vars w = .ok false w)
    (f : Nat) :
    counting m body l condition v k (f + 1) vars w = .ok (.normal vars) w := by
  rw [counting, iterate, bind_ok hholds, if_neg Bool.false_ne_true]
  rfl

/-- An undisturbed loop goes round as long as its counter is below the limit. It ends with the counter at the first
number that is not, and the session holds this number. -/
theorem counting_rounds (hv : PlainName v) (hk : Value.tooLong k = false) (id : Identity) (rounds : Nat)
    (hbelow : ∀ j < rounds, i + k * j < n)
    (hend : n ≤ i + k * rounds) (hcounts : Counts v i w vars) (hstores : w.session.Stores v i)
    (hbody : Undisturbed m body l v k n i w vars) :
    ∃ w' vars', Rounds m body l v k i rounds w vars w' vars' ∧ Counts v (i + k * rounds) w' vars' ∧
      w'.session.Stores v (i + k * rounds) ∧ ∃ fuel, ∀ f, fuel ≤ f →
        counting m body l (.accessor id [.member (.str v), .compare .lt (.int n)]) v k f vars w =
          .ok (.normal vars') w' := by
  induction rounds generalizing i w vars with
  | zero =>
    have hover : ¬ i < n := by simpa using hend
    have hholds := Machine.holds_below (m := m) hcounts l.own.path id n
    rw [decide_eq_false hover] at hholds
    refine ⟨w, vars, .none, by simpa using hcounts, by simpa using hstores, 1, fun f hf => ?_⟩
    obtain ⟨f, rfl⟩ := Nat.exists_eq_add_of_le' hf
    exact counting_done hholds f
  | succ rounds ih =>
    -- one round leads to the loop that begins with `i + k`, and nothing disturbs this one either
    have hfirst : i < n := by simpa using hbelow 0 (Nat.succ_pos rounds)
    have hholds := Machine.holds_below (m := m) hcounts l.own.path id n
    rw [decide_eq_true hfirst] at hholds
    obtain ⟨w₁, vars₁, at_, hcompletes, hkept⟩ := hbody 0 w vars (by simpa using hfirst) .none (by simpa using hcounts)
    obtain ⟨w₂, vars₂, hincrement, hcounts₂, hstores₂⟩ :=
      Machine.assign_increment (m := m) hv (by simpa using hkept : Counts v i w₁ vars₁) at_ hk
    have hnumber (j : Nat) : i + k + k * j = i + k * (j + 1 : Nat) := by
      push_cast
      ring
    obtain ⟨w', vars', hrounds, hcounts', hstores', fuel, hrun⟩ := ih (fun j hj => by
      rw [hnumber]
      exact hbelow (j + 1) (Nat.succ_lt_succ hj)) (by rw [hnumber]; exact hend) hcounts₂ hstores₂
      (hbody.next hcounts hcompletes hincrement)
    obtain ⟨fuel₁, hround⟩ := counting_next hholds hcompletes hincrement
    rw [hnumber] at hcounts' hstores'
    refine ⟨w', vars', .next hcounts hcompletes hincrement hrounds, hcounts', hstores', max fuel fuel₁ + 1,
      fun f hf => ?_⟩
    obtain ⟨f, rfl⟩ := Nat.exists_eq_succ_of_ne_zero (Nat.ne_of_gt (Nat.lt_of_lt_of_le (Nat.succ_pos _) hf))
    have hf := Nat.le_of_succ_le_succ hf
    rw [hround f (Nat.le_trans (Nat.le_max_right _ _) hf), hrun f (Nat.le_trans (Nat.le_max_left _ _) hf)]

private theorem lt_iff_lt_rounds (hk : 0 < k) (j : Nat) : a + k * j < n ↔ j < ⌈((n - a : ℤ) : ℚ) / k⌉₊ := by
  have hk' : (0 : ℚ) < k := by exact_mod_cast hk
  rw [Nat.lt_ceil, lt_div_iff₀ hk']
  have hcast : (j : ℚ) * k < ((n - a : ℤ) : ℚ) ↔ (j : ℤ) * k < n - a := by exact_mod_cast Iff.rfl
  rw [hcast, mul_comm k]
  constructor <;> intro h <;> linarith

private theorem counting_not_compiled (hk : Value.tooLong k = true) (id : Identity) (body following : Flow)
    (path : FlowPath) (targets : Targets) (index : Nat) (p q : Program) :
    compileFlow (.command (Normal.countingLoop id v a n k body) :: following) path targets index p ≠ .ok () q := by
  intro hcompile
  have hno {own : FlowPath} {targets : Targets} {step : Step} {p q : Program} :
      ¬ Compiles (.command (Normal.countingLoop id v a n k body) own targets step) p q := by
    intro h
    cases h with
    | iteration _ _ _ _ _ hvalues =>
      rw [incrementValues?_eq, if_pos (by simp [addsTooLong, Value.isNumber, Value.unwritable, hk])] at hvalues
      cases hvalues
  have hloop {own : Command} (he : (Element.command (Normal.countingLoop id v a n k body)).command? = some own) :
      own = Normal.countingLoop id v a n k body := (Option.some.inj he).symm
  cases compiles_of_compileFlow hcompile with
  | flow _ _ elements =>
    cases elements with
    | handler he => cases he
    | plain he _ first | last he _ first | terminal he _ _ _ _ first | broken he _ _ _ first =>
      rw [hloop he] at first
      exact hno first

/-- Take a flow that begins with a loop that counts in a variable `v` from `a` on in steps of `k`, a positive number,
while it is below `n`; a step that is left out is one, and a first number that is left out is zero. Neither `n` nor `k`
may be too long to be written. If its body and the rest are read, then so is the flow. Let it be
compiled, and run it with any variables in a world where variables can be set. Let the body of the loop, in every run
that a round begins with, come to its end or to a continue, without a failure, and leave `v` as it was and the session
open. Then the loop ends after exactly `⌈(n - a) / k⌉` rounds, or none if this is negative. At the start of each round
`v` is at the next of the numbers `a`, `a + k`, `a + 2 * k`. After the last one `v` is at the number that follows, which
the scope of `v` in the session holds too, and then the rest of the flow is run, once. -/
theorem counting_loop_counts (hv : PlainName v) (hk : 0 < k) (hlimit : Value.tooLong n = false)
    (hstep : Value.tooLong k = false) {clause raw : Value} {rest : List Value}
    (hclause : Normal.CountingClause v a n k clause)
    (listId loopId : Identity) {body following : Flow} (hbody : Normal.flow raw = .ok body)
    (hrest : Normal.elements rest = .ok following) :
    ∃ flow, Normal.flow (.list listId (.dict loopId [(.str "for", clause), (.str "do", raw)] :: rest)) = .ok flow ∧
      ∀ (m : Machine) (p : Program) (path : FlowPath), compileFlow flow path {} 0 p = .ok () m.program → ∃ l,
        (∀ vars, m.Does id (pure (path.toValue, vars)) fun fuel => runFlow m flow l fuel vars) ∧
        ∀ w vars, w.Ready → (∃ id entries, w.heap.current vars = .dict id entries) →
          ∃ at_ w₀ vars₀, m.assign at_ [(v, .int a)] vars w = .ok vars₀ w₀ ∧
            (Undisturbed m body (l.sub 0) v k n a w₀ vars₀ → ∃ w' vars',
              Rounds m body (l.sub 0) v k a ⌈((n - a : ℤ) : ℚ) / k⌉₊ w₀ vars₀ w' vars' ∧
              Counts v (a + k * ⌈((n - a : ℤ) : ℚ) / k⌉₊) w' vars' ∧
              w'.session.Stores v (a + k * ⌈((n - a : ℤ) : ℚ) / k⌉₊) ∧
              ∃ fuel, ∀ f, fuel ≤ f → runFlow m flow l f vars w = runFlow m following l.tail f vars' w') := by
  have hnormal := Normal.flow_counting hv hclause hlimit listId loopId hbody hrest
  generalize Normal.derivedIdentity _ = own at hnormal
  refine ⟨_, hnormal, fun m p path hcompile => ?_⟩
  obtain ⟨l, hdoes⟩ := does_of_compileFlow hcompile (.refl m.program)
  refine ⟨l, hdoes, fun w vars hready hvars => ?_⟩
  obtain ⟨w₀, vars₀, hinit, hcounts, hstores⟩ :=
    Machine.assign_int (m := m) hv hready hvars ((l.sub 0).sub 1).own.path a
  refine ⟨_, w₀, vars₀, hinit, fun hundisturbed => ?_⟩
  obtain ⟨w', vars', hrounds, hcounts', hstores', fuel, hrun⟩ := counting_rounds hv hstep own ⌈((n - a : ℤ) : ℚ) / k⌉₊
    (fun j hj => (lt_iff_lt_rounds hk j).mpr hj) (not_lt.mp (mt (lt_iff_lt_rounds hk _).mp (lt_irrefl _)))
    hcounts hstores hundisturbed
  refine ⟨w', vars', hrounds, hcounts', hstores', fuel, fun f hf => ?_⟩
  have hloop : runElement m (.command (Normal.countingLoop own v a n k body)) (l.sub 0) f vars w =
      .ok (.normal vars') w' := by
    rw [runElement, Normal.countingLoop, runCommand]
    exact (bind_ok hinit).trans (hrun f hf)
  rw [runFlow, bind_ok hloop]

/-- A loop that counts to two, sets another variable and goes on in each round, and then a result. -/
def twice : Value :=
  .record [("for", .ofList [.str "i", .int 2]),
    ("do", .ofList [.record [("set", .record [("x", .int 7)])], .record [("continue", .bool true)]])]

/-- The body of the loop that counts to two. -/
def twiceBody : Flow := [.command (.set "set" [("x", .int 7)]), .command (.continue "continue")]

/-- The flow of the loop that counts to two. -/
def twiceFlow : Flow :=
  [.command (Normal.countingLoop .anonymous "i" 0 2 1 twiceBody), .command (.finish "finish" (.str "done"))]

private theorem compiles_twice : ∃ q,
    compileFlow twiceFlow [.name "main"] {} 0 { dialog := { name := "Trial" } } = .ok () q := by
  have h : Compiles (.flow twiceFlow [.name "main"] {} 0) { dialog := { name := "Trial" } } _ :=
    .flow rfl rfl
      (.broken rfl rfl rfl
        (.unspliced rfl rfl
          (.flow rfl rfl (.last rfl rfl (.finish rfl)) rfl (Program.add_eq_ok.mpr ⟨rfl, rfl⟩)))
        (.iteration rfl rfl rfl rfl rfl (incrementValues?_ok (by decide +kernel))
          (.flow rfl rfl .nil rfl (Program.add_eq_ok.mpr ⟨rfl, rfl⟩))
          (.flow rfl rfl (.plain rfl rfl (.set rfl) (.last rfl rfl (.continue rfl))) rfl
            (Program.add_eq_ok.mpr ⟨rfl, rfl⟩))
          (.flow rfl rfl (.plain rfl rfl (.set rfl) .nil) rfl (Program.add_eq_ok.mpr ⟨rfl, rfl⟩))
          rfl (Program.add_eq_ok.mpr ⟨rfl, rfl⟩) fun _ => rfl))
      rfl (Program.add_eq_ok.mpr ⟨rfl, rfl⟩)
  exact ⟨_, h.succeeds⟩

/-- The body of the loop that counts to two leaves the counter alone in every round. -/
private theorem undisturbed_twice (l : Labels) (w : World) (vars : Value) :
    Undisturbed m twiceBody l "i" 1 2 0 w vars := by
  refine .of_forall (fun j w₁ vars₁ hcounts => ?_) 1 2 0 w vars
  obtain ⟨w₂, vars₂, hassign, hkept⟩ : ∃ w₂ vars₂,
      m.assign ((l.sub 0).sub 0).own.path [("x", .int 7)] vars₁ w₁ = .ok vars₂ w₂ ∧ Counts "i" j w₂ vars₂ :=
    Machine.assign_other ⟨by decide, by decide, by decide⟩ (by decide) hcounts (Heap.current_int _ 7)
      (Expander.settles_int _ 7 w₁)
  have hset : runElement m (.command (.set "set" [("x", .int 7)])) ((l.sub 0).sub 0) 0 vars₁ w₁ =
      .ok (.normal vars₂) w₂ := by
    rw [runElement, runCommand]
    exact bind_ok hassign
  have hends : RunsTo m twiceBody (l.sub 0) w₁ vars₁ (.continue vars₂) w₂ := by
    refine ⟨Ending.noConfusion, 0, ?_⟩
    rw [twiceBody, runFlow, bind_ok hset]
    rfl
  exact ⟨w₂, vars₂, _, .continue hends, hkept⟩

theorem twice_counts : ∃ (m : Machine) (l : Labels) (w₀ w' : World) (vars₀ vars' : Value),
    Normal.flow (.ofList [twice, .record [("finish", .str "done")]]) = .ok twiceFlow ∧
      compileFlow twiceFlow [.name "main"] {} 0 { dialog := { name := "Trial" } } = .ok () m.program ∧
      Rounds m twiceBody (l.sub 0) "i" 1 0 2 w₀ vars₀ w' vars' ∧ Counts "i" 2 w' vars' ∧ w'.session.Stores "i" 2 := by
  obtain ⟨q, hq⟩ := compiles_twice
  let m : Machine := ⟨⟨fun _ _ => pure .none⟩, [], q⟩
  have hv : PlainName "i" := ⟨by decide, by decide, by decide⟩
  have hlimit : Value.tooLong 2 = false := by decide +kernel
  have hclause : Normal.CountingClause "i" 0 2 1 (.ofList [.str "i", .int 2]) := .fromZero 2 .anonymous
  have hbody : Normal.flow (.ofList [.record [("set", .record [("x", .int 7)])], .record [("continue", .bool true)]]) =
      .ok twiceBody := by with_unfolding_all rfl
  have hrest : Normal.elements [.record [("finish", .str "done")]] = .ok [.command (.finish "finish" (.str "done"))] := by
    with_unfolding_all rfl
  have hnormal : Normal.flow (.ofList [twice, .record [("finish", .str "done")]]) = .ok twiceFlow :=
    Normal.flow_counting hv hclause hlimit .anonymous .anonymous hbody hrest
  obtain ⟨flow, hflow, hruns⟩ := counting_loop_counts hv (by decide) hlimit (by decide +kernel) hclause .anonymous
    .anonymous hbody hrest
  obtain rfl : twiceFlow = flow := Except.ok.inj (hnormal.symm.trans hflow)
  obtain ⟨l, -, hloop⟩ := hruns m _ _ hq
  obtain ⟨at_, w₀, vars₀, -, hrounds⟩ := hloop { session := { id := .str "s" } } (.record [])
    ⟨rfl, fun _ _ => rfl⟩ ⟨_, _, rfl⟩
  obtain ⟨w', vars', hcounted, hcounts, hstores, -⟩ := hrounds (undisturbed_twice _ w₀ vars₀)
  have htwo : ⌈((2 - 0 : ℤ) : ℚ) / (1 : ℤ)⌉₊ = 2 := by norm_num
  rw [htwo] at hcounted hcounts hstores
  exact ⟨m, l, w₀, w', vars₀, vars', hnormal, hq, hcounted, by simpa using hcounts, by simpa using hstores⟩

/-- A loop that counts to a number below zero has no round, and yet it is not read if this number is too long to be
written. Neither is a loop compiled whose step is too long. -/
theorem long_numbers_stop_counting :
    Normal.CountingClause "i" 0 (-10 ^ 4300) 1 (.ofList [.str "i", .int (-10 ^ 4300)]) ∧
      Normal.flow (.ofList [.record [("for", .ofList [.str "i", .int (-10 ^ 4300)]), ("do", .str "x")], .str "Done"]) =
        .error (.fault .badValue) ∧
      ∀ q, compileFlow [.command (Normal.countingLoop .anonymous "i" 0 2 (10 ^ 4300) [])] [.name "main"] {} 0
        { dialog := { name := "Trial" } } ≠ .ok () q := by
  have hlong {k : Int} (hk : Value.tooLong k = true) :
      Normal.CountingClause "i" 0 (-k) 1 (.ofList [.str "i", .int (-k)]) ∧
        Normal.flow (.ofList [.record [("for", .ofList [.str "i", .int (-k)]), ("do", .str "x")], .str "Done"]) =
          .error (.fault .badValue) ∧
        ∀ q, compileFlow [.command (Normal.countingLoop .anonymous "i" 0 2 k [])] [.name "main"] {} 0
          { dialog := { name := "Trial" } } ≠ .ok () q := by
    have hlimit : Value.tooLong (-k) = true := by rwa [Value.tooLong, Int.natAbs_neg]
    have hclause : Normal.CountingClause "i" 0 (-k) 1 (.ofList [.str "i", .int (-k)]) := .fromZero _ .anonymous
    exact ⟨hclause, Normal.flow_counting_tooLong ⟨by decide, by decide, by decide⟩ hclause hlimit .anonymous .anonymous _ _,
      counting_not_compiled hk _ _ _ _ _ _ _⟩
  exact hlong (Value.tooLong_pow (by decide))

end Colloquy.Direct
