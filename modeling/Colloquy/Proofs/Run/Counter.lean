import Colloquy.Proofs.Flow.Counting
import Colloquy.Proofs.Run.Steps
import Colloquy.Proofs.Session.Variables

/-!
# Counters

A counter is a variable that holds an integer. A run that shows a counter can compare it with a limit, which changes
nothing, and it can set it to a number or add a step to it, which changes the counter both for the run and in the
scope of the session where it belongs.
-/

namespace Colloquy

open Run

variable {v : String}

private theorem PlainName.parseDestructuring (h : PlainName v) : parseDestructuring v = none := by
  have hsub : Number.stripBlanks v.toList ⊆ v.toList := by
    intro c hc
    unfold Number.stripBlanks at hc
    have hback := (List.dropWhile_sublist _).mem (List.mem_reverse.mp hc)
    exact (List.dropWhile_sublist _).mem (List.mem_reverse.mp hback)
  unfold Colloquy.parseDestructuring
  split
  · rename_i rest heq
    exact absurd (hsub (heq ▸ List.mem_cons_self)) h.unbraced
  · rfl

/-! ## Worlds in which a run can go on -/

namespace Heap

variable {heap heap' : Heap}

theorem current_int (heap : Heap) (i : Int) : heap.current (.int i) = .int i :=
  current_of_refresh (fun _ => rfl) heap

private theorem current_bool (heap : Heap) (b : Bool) : heap.current (.bool b) = .bool b :=
  current_of_refresh (fun _ => rfl) heap

private theorem current_accessor (heap : Heap) (id : Identity) (steps : List Access) :
    heap.current (.accessor id steps) = .accessor id steps := current_of_refresh (fun _ => rfl) heap

theorem current_congr (h : heap'.contents = heap.contents) : heap'.current = heap.current := by
  have hcontent (depth : Nat) : heap'.content depth = heap.content depth := by
    induction depth with
    | zero => rfl
    | succ depth ih =>
      funext n
      rw [content, content, h, ih]
  funext u
  rw [current, current, h, hcontent]

theorem current_unchanged {n : Nat} (h : heap.contents.lookup n = none) (entries : Entries) :
    heap.current (.dict (.object n) entries) = .dict (.object n) (Entries.mapValues heap.current entries) := by
  unfold current
  split
  · simp [Entries.mapValues]
  · rw [Value.refresh, content_eq_none h, Value.refreshEntries_eq_map]
    rfl

/-- Objects that are still to be made have no content. -/
def Fresh (heap : Heap) : Prop := ∀ n, heap.next ≤ n → heap.contents.lookup n = none

end Heap

namespace Value

mutual

theorem le_adopt (all : Bool) (v : Value) (next : Nat) : next ≤ (v.adopt all next).2 := by
  cases v with
  | list id items =>
    rw [adopt]
    split
    · exact Nat.le_of_succ_le (le_adoptAll all items (next + 1))
    · exact Nat.le_refl next
  | dict id entries =>
    rw [adopt]
    split
    · exact Nat.le_of_succ_le (le_adoptEntries all entries (next + 1))
    · exact Nat.le_refl next
  | tuple items => exact le_adoptAll all items next
  | negated v => exact le_adopt all v next
  | _ => exact Nat.le_refl next
termination_by structural v

theorem le_adoptAll (all : Bool) (vs : List Value) (next : Nat) : next ≤ (adoptAll all next vs).2 := by
  match vs with
  | [] => exact Nat.le_refl next
  | v :: rest => exact Nat.le_trans (le_adopt all v next) (le_adoptAll all rest _)
termination_by structural vs

theorem le_adoptEntries (all : Bool) (entries : List (Value × Value)) (next : Nat) :
    next ≤ (adoptEntries all next entries).2 := by
  match entries with
  | [] => exact Nat.le_refl next
  | (k, v) :: rest => exact Nat.le_trans (le_adopt all v next) (le_adoptEntries all rest _)
termination_by structural entries

end

end Value

/-- A world in which variables can be set: the session is open and new objects are new. -/
structure World.Ready (w : World) : Prop where
  unlocked : w.session.locked = false
  fresh : w.heap.Fresh

/-- The world is ready, and the variables of a run show an integer under a name. -/
structure Counts (v : String) (i : Int) (w : World) (vars : Value) : Prop where
  ready : w.Ready
  shown : ∃ id entries, w.heap.current vars = .dict id entries ∧ Entries.named? entries v = some (.int i)

/-- The scope of the session where a counter belongs holds its value. -/
def Session.Stores (s : Session) (v : String) (i : Int) : Prop :=
  Entries.named? (s.entriesIn (variableScope v)) v = some (.int i)

variable {w : World} {vars param : Value} {i : Int}

/-- A new mapping gets the next identity. -/
theorem Run.store_dict (entries : Entries) (w : World) : Run.store (.dict .anonymous entries) w =
    .ok (.dict (.object w.heap.next) (Value.adoptEntries false (w.heap.next + 1) entries).1)
      { w with heap := { w.heap with next := (Value.adoptEntries false (w.heap.next + 1) entries).2 } } := rfl

/-! ## Expanding what counts -/

private theorem Counts.followSteps (h : Counts v i w vars) (app : Application) {step : Access} {u : Value}
    (hstep : followStep app vars (.int i) step w = .ok u w) (hu : w.heap.current u = u) :
    followSteps app vars vars [.member (.str v), step] w = .ok u w := by
  obtain ⟨id, entries, hcurrent, hnamed⟩ := h.shown
  have hmember : followStep app vars vars (.member (.str v)) w = .ok (.int i) w := by
    have hget : Entries.get? entries (.str v) = some (.int i) := hnamed
    rw [followStep, bind_ok (current_eq vars w), hcurrent]
    simp [Value.lookup, Value.hashable, hget, Value.ofOption, Run.ofOutcome]
    rfl
  rw [Colloquy.followSteps, bind_ok hmember, Colloquy.followSteps, bind_ok hstep, Colloquy.followSteps, current_eq, hu]

namespace Expander

variable {x : Expander} {u : Value}

/-- A parameter whose expansion ends as soon as it starts, without a change of the world. -/
def Settles (x : Expander) (param u : Value) (w : World) : Prop := x.start param w = .ok (.ended (.ok u) false []) w

theorem settles_int (x : Expander) (i : Int) (w : World) : x.Settles (.int i) (.int i) w := by
  unfold Settles start
  rw [bind_ok (current_eq _ w), Heap.current_int]
  rfl

private theorem settles_accessor {steps : List Access} (h : followSteps x.app x.vars x.vars steps w = .ok u w)
    (hu : awaited x.app u = pure u) (id : Identity) : x.Settles (.accessor id steps) u w := by
  have hcall : callHandler x.app (.accessor id steps) x.vars x.session x.path w = .ok u w := by
    change (followSteps x.app x.vars x.vars steps >>= fun v => awaited x.app v) w = _
    rw [bind_ok h, hu]
    rfl
  have hended : outcome (do x.resume (← callHandler x.app (.accessor id steps) x.vars x.session x.path) []) w =
      .ok (.ok u) w := by
    unfold outcome
    rw [bind_ok hcall]
    rfl
  unfold Settles start
  rw [bind_ok (current_eq _ w), Heap.current_accessor]
  change (outcome _ >>= fun result => pure (Task.ended result false [])) w = _
  rw [bind_ok hended]
  rfl

private theorem Settles.expand (h : x.Settles param u w) : x.expand param w = .ok u w := by
  obtain ⟨fuel, hfuel⟩ := Nat.exists_eq_add_of_le' (le_rounds (w.heap.current param))
  rw [Expander.expand, bind_ok (current_eq _ w), bind_ok h, hfuel]
  rfl

private theorem Settles.expandAll (h : x.Settles param u w) : x.expandAll [param] w = .ok [u] w := by
  have hstart : x.round (.group .items [] none [.fresh param]) w =
      .ok (.group .items [] none [.ended (.ok u) false []]) w := by
    have hall : x.roundAll [.fresh param] w = .ok [.ended (.ok u) false []] w := by
      rw [roundAll, round, bind_ok h]
      rfl
    rw [round, bind_ok hall]
    rfl
  have hcomplete (fuel : Nat) :
      x.complete (fuel + 4) (.group .items [] none [.fresh param]) w = .ok (.list .anonymous [u]) w := by
    change (x.round (.group .items [] none [.fresh param]) >>= x.complete (fuel + 3)) w = _
    rw [bind_ok hstart]
    rfl
  obtain ⟨fuel, hfuel⟩ : ∃ fuel, rounds (w.heap.current (.ofList [param])) = fuel + 4 :=
    Nat.exists_eq_add_of_le' (Nat.le_trans (by decide) (le_rounds _))
  have hgather : x.gather .items [] [param] w = .ok (.group .items [] none [.fresh param]) w := rfl
  rw [Expander.expandAll, bind_ok (current_eq _ w), bind_ok hgather, hfuel, bind_ok (hcomplete fuel)]
  rfl

private theorem Settles.expandSet (hv : PlainName v) (h : x.Settles param u w) (hparam : w.heap.current param = param)
    (hu : u.Owned) : x.expandSet (.record [(v, param)]) w =
      .ok (.dict (.object w.heap.next) [(.str v, u)]) { w with heap := { w.heap with next := w.heap.next + 1 } } := by
  have hcurrent : w.heap.current (.record [(v, param)]) = .dict .anonymous [(.str v, param)] := by
    simp [Value.record, Heap.current_dict, Entries.mapValues, hparam]
  have hsubscript : (Value.dict .anonymous [(.str v, param)]).subscript (.str v) = .ok param := by
    simp [Value.subscript, Value.hashable, Entries.get?, Value.same_str, Value.text?]
  have hassign : assignments (.str v) u = pure [(.str v, u)] := by
    simp only [assignments, hv.parseDestructuring]
  rw [Expander.expandSet, bind_ok (current_eq _ w), hcurrent]
  change (do
    let params ← [Value.str v].mapM fun k => Run.ofOutcome ((Value.dict .anonymous [(.str v, param)]).subscript k)
    let values ← x.expandAll params
    let assigned ← ([Value.str v].zip values).mapM fun entry : Value × Value => assignments entry.1 entry.2
    Run.store (.dict .anonymous (Entries.ofList assigned.flatten))) w = _
  simp only [List.mapM_cons, List.mapM_nil, hsubscript]
  change (do
    let values ← x.expandAll [param]
    let assigned ← ([Value.str v].zip values).mapM fun entry : Value × Value => assignments entry.1 entry.2
    Run.store (.dict .anonymous (Entries.ofList assigned.flatten))) w = _
  rw [bind_ok h.expandAll]
  simp only [List.zip_cons_cons, List.zip_nil_left, List.mapM_cons, List.mapM_nil, hassign, pure_bind]
  have howned : ∀ entry ∈ [(Value.str v, u)], entry.2.Owned := by simpa using hu
  change Run.store (.dict .anonymous [(.str v, u)]) w = _
  rw [store_dict, Value.adoptEntries_of_owned howned]

end Expander

/-! ## Setting counters -/

def Session.saving (s : Session) (v : String) (u : Value) : Session :=
  (s.assign v u).record (.saved ⟨(s.assign v u).globals, (s.assign v u).locals⟩)

private theorem Session.save_single {s : Session} (hlocked : s.locked = false) (hv : v ≠ "") (id : Identity)
    (u : Value) :
    Session.save (.dict id [(.str v, u)]) s = .ok () (s.saving v u) := by
  have hset : Session.set (.dict id [(.str v, u)]) .none s = .ok () (s.assign v u) := by
    rw [set_eq_setAll]
    change setAll [(.str v, u)] s = _
    rw [setAll_cons, setOne_eq]
    simp [Value.text?, hv]
    rfl
  have htruthy : (Value.dict id [(.str v, u)]).truthy = true := rfl
  rw [save_eq _ hlocked, htruthy, if_pos rfl, hset]
  rfl

private theorem Session.stores_saving (s : Session) (v : String) (i : Int) : (s.saving v (.int i)).Stores v i := by
  unfold Stores saving
  rw [entriesIn_record, entriesIn_assign, if_pos rfl, Entries.named?_put_self]

namespace Machine

variable {m : Machine} {path : FlowPath}

private theorem setVariables_single (hv : PlainName v) (hready : w.Ready) (hparam : w.heap.current param = param)
    (hsettles : (m.expander vars path).Settles param (.int i) w) :
    m.setVariables path [(v, param)] vars w = .ok [(.str v, .int i)]
      { w with session := w.session.saving v (.int i), heap := { w.heap with next := w.heap.next + 1 } } := by
  let w₁ : World := { w with heap := { w.heap with next := w.heap.next + 1 } }
  have hstored : w₁.heap.current (.dict (.object w.heap.next) [(.str v, .int i)]) =
      .dict (.object w.heap.next) [(.str v, .int i)] := by
    have hnew : w₁.heap.contents.lookup w.heap.next = none := hready.fresh _ (Nat.le_refl _)
    rw [Heap.current_unchanged hnew]
    simp [Entries.mapValues, Heap.current_int]
  have hsave : Run.onSession (Session.save (.dict (.object w.heap.next) [(.str v, .int i)])) w₁ =
      .ok () { w₁ with session := w.session.saving v (.int i) } :=
    onSession_ok (Session.save_single hready.unlocked hv.nonempty _ _)
  rw [setVariables, bind_ok (hsettles.expandSet hv hparam trivial), bind_ok (current_eq _ w₁), hstored, bind_ok hsave]
  rfl

private theorem overlay_counter (hready : w.Ready) {id : Identity} {entries : Entries}
    (hcurrent : w.heap.current vars = .dict id entries) (values : Entries)
    (hnamed : Entries.named? (Entries.merge entries values) v = some (.int i)) :
    ∃ w' vars', overlay vars values w = .ok vars' w' ∧ Counts v i w' vars' ∧ w'.session = w.session := by
  let merged := Entries.merge entries values
  have hoverlay : overlay vars values w = Run.store (.dict .anonymous merged) w := by
    rw [overlay, bind_ok (current_eq vars w), hcurrent]
  let adopted := Value.adoptEntries false (w.heap.next + 1) merged
  let w' : World := { w with heap := { w.heap with next := adopted.2 } }
  have hfresh : w'.heap.Fresh := fun n hn =>
    hready.fresh n (Nat.le_trans (Nat.le_of_succ_le (Value.le_adoptEntries false merged _)) hn)
  have hnew : w'.heap.contents.lookup w.heap.next = none := hready.fresh _ (Nat.le_refl _)
  refine ⟨w', .dict (.object w.heap.next) adopted.1, hoverlay.trans (store_dict merged w),
    ⟨⟨hready.unlocked, hfresh⟩, _, _, Heap.current_unchanged hnew _, ?_⟩, rfl⟩
  have hadopted : Entries.named? adopted.1 v = some (.int i) := by
    rw [Value.named?_adoptEntries (fun u hu => ?_), hnamed]
    obtain rfl := Option.some.inj (hnamed.symm.trans hu)
    trivial
  rw [Entries.named?_mapValues, hadopted]
  exact congrArg some (Heap.current_int _ i)

private theorem assign_single {x : String} {j : Int} (hx : PlainName x) (hready : w.Ready) {id : Identity}
    {entries : Entries} (hcurrent : w.heap.current vars = .dict id entries) (hparam : w.heap.current param = param)
    (hsettles : (m.expander vars path).Settles param (.int j) w)
    (hnamed : Entries.named? (Entries.put entries x (.int j)) v = some (.int i)) :
    ∃ w' vars', m.assign path [(x, param)] vars w = .ok vars' w' ∧ Counts v i w' vars' ∧
      w'.session = w.session.saving x (.int j) := by
  let w₁ : World :=
    { w with session := w.session.saving x (.int j), heap := { w.heap with next := w.heap.next + 1 } }
  have hready₁ : w₁.Ready := by
    refine ⟨?_, fun n hn => hready.fresh n (Nat.le_of_succ_le hn)⟩
    exact (Session.quiet_assign w.session x (.int j)).locked.trans hready.unlocked
  have hcurrent₁ : w₁.heap.current vars = .dict id entries := by
    have hsame : w₁.heap.contents = w.heap.contents := rfl
    rw [Heap.current_congr hsame, hcurrent]
  rw [assign, bind_ok (setVariables_single hx hready hparam hsettles)]
  exact overlay_counter hready₁ hcurrent₁ [(.str x, .int j)] hnamed

theorem assign_other {x : String} {j : Int} (hx : PlainName x) (hne : v ≠ x) (h : Counts v i w vars)
    (hparam : w.heap.current param = param) (hsettles : (m.expander vars path).Settles param (.int j) w) :
    ∃ w' vars', m.assign path [(x, param)] vars w = .ok vars' w' ∧ Counts v i w' vars' := by
  obtain ⟨id, entries, hcurrent, hnamed⟩ := h.shown
  rw [← Entries.named?_put_of_ne hne entries (.int j)] at hnamed
  obtain ⟨w', vars', hassign, hcounts, -⟩ := assign_single (m := m) hx h.ready hcurrent hparam hsettles hnamed
  exact ⟨w', vars', hassign, hcounts⟩

private theorem assign_counter (hv : PlainName v) (hready : w.Ready)
    (hvars : ∃ id entries, w.heap.current vars = .dict id entries) (hparam : w.heap.current param = param)
    (hsettles : (m.expander vars path).Settles param (.int i) w) :
    ∃ w' vars', m.assign path [(v, param)] vars w = .ok vars' w' ∧ Counts v i w' vars' ∧ w'.session.Stores v i := by
  obtain ⟨id, entries, hcurrent⟩ := hvars
  obtain ⟨w', vars', hassign, hcounts, hsession⟩ :=
    assign_single (m := m) hv hready hcurrent hparam hsettles (Entries.named?_put_self entries v (.int i))
  exact ⟨w', vars', hassign, hcounts, hsession ▸ Session.stores_saving w.session v i⟩

/-- A variable of a plain name starts to count at an integer. -/
theorem assign_int (hv : PlainName v) (hready : w.Ready) (hvars : ∃ id entries, w.heap.current vars = .dict id entries)
    (path : FlowPath) (i : Int) :
    ∃ w' vars', m.assign path [(v, .int i)] vars w = .ok vars' w' ∧ Counts v i w' vars' ∧ w'.session.Stores v i :=
  assign_counter hv hready hvars (Heap.current_int _ i) (Expander.settles_int _ i w)

private theorem resolve_int (app : Application) (vars : Value) (k : Int) (w : World) :
    resolve app vars (.int k) w = .ok (.int k) w := by
  rw [resolve, current_eq, Heap.current_int]
  nofun

theorem assign_increment (hv : PlainName v) (h : Counts v i w vars) (path : FlowPath) {k : Int}
    (hk : Value.tooLong k = false) :
    ∃ w' vars', m.assign path (incrementValues [(v, .int k)]) vars w = .ok vars' w' ∧ Counts v (i + k) w' vars' ∧
      w'.session.Stores v (i + k) := by
  have hvalues : incrementValues [(v, .int k)] =
      [(v, .accessor .anonymous [.member (.str v), .compute .add (.int k)])] := by
    simp [incrementValues, incrementValue_eq, Value.isNumber, Value.unwritable, hk, hv.members, Except.toOption]
  have hstep : followStep m.app vars (.int i) (.compute .add (.int k)) w = .ok (.int (i + k)) w := by
    rw [followStep, bind_ok (resolve_int m.app vars k w), bind_ok (current_eq _ w), Heap.current_int]
    rfl
  obtain ⟨id, entries, hcurrent, -⟩ := h.shown
  rw [hvalues]
  exact assign_counter hv h.ready ⟨id, entries, hcurrent⟩ (Heap.current_accessor _ _ _)
    (Expander.settles_accessor (h.followSteps m.app hstep (Heap.current_int _ _)) rfl _)

theorem holds_below (h : Counts v i w vars) (path : FlowPath) (id : Identity) (n : Int) :
    m.holds path (.accessor id [.member (.str v), .compare .lt (.int n)]) vars w = .ok (decide (i < n)) w := by
  have horder : (Value.int i).order .lt (.int n) = .ok (decide (i < n)) := by
    have hlt : (compare i n == .lt) = decide (i < n) := by
      rw [Bool.eq_iff_iff]
      simp [Int.compare_eq_lt]
    exact congrArg Except.ok hlt
  have hstep : followStep m.app vars (.int i) (.compare .lt (.int n)) w = .ok (.bool (decide (i < n))) w := by
    rw [followStep, bind_ok (resolve_int m.app vars n w), bind_ok (current_eq _ w), Heap.current_int]
    simp [Comparison.apply, Value.isNone, horder]
    rfl
  have hfollow := h.followSteps m.app hstep (Heap.current_bool _ _)
  have hexpand := (Expander.settles_accessor (x := m.expander vars path) hfollow rfl id).expand
  rw [holds, bind_ok hexpand, bind_ok (current_eq _ w), Heap.current_bool]
  rfl

end Machine

end Colloquy
